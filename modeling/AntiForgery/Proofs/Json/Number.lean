import AntiForgery.Json.Record
import Mathlib.Algebra.Group.Nat.Defs
import Mathlib.Data.List.Basic

/-!
# Integers that are read back

The decimal text of an integer of sixty-four bits, in front of anything that does not go on with the
number, is read as that integer.  Its digits are those of a number in the grammar: there is at least
one, the first of several is no zero, and nineteen are enough.
-/

namespace AntiForgery
namespace Integer

theorem natDigits_ne_nil (value : Nat) : natDigits value ≠ [] := by
  simp [natDigits, Nat.toDigits_ne_nil]

/-- A decimal digit keeps its number when it becomes a byte. -/
theorem toNat_toUInt8_of_isDigit {char : Char} (digit : char.isDigit = true) :
    char.toUInt8.toNat = char.toNat ∧ Text.isDigitByte char.toUInt8 = true := by
  have bounds : 48 ≤ char.toNat ∧ char.toNat ≤ 57 := Char.isDigit_iff_toNat.mp digit
  have same : char.toUInt8.toNat = char.toNat := by
    simp only [Char.toUInt8, UInt32.toNat_toUInt8, Char.toNat] at bounds ⊢
    omega
  refine ⟨same, ?_⟩
  simp only [Text.isDigitByte, Bool.and_eq_true, decide_eq_true_eq, UInt8.le_iff_toNat_le, same]
  exact bounds

theorem isDigitByte_of_mem_natDigits
    {value : Nat}
    {byte : UInt8}
    (member : byte ∈ natDigits value) :
    Text.isDigitByte byte = true := by
  obtain ⟨char, digit, rfl⟩ := List.mem_map.mp member
  have isDigit := Nat.isDigit_of_mem_toDigits (by decide) (by decide) digit
  exact (toNat_toUInt8_of_isDigit isDigit).2

theorem length_natDigits_le {value width : Nat} (positive : 0 < width)
    (small : value < 10 ^ width) :
    (natDigits value).length ≤ width := by
  rw [natDigits, List.length_map]
  exact (Nat.length_toDigits_le_iff (by decide) positive).mpr small

/-- The first digit of a number is no zero, unless it is the only one. -/
theorem head?_natDigits_ne {value : Nat} (positive : 0 < value) :
    (natDigits value).head? ≠ some 0x30 := by
  induction value using Nat.strongRecOn with
  | ind value ih =>
      by_cases single : value < 10
      · have cases : ∀ n : Fin 10, 0 < n.val → (natDigits n.val).head? ≠ some 0x30 := by decide
        exact cases ⟨value, single⟩ positive
      · have split : natDigits value =
            natDigits (value / 10) ++ [(Nat.digitChar (value % 10)).toUInt8] := by
          rw [natDigits, Nat.toDigits_of_base_le (by decide) (by omega), List.map_append]
          rfl
        rw [split, List.head?_append_of_ne_nil _ (natDigits_ne_nil _)]
        exact ih (value / 10) (by omega) (by omega)

/-- Only zero is written with a leading zero. -/
theorem length_natDigits_of_head? {value : Nat} (zero : (natDigits value).head? = some 0x30) :
    (natDigits value).length = 1 := by
  rcases Nat.eq_zero_or_pos value with rfl | positive
  · rfl
  · exact absurd zero (head?_natDigits_ne positive)

/-- The text of an integer begins with a minus sign or a digit. -/
theorem exists_digits_eq_cons (value : Int) :
    ∃ byte rest, digits value = byte :: rest ∧ (byte = 0x2D ∨ Text.isDigitByte byte = true) := by
  rw [digits]
  split
  · exact ⟨_, _, rfl, .inl rfl⟩
  · cases written : natDigits value.natAbs with
    | nil => exact absurd written (natDigits_ne_nil _)
    | cons byte rest =>
        have member : byte ∈ natDigits value.natAbs := by
          rw [written]
          exact List.mem_cons_self
        exact ⟨byte, rest, rfl, .inr (isDigitByte_of_mem_natDigits member)⟩

end Integer

namespace Json

theorem not_isSpace_of_digit {byte : UInt8} (digit : Text.isDigitByte byte = true) :
    isSpace byte = false := by
  have cases : ∀ n : Fin 256, Text.isDigitByte (UInt8.ofNat n.val) = true →
      isSpace (UInt8.ofNat n.val) = false := by decide +kernel
  have known := cases ⟨byte.toNat, byte.toNat_lt⟩
  simp only [UInt8.ofNat_toNat] at known
  exact known digit

namespace Number

/-- The digits of a number spell it. -/
theorem valueOf_natDigits (value : Nat) : valueOf (Integer.natDigits value) = value := by
  have digits : ∀ (chars : List Char) (start : Nat), (∀ char ∈ chars, char.isDigit = true) →
      (chars.map Char.toUInt8).foldl (fun value digit => 10 * value + (digit.toNat - 0x30)) start =
        Nat.ofDigitChars 10 chars start := by
    intro chars
    induction chars with
    | nil => exact fun _ _ => rfl
    | cons char rest ih =>
        intro start allDigits
        have same := (Integer.toNat_toUInt8_of_isDigit (allDigits char List.mem_cons_self)).1
        rw [List.map_cons, List.foldl_cons, Nat.ofDigitChars_cons, same,
          ih _ fun other member => allDigits other (List.mem_cons_of_mem _ member)]
        rfl
  rw [valueOf, Integer.natDigits,
    digits _ _ fun _ member => Nat.isDigit_of_mem_toDigits (by decide) (by decide) member]
  exact Nat.ofDigitChars_toDigits (by decide) (by decide)

/-- The bytes do not go on with a number that ends in front of them. -/
def Ends (rest : List UInt8) : Prop :=
  ∀ byte ∈ rest.head?, Text.isDigitByte byte = false ∧ byte ≠ point ∧ isExponentLetter byte = false

/-- The digits of a number are read up to its end. -/
theorem readDigits?_append
    {digits rest : List UInt8}
    (nonempty : digits ≠ [])
    (all : ∀ byte ∈ digits, Text.isDigitByte byte = true)
    (ends : Ends rest) :
    readDigits? (digits ++ rest) = some (digits, rest) := by
  have stop : rest.takeWhile Text.isDigitByte = [] ∧ rest.dropWhile Text.isDigitByte = rest := by
    cases rest with
    | nil => exact ⟨rfl, rfl⟩
    | cons byte others =>
        have other := (ends byte rfl).1
        simp [other]
  rw [readDigits?, List.takeWhile_append_of_pos all, List.dropWhile_append_of_pos all, stop.1,
    stop.2, List.append_nil]
  simp [nonempty]

/-- The digits of a number are read as a number without a fraction and an exponent. -/
theorem readUnsigned?_natDigits
    (negative : Bool)
    (value : Nat)
    {rest : List UInt8}
    (ends : Ends rest) :
    readUnsigned? negative (Integer.natDigits value ++ rest) =
      some (⟨negative, Integer.natDigits value, [], none⟩, rest) := by
  have digits := readDigits?_append (Integer.natDigits_ne_nil value)
    (fun _ => Integer.isDigitByte_of_mem_natDigits) ends
  have leading : ¬ ((Integer.natDigits value).head? = some 0x30 ∧
      1 < (Integer.natDigits value).length) := by
    rintro ⟨zero, several⟩
    rw [Integer.length_natDigits_of_head? zero] at several
    omega
  have whole : readWhole? (Integer.natDigits value ++ rest) =
      some (Integer.natDigits value, rest) := by
    rw [readWhole?, digits]
    exact if_neg leading
  have fraction : readFraction? rest = some ([], rest) := by
    cases rest with
    | nil => rfl
    | cons byte others => exact if_neg (ends byte rfl).2.1
  have exponent : readExponent? rest = some (none, rest) := by
    cases rest with
    | nil => rfl
    | cons byte others => exact if_neg (by simp [(ends byte rfl).2.2])
  simp only [readUnsigned?, whole, fraction, exponent, Option.bind_eq_bind, Option.bind_some]
  rfl

/-- What is known of an integer of sixty-four bits: its size has nineteen digits at most, and the
sign goes with it. -/
theorem integer?_of_digits (value : Int64) :
    integer? ⟨decide (value.toInt < 0), Integer.natDigits value.toInt.natAbs, [], none⟩ =
      some value := by
  have least := value.le_toInt
  have largest := value.toInt_lt
  have short : (Integer.natDigits value.toInt.natAbs).length ≤ 19 :=
    Integer.length_natDigits_le (by decide) (by omega)
  have signed : (if decide (value.toInt < 0) then -(value.toInt.natAbs : Int)
      else value.toInt.natAbs) = value.toInt := by
    by_cases below : value.toInt < 0
    · rw [if_pos (by simpa using below)]
      omega
    · rw [if_neg (by simpa using below)]
      omega
  have fits : Integer.fits value.toInt = true := by
    have minimum : Int64.minValue.toInt = -2 ^ 63 := by decide
    have maximum : Int64.maxValue.toInt = 2 ^ 63 - 1 := by decide
    simp only [Integer.fits, minimum, maximum, Bool.and_eq_true, decide_eq_true_eq]
    omega
  have zero : ¬ (decide (value.toInt < 0) && (value.toInt.natAbs : Int) == 0) = true := by
    simp only [Bool.and_eq_true, decide_eq_true_eq, beq_iff_eq]
    omega
  rw [integer?, if_neg (by simpa using short)]
  simp only [valueOf_natDigits, if_neg zero, signed, if_pos fits, Int64.ofInt_toInt]

/-- The text of an integer is read as a number with its sign. -/
theorem read?_digits (value : Int) {rest : List UInt8} (ends : Ends rest) :
    read? (Integer.digits value ++ rest) =
      some (⟨decide (value < 0), Integer.natDigits value.natAbs, [], none⟩, rest) := by
  rw [Integer.digits]
  by_cases below : value < 0
  · rw [if_pos below, decide_eq_true below, ← readUnsigned?_natDigits true _ ends]
    rfl
  · rw [if_neg below, decide_eq_false below, ← readUnsigned?_natDigits false _ ends]
    have digits := fun byte => @Integer.isDigitByte_of_mem_natDigits value.natAbs byte
    cases written : Integer.natDigits value.natAbs with
    | nil => exact absurd written (Integer.natDigits_ne_nil _)
    | cons byte others =>
        have digit := digits byte (by rw [written]; exact List.mem_cons_self)
        have unsigned : byte ≠ minus := by
          rintro rfl
          revert digit
          decide
        rw [List.cons_append, read?, if_neg unsigned]

end Number

/-- The text of an integer of sixty-four bits is read as that integer. -/
theorem readInteger_digits (value : Int64) {rest : List UInt8} (ends : Number.Ends rest) :
    readInteger (Integer.digits value.toInt ++ rest) = .ok (value, rest) := by
  have solid : skipSpace (Integer.digits value.toInt ++ rest) =
      Integer.digits value.toInt ++ rest := by
    obtain ⟨byte, others, written, mark⟩ := Integer.exists_digits_eq_cons value.toInt
    rw [written, List.cons_append, skipSpace, List.dropWhile_cons_of_neg]
    rcases mark with rfl | digit
    · decide
    · rw [not_isSpace_of_digit digit]
      exact Bool.false_ne_true
  simp only [readInteger, solid, Number.read?_digits value.toInt ends, Number.integer?_of_digits]

end Json
end AntiForgery
