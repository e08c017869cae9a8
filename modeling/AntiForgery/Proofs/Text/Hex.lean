import AntiForgery.Proofs.Text.Utf8
import AntiForgery.Text.Hex

/-!
# What hexadecimal texts denote

Two digits denote a byte, each digit by its place among the sixteen, in lower or in upper case.  Exactly the
texts that denote bytes in this way are read, and they are read as those bytes.
-/

namespace AntiForgery
namespace Hex

/-- The digits in lower case, each at the place that is its value. -/
def lowerDigits : List Char := "0123456789abcdef".toList

/-- The digits in upper case, each at the place that is its value. -/
def upperDigits : List Char := "0123456789ABCDEF".toList

/-- The character is the digit of this value, in either case. -/
def IsDigit (char : Char) (value : Nat) : Prop :=
  lowerDigits[value]? = some char ∨ upperDigits[value]? = some char

instance (char : Char) (value : Nat) : Decidable (IsDigit char value) :=
  inferInstanceAs (Decidable (_ ∨ _))

/-- The bytes that pairs of digits denote, the higher half first. -/
inductive Denotes : List Char → List UInt8 → Prop
  | nil : Denotes [] []
  | cons
      {high low : Char}
      {highValue lowValue : Nat}
      {rest : List Char}
      {bytes : List UInt8}
      (highDigit : IsDigit high highValue)
      (lowDigit : IsDigit low lowValue)
      (others : Denotes rest bytes) :
      Denotes (high :: low :: rest) (UInt8.ofNat (16 * highValue + lowValue) :: bytes)

/-- The character is one byte of ASCII, which is read as a digit of this value. -/
def IsRead (char : Char) (value : Nat) : Prop :=
  digitValue? (UInt8.ofNat char.toNat) = some (UInt8.ofNat value) ∧
    Char.ofNat (UInt8.ofNat char.toNat).toNat = char ∧ UInt8.ofNat char.toNat < 128

instance (char : Char) (value : Nat) : Decidable (IsRead char value) :=
  inferInstanceAs (Decidable (_ ∧ _ ∧ _))

theorem isRead_of_isDigit {char : Char} {value : Nat} (digit : IsDigit char value) :
    IsRead char value := by
  have lower : ∀ place : Fin lowerDigits.length, IsRead (lowerDigits.get place) place := by
    decide
  have upper : ∀ place : Fin upperDigits.length, IsRead (upperDigits.get place) place := by
    decide
  rcases digit with found | found
  · obtain ⟨small, rfl⟩ := List.getElem?_eq_some_iff.mp found
    exact lower ⟨value, small⟩
  · obtain ⟨small, rfl⟩ := List.getElem?_eq_some_iff.mp found
    exact upper ⟨value, small⟩

theorem isDigit_of_digitValue? {letter value : UInt8} (digit : digitValue? letter = some value) :
    IsDigit (Char.ofNat letter.toNat) value.toNat ∧ letter < 128 := by
  have all : ∀ place : Fin 256,
      (digitValue? (UInt8.ofNat place.val)).all (fun value =>
        IsDigit (Char.ofNat place.val) value.toNat ∧ UInt8.ofNat place.val < 128) = true := by
    decide +kernel
  have found := all ⟨letter.toNat, letter.toNat_lt⟩
  rwa [UInt8.ofNat_toNat, digit, Option.all_some, decide_eq_true_eq] at found

/-! ### Reading pairs of digits -/

/-- What is read is denoted by the text, and all of the text is ASCII. -/
theorem denotes_of_decodePairs
    {position : Nat}
    {letters bytes : List UInt8}
    (even : letters.length % 2 = 0)
    (read : decodePairs position letters = .ok bytes) :
    Denotes (letters.map fun letter => Char.ofNat letter.toNat) bytes ∧
      ∀ letter ∈ letters, letter < 128 := by
  fun_induction decodePairs position letters generalizing bytes with
  | case1 => cases read
  | case2 => cases read
  | case3 position high low rest highValue lowValue lowRead highRead ih =>
      obtain ⟨highDigit, highAscii⟩ := isDigit_of_digitValue? highRead
      obtain ⟨lowDigit, lowAscii⟩ := isDigit_of_digitValue? lowRead
      cases inner : decodePairs (position + 2) rest with
      | error fault => simp [inner, Except.map] at read
      | ok others =>
          have shorter : rest.length % 2 = 0 := by
            rw [List.length_cons, List.length_cons] at even
            omega
          obtain ⟨denotes, ascii⟩ := ih shorter inner
          have joined : UInt8.ofNat (16 * highValue.toNat + lowValue.toNat) =
              16 * highValue + lowValue := by
            simp
          rw [inner] at read
          obtain rfl := Except.ok.inj read
          refine ⟨?_, by simpa [highAscii, lowAscii] using ascii⟩
          rw [← joined]
          exact .cons highDigit lowDigit denotes
  | case4 letters position short =>
      cases letters with
      | nil =>
          obtain rfl := Except.ok.inj read
          exact ⟨.nil, by simp⟩
      | cons letter rest =>
          cases rest with
          | nil => simp at even
          | cons other rest => exact absurd rfl (short letter other rest)

/-- What a text denotes is read, wherever the text begins. -/
theorem decodePairs_of_denotes {chars : List Char} {bytes : List UInt8}
    (denotes : Denotes chars bytes) :
    ∃ letters : List UInt8,
      chars = letters.map (fun letter => Char.ofNat letter.toNat) ∧
      (∀ letter ∈ letters, letter < 128) ∧
      letters.length % 2 = 0 ∧
      ∀ position, decodePairs position letters = .ok bytes := by
  induction denotes with
  | nil => exact ⟨[], rfl, by simp, rfl, fun _ => rfl⟩
  | @cons high low highValue lowValue rest bytes highDigit lowDigit others ih =>
      obtain ⟨highRead, highChar, highAscii⟩ := isRead_of_isDigit highDigit
      obtain ⟨lowRead, lowChar, lowAscii⟩ := isRead_of_isDigit lowDigit
      obtain ⟨letters, rfl, ascii, even, read⟩ := ih
      refine ⟨UInt8.ofNat high.toNat :: UInt8.ofNat low.toNat :: letters, ?_, ?_, ?_, ?_⟩
      · rw [List.map_cons, List.map_cons, highChar, lowChar]
      · simpa [highAscii, lowAscii] using ascii
      · rw [List.length_cons, List.length_cons]
        omega
      · intro position
        simp [decodePairs, highRead, lowRead, read, Except.map]

/-- Every byte takes two digits. -/
theorem Denotes.length_eq {digits : List Char} {bytes : List UInt8} (denotes : Denotes digits bytes) :
    digits.length = 2 * bytes.length := by
  induction denotes with
  | nil => rfl
  | cons _ _ _ ih =>
      rw [List.length_cons, List.length_cons, List.length_cons, ih]
      omega

/-- Letters that are decoded denote the bytes that come out. -/
theorem denotes_of_decode {letters bytes : List UInt8} (read : decode letters = .ok bytes) :
    Denotes (letters.map fun letter => Char.ofNat letter.toNat) bytes ∧
      ∀ letter ∈ letters, letter < 128 := by
  rw [decode] at read
  split at read
  · cases read
  · next even => exact denotes_of_decodePairs (by omega) read

theorem decode_of_denotes {digits : List Char} {bytes : List UInt8}
    (denotes : Denotes digits bytes) :
    ∃ letters : List UInt8,
      digits = letters.map (fun letter => Char.ofNat letter.toNat) ∧
      (∀ letter ∈ letters, letter < 128) ∧
      decode letters = .ok bytes := by
  obtain ⟨letters, chars, ascii, even, read⟩ := decodePairs_of_denotes denotes
  refine ⟨letters, chars, ascii, ?_⟩
  rw [decode, if_neg (by omega), read]

/-- A text is read as bytes exactly when it denotes them. -/
theorem decode_eq_ok_iff {text : String} {bytes : List UInt8} :
    decode (Text.utf8 text) = .ok bytes ↔ Denotes text.toList bytes := by
  constructor
  · intro read
    obtain ⟨denotes, ascii⟩ := denotes_of_decode read
    rw [Text.toList_of_ascii ascii]
    exact denotes
  · intro denotes
    obtain ⟨letters, chars, ascii, read⟩ := decode_of_denotes denotes
    have same : text = Text.ofAscii letters := by
      rw [Text.ofAscii, ← chars, String.ofList_toList]
    rw [same, Text.utf8_ofAscii ascii, read]

end Hex
end AntiForgery
