import AntiForgery.Proofs.Text.Integer

/-!
# What decimal texts denote

An optional sign and one or more digits denote an integer, however long they are.  Exactly the texts that
denote an integer of sixty-four bits are read, and they are read as that integer: the value only moves away
from zero as digits are appended, so a reading that stops early would not have come back.
-/

namespace AntiForgery
namespace Integer

/-- One or more ASCII digits. -/
structure IsNumeral (digits : List Char) : Prop where
  filled : digits ≠ []
  digits : ∀ char ∈ digits, char.isDigit = true

/-- The integer that an optional sign and digits denote. -/
inductive Denotes : List Char → Int → Prop
  | plain {digits : List Char} (numeral : IsNumeral digits) :
      Denotes digits (Nat.ofDigitChars 10 digits 0)
  | plus {digits : List Char} (numeral : IsNumeral digits) :
      Denotes ('+' :: digits) (Nat.ofDigitChars 10 digits 0)
  | minus {digits : List Char} (numeral : IsNumeral digits) :
      Denotes ('-' :: digits) (-(Nat.ofDigitChars 10 digits 0 : Int))

/-- Whether a text begins with a minus sign, and what follows the sign, if there is one. -/
def unsigned : List Char → Bool × List Char
  | '+' :: rest => (false, rest)
  | '-' :: rest => (true, rest)
  | chars => (false, chars)

/-- The integer with a sign and a magnitude. -/
def signed (negative : Bool) (magnitude : Nat) : Int :=
  if negative then -magnitude else magnitude

theorem digitValue?_eq (char : Char) :
    digitValue? char = if char.isDigit then some (char.toNat - '0'.toNat) else none := by
  have same : ('0' ≤ char ∧ char ≤ '9') ↔ char.isDigit = true := by
    rw [Char.isDigit_iff_toNat]
    exact Iff.rfl
  rw [digitValue?]
  exact if_congr same rfl rfl

theorem fits_iff {value : Int} :
    fits value = true ↔ -9223372036854775808 ≤ value ∧ value ≤ 9223372036854775807 := by
  have least : Int64.minValue.toInt = -9223372036854775808 := by decide
  have largest : Int64.maxValue.toInt = 9223372036854775807 := by decide
  rw [fits, least, largest, Bool.and_eq_true, decide_eq_true_eq, decide_eq_true_eq]

/-- One more digit is added to the magnitude, whatever the sign. -/
theorem signed_append (negative : Bool) (magnitude digit : Nat) :
    (if negative then 10 * signed negative magnitude - digit
      else 10 * signed negative magnitude + digit) = signed negative (10 * magnitude + digit) := by
  cases negative <;> simp [signed]
  omega

/-- A magnitude fits if a larger one of the same sign does, so no digit before the last overflows. -/
theorem fits_signed_of_le
    {negative : Bool}
    {magnitude larger : Nat}
    (le : magnitude ≤ larger)
    (within : fits (signed negative larger) = true) :
    fits (signed negative magnitude) = true := by
  rw [fits_iff] at within ⊢
  cases negative
  · simp only [signed, Bool.false_eq_true, if_false] at within ⊢
    omega
  · simp only [signed, if_true] at within ⊢
    omega

/-- More digits never make the magnitude smaller. -/
theorem le_ofDigitChars (digits : List Char) (magnitude : Nat) :
    magnitude ≤ Nat.ofDigitChars 10 digits magnitude := by
  induction digits generalizing magnitude with
  | nil => exact Nat.le_refl magnitude
  | cons char rest ih =>
      rw [Nat.ofDigitChars_cons]
      have := ih (10 * magnitude + (char.toNat - '0'.toNat))
      omega

/-- Digits are read to their end if the value that they lead to fits, for then all before it did. -/
theorem appendDigits_eq_ok_iff
    {negative : Bool}
    {digits : List Char}
    {magnitude : Nat}
    (within : fits (signed negative magnitude) = true)
    {value : Int} :
    appendDigits negative (signed negative magnitude) digits = .ok value ↔
      (∀ char ∈ digits, char.isDigit = true) ∧
        value = signed negative (Nat.ofDigitChars 10 digits magnitude) ∧ fits value = true := by
  induction digits generalizing magnitude with
  | nil =>
      simp only [appendDigits, Except.ok.injEq, Nat.ofDigitChars_nil]
      constructor
      · rintro rfl
        exact ⟨by simp, rfl, within⟩
      · rintro ⟨_, rfl, _⟩
        rfl
  | cons char rest ih =>
      rw [appendDigits, digitValue?_eq]
      cases digit : char.isDigit with
      | false => simp [digit]
      | true =>
          simp only [if_true, signed_append, List.forall_mem_cons, digit, true_and,
            Nat.ofDigitChars_cons]
          split
          · next inside => exact ih inside
          · next outside =>
              constructor
              · intro stopped
                cases stopped
              · rintro ⟨_, rfl, final⟩
                exact absurd (fits_signed_of_le (le_ofDigitChars rest _) final) outside

/-- Digits are read as a value exactly if they are a numeral of it and it fits. -/
theorem appendDigits_zero_eq_ok_iff
    (negative : Bool)
    {digits : List Char}
    (filled : digits ≠ [])
    {value : Int} :
    appendDigits negative 0 digits = .ok value ↔
      (IsNumeral digits ∧ value = signed negative (Nat.ofDigitChars 10 digits 0)) ∧
        fits value = true := by
  have zero : signed negative 0 = 0 := by cases negative <;> rfl
  rw [← zero, appendDigits_eq_ok_iff (by rw [zero]; decide)]
  constructor
  · rintro ⟨numeral, same, final⟩
    exact ⟨⟨⟨filled, numeral⟩, same⟩, final⟩
  · rintro ⟨⟨numeral, same⟩, final⟩
    exact ⟨numeral.digits, same, final⟩

theorem unsigned_of_isNumeral {digits : List Char} (numeral : IsNumeral digits) :
    unsigned digits = (false, digits) := by
  have mark {char : Char} {rest : List Char} (same : digits = char :: rest) :
      char.isDigit = true :=
    numeral.digits char (same ▸ List.mem_cons_self)
  unfold unsigned
  split
  · exact absurd (mark rfl) (by decide)
  · exact absurd (mark rfl) (by decide)
  · rfl

/-- What a text denotes is found behind its sign. -/
theorem denotes_iff {chars : List Char} {value : Int} :
    Denotes chars value ↔
      IsNumeral (unsigned chars).2 ∧
        value = signed (unsigned chars).1 (Nat.ofDigitChars 10 (unsigned chars).2 0) := by
  constructor
  · intro denotes
    cases denotes with
    | plain numeral =>
        rw [unsigned_of_isNumeral numeral]
        exact ⟨numeral, rfl⟩
    | plus numeral => exact ⟨numeral, rfl⟩
    | minus numeral => exact ⟨numeral, rfl⟩
  · unfold unsigned
    split
    · rintro ⟨numeral, rfl⟩
      exact .plus numeral
    · rintro ⟨numeral, rfl⟩
      exact .minus numeral
    · rintro ⟨numeral, rfl⟩
      exact .plain numeral

/-- A text denotes no two integers. -/
theorem Denotes.unique {chars : List Char} {value other : Int}
    (first : Denotes chars value) (second : Denotes chars other) : value = other :=
  (denotes_iff.mp first).2.trans (denotes_iff.mp second).2.symm

theorem parseChars_of_filled {chars : List Char} (filled : (unsigned chars).2 ≠ []) :
    parseChars chars = appendDigits (unsigned chars).1 0 (unsigned chars).2 := by
  revert filled
  fun_cases unsigned chars with
  | case1 digits =>
      intro filled
      cases digits with
      | nil => exact absurd rfl filled
      | cons char rest => rfl
  | case2 digits =>
      intro filled
      cases digits with
      | nil => exact absurd rfl filled
      | cons char rest => rfl
  | case3 _ plus minus =>
      intro filled
      cases chars with
      | nil => exact absurd rfl filled
      | cons char rest =>
          have notPlus : char ≠ '+' := fun same => plus rest (by rw [same])
          have notMinus : char ≠ '-' := fun same => minus rest (by rw [same])
          simp [parseChars, notPlus, notMinus]

theorem parseChars_of_empty {chars : List Char} (empty : (unsigned chars).2 = []) :
    ∃ fault, parseChars chars = .error fault := by
  revert empty
  fun_cases unsigned chars with
  | case1 digits =>
      rintro rfl
      exact ⟨_, rfl⟩
  | case2 digits =>
      rintro rfl
      exact ⟨_, rfl⟩
  | case3 _ plus minus =>
      rintro rfl
      exact ⟨_, rfl⟩

/-- A text is read as an integer exactly if it denotes one that fits. -/
theorem parseChars_eq_ok_iff {chars : List Char} {value : Int} :
    parseChars chars = .ok value ↔ Denotes chars value ∧ fits value = true := by
  rw [denotes_iff]
  by_cases empty : (unsigned chars).2 = []
  · obtain ⟨fault, refused⟩ := parseChars_of_empty empty
    rw [refused]
    constructor
    · intro read
      cases read
    · rintro ⟨⟨numeral, _⟩, _⟩
      exact absurd empty numeral.filled
  · rw [parseChars_of_filled empty, appendDigits_zero_eq_ok_iff _ empty]

theorem fits_toInt (value : Int64) : fits value.toInt = true :=
  fits_iff.mpr ⟨value.minValue_le_toInt, value.toInt_le⟩

theorem toInt_ofInt_of_fits {value : Int} (within : fits value = true) :
    (Int64.ofInt value).toInt = value := by
  obtain ⟨least, most⟩ := fits_iff.mp within
  exact Int64.toInt_ofInt_of_le least (Int.lt_add_one_of_le most)

/-- A text is read as an integer of sixty-four bits exactly when it denotes it. -/
theorem parse_eq_ok_iff {text : String} {value : Int64} :
    parse text = .ok value ↔ Denotes text.toList value.toInt := by
  rw [parse]
  constructor
  · intro read
    cases inner : parseChars text.toList with
    | error fault => simp [inner, Except.map] at read
    | ok number =>
        rw [inner] at read
        obtain rfl := Except.ok.inj read
        obtain ⟨denotes, within⟩ := parseChars_eq_ok_iff.mp inner
        rwa [toInt_ofInt_of_fits within]
  · intro denotes
    rw [parseChars_eq_ok_iff.mpr ⟨denotes, fits_toInt value⟩]
    exact congrArg Except.ok value.ofInt_toInt

end Integer
end AntiForgery
