import AntiForgery.Text.Integer
import Mathlib.Data.Nat.Digits.Defs

/-!
# Integers that are read back from a text

A count that is written out is read as that count, as long as it fits in sixty-four bits with a sign.
-/

namespace AntiForgery
namespace Integer

theorem fits_natCast {value : Nat} (small : value ≤ 9223372036854775807) :
    fits (value : Int) = true := by
  have least : Int64.minValue.toInt = -9223372036854775808 := by decide
  have largest : Int64.maxValue.toInt = 9223372036854775807 := by decide
  rw [fits, least, largest, Bool.and_eq_true, decide_eq_true_eq, decide_eq_true_eq]
  omega

theorem digitValue?_digitChar {digit : Nat} (single : digit < 10) :
    digitValue? (Nat.digitChar digit) = some digit := by
  have cases : ∀ n : Fin 10, digitValue? (Nat.digitChar n.val) = some n.val := by decide
  exact cases ⟨digit, single⟩

/-- The last digit is read after all the others. -/
theorem appendDigits_concat
    {front : List Char}
    {value read : Int}
    {digit : Nat}
    (single : digit < 10)
    (readFront : appendDigits false value front = .ok read)
    (within : fits (10 * read + digit) = true) :
    appendDigits false value (front ++ [Nat.digitChar digit]) = .ok (10 * read + digit) := by
  induction front generalizing value with
  | nil =>
      obtain rfl := Except.ok.inj readFront
      simp only [List.nil_append, appendDigits, digitValue?_digitChar single, Bool.false_eq_true,
        if_false, within, if_true]
  | cons char rest ih =>
      rw [appendDigits] at readFront
      rw [List.cons_append, appendDigits]
      cases found : digitValue? char with
      | none =>
          rw [found] at readFront
          cases readFront
      | some first =>
          simp only [found, Bool.false_eq_true, if_false] at readFront ⊢
          split at readFront
          · next inside => rw [if_pos inside, ih readFront]
          · cases readFront

theorem appendDigits_toDigits {value : Nat} (small : value ≤ 9223372036854775807) :
    appendDigits false 0 (Nat.toDigits 10 value) = .ok value := by
  induction value using Nat.strongRecOn with
  | ind value ih =>
      by_cases single : value < 10
      · have within := fits_natCast small
        rw [Nat.toDigits_of_lt_base single, ← List.nil_append [_]]
        have read := @appendDigits_concat [] 0 0 value single rfl (by simpa using within)
        simpa using read
      · have front := ih (value / 10) (by omega) (by omega)
        have whole : (10 * ((value / 10 : Nat) : Int) + (value % 10 : Nat)) = value := by omega
        have read := appendDigits_concat (Nat.mod_lt value (by omega)) front
          (by rw [whole]; exact fits_natCast small)
        rw [Nat.toDigits_of_base_le (by decide) (by omega), read, whole]

/-- Digits that do not begin with a sign are read one after the other. -/
theorem parseChars_of_isDigit
    {chars : List Char}
    (filled : chars ≠ [])
    (digits : ∀ char ∈ chars, char.isDigit = true) :
    parseChars chars = appendDigits false 0 chars := by
  cases chars with
  | nil => exact absurd rfl filled
  | cons char rest =>
      have digit := digits char List.mem_cons_self
      have plus : char ≠ '+' := by
        rintro rfl
        exact absurd digit (by decide)
      have minus : char ≠ '-' := by
        rintro rfl
        exact absurd digit (by decide)
      simp [parseChars, plus, minus]

/-- A count is read back from its text. -/
theorem parse_toString {value : Nat} (small : value ≤ 9223372036854775807) :
    parse (toString value) = .ok (Int64.ofInt value) := by
  have letters : (toString value).toList = Nat.toDigits 10 value := Nat.toList_repr
  have digits : ∀ char ∈ Nat.toDigits 10 value, char.isDigit = true :=
    fun char member => Nat.isDigit_of_mem_toDigits (by decide) (by decide) member
  rw [parse, letters, parseChars_of_isDigit Nat.toDigits_ne_nil digits, appendDigits_toDigits small]
  rfl

end Integer
end AntiForgery
