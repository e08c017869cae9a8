/-!
# Integers as text

Decimal integers of sixty-four bits with a sign: how configured values are read, and how counts are
written.  Reading goes from left to right and stops at the first fault, so a text that is too long
and also holds a foreign character fails at whichever comes first.
-/

namespace AntiForgery
namespace Integer

/-- Why a text is not an integer of sixty-four bits. -/
inductive ParseError where
  /-- There is no character at all. -/
  | empty
  /-- A character is no digit, or a sign stands alone. -/
  | invalidDigit
  /-- The value is above the largest one. -/
  | tooLarge
  /-- The value is below the least one. -/
  | tooSmall
  deriving DecidableEq, Repr

/-- The wording of each fault. -/
def ParseError.message : ParseError → String
  | .empty => "cannot parse integer from empty string"
  | .invalidDigit => "invalid digit found in string"
  | .tooLarge => "number too large to fit in target type"
  | .tooSmall => "number too small to fit in target type"

/-- Whether a value fits in sixty-four bits with a sign. -/
def fits (value : Int) : Bool :=
  Int64.minValue.toInt ≤ value && value ≤ Int64.maxValue.toInt

/-- The value of an ASCII decimal digit. -/
def digitValue? (char : Char) : Option Nat :=
  if '0' ≤ char ∧ char ≤ '9' then some (char.toNat - '0'.toNat) else none

/-- Appends digits to a value, subtracting them when the number is negative. -/
def appendDigits (negative : Bool) (value : Int) : List Char → Except ParseError Int
  | [] => .ok value
  | char :: rest =>
      match digitValue? char with
      | none => .error .invalidDigit
      | some digit =>
          let next := if negative then 10 * value - digit else 10 * value + digit
          if fits next then appendDigits negative next rest
          else .error (if negative then .tooSmall else .tooLarge)

/-- Reads an optional sign and one or more digits. -/
def parseChars : List Char → Except ParseError Int
  | [] => .error .empty
  | ['+'] => .error .invalidDigit
  | ['-'] => .error .invalidDigit
  | '+' :: digits => appendDigits false 0 digits
  | '-' :: digits => appendDigits true 0 digits
  | digits => appendDigits false 0 digits

/-- The integer of sixty-four bits that a text denotes. -/
def parse (text : String) : Except ParseError Int64 :=
  (parseChars text.toList).map Int64.ofInt

/-- The decimal digits of a natural number as ASCII bytes, the most significant first. -/
def natDigits (value : Nat) : List UInt8 :=
  (Nat.toDigits 10 value).map Char.toUInt8

/-- The decimal text of an integer as ASCII bytes. -/
def digits (value : Int) : List UInt8 :=
  if value < 0 then 0x2D :: natDigits value.natAbs else natDigits value.natAbs

end Integer
end AntiForgery
