import AntiForgery.Text.Integer
import AntiForgery.Text.Utf8

/-!
# Numbers in JSON

The parts of a number as it is written, and what they say: the integer that it denotes when it is
written as one, and whether it is too large for a number of double precision.
-/

namespace AntiForgery
namespace Json

/-- A number as it is written. -/
structure Number where
  /-- Whether a minus sign stands in front. -/
  negative : Bool
  /-- The digits before the point. -/
  whole : List UInt8
  /-- The digits after the point; there is no point without them. -/
  fraction : List UInt8
  /-- The power of ten behind it, if there is one. -/
  exponent : Option Int
  deriving DecidableEq, Repr

namespace Number

/-- The value of ASCII decimal digits. -/
def valueOf (digits : List UInt8) : Nat :=
  digits.foldl (fun value digit => 10 * value + (digit.toNat - 0x30)) 0

/-- Digits without the zeros in front of them. -/
def significant (digits : List UInt8) : List UInt8 :=
  digits.dropWhile (· == 0x30)

/-- The exponent that digits spell.  One of more than eighteen digits stops at a size that no
number reaches with the digits it can hold. -/
def exponentOf (negative : Bool) (digits : List UInt8) : Int :=
  let known := significant digits
  let size : Int := if known.length ≤ 18 then valueOf known else 1000000000000000000
  if negative then -size else size

/-- The mark of a number below zero. -/
def minus : UInt8 := 0x2D

/-- The mark that an exponent may have in place of a minus sign. -/
def plus : UInt8 := 0x2B

/-- The mark between the whole part and the fraction. -/
def point : UInt8 := 0x2E

/-- Whether a byte is the letter in front of an exponent. -/
def isExponentLetter (byte : UInt8) : Bool := byte == 0x65 || byte == 0x45

/-- Digits at the front, of which there has to be one, and what follows them. -/
def readDigits? (bytes : List UInt8) : Option (List UInt8 × List UInt8) :=
  let digits := bytes.takeWhile Text.isDigitByte
  if digits.isEmpty then none else some (digits, bytes.dropWhile Text.isDigitByte)

/-- Reads the digits before the point.  A zero in front is the only one. -/
def readWhole? (bytes : List UInt8) : Option (List UInt8 × List UInt8) :=
  match readDigits? bytes with
  | none => none
  | some (digits, rest) =>
      if digits.head? = some 0x30 ∧ 1 < digits.length then none else some (digits, rest)

/-- Reads a point and the digits behind it, or nothing where there is no point. -/
def readFraction? : List UInt8 → Option (List UInt8 × List UInt8)
  | [] => some ([], [])
  | byte :: rest => if byte = point then readDigits? rest else some ([], byte :: rest)

/-- Reads the sign of an exponent, which says if it is below zero. -/
def readSign : List UInt8 → Bool × List UInt8
  | [] => (false, [])
  | byte :: rest =>
      if byte = minus then (true, rest)
      else if byte = plus then (false, rest)
      else (false, byte :: rest)

/-- Reads an exponent, or nothing where there is no letter for it. -/
def readExponent? : List UInt8 → Option (Option Int × List UInt8)
  | [] => some (none, [])
  | byte :: rest =>
      if isExponentLetter byte then
        let (negative, rest) := readSign rest
        match readDigits? rest with
        | none => none
        | some (digits, rest) => some (some (exponentOf negative digits), rest)
      else some (none, byte :: rest)

/-- Reads a number without its sign. -/
def readUnsigned? (negative : Bool) (bytes : List UInt8) : Option (Number × List UInt8) := do
  let (whole, rest) ← readWhole? bytes
  let (fraction, rest) ← readFraction? rest
  let (exponent, rest) ← readExponent? rest
  return (⟨negative, whole, fraction, exponent⟩, rest)

/-- Reads a number: the number and what follows it. -/
def read? : List UInt8 → Option (Number × List UInt8)
  | [] => none
  | byte :: rest =>
      if byte = minus then readUnsigned? true rest else readUnsigned? false (byte :: rest)

/-- The integer of sixty-four bits that a number is written as.  With a point or an exponent it is
none, and neither is a zero with a sign. -/
def integer? (number : Number) : Option Int64 :=
  if number.fraction ≠ [] ∨ number.exponent ≠ none ∨ 19 < number.whole.length then none
  else
    let size : Int := valueOf number.whole
    if number.negative && size == 0 then none
    else
      let value := if number.negative then -size else size
      if Integer.fits value then some (Int64.ofInt value) else none

/-- The least integer that rounds to no number of double precision. -/
def doubleLimit : Nat := Nat.pow 2 1024 - Nat.pow 2 970

/-- The number of digits of that integer. -/
def doubleLimitDigits : Nat := 309

/-- Whether a number is too large for double precision, without regard to its sign. -/
def exceedsDouble (number : Number) : Bool :=
  let digits := number.whole ++ number.fraction
  let known := significant digits
  let places : Int := number.whole.length - (digits.length - known.length : Nat) +
    number.exponent.getD 0
  if known.isEmpty then false
  else if places < doubleLimitDigits then false
  else if doubleLimitDigits < places then true
  else
    let leading := known.take doubleLimitDigits
    let shift := doubleLimitDigits - leading.length
    doubleLimit ≤ valueOf leading * Nat.pow 10 shift

end Number
end Json
end AntiForgery
