/-!
# Hexadecimal

Bytes written as two ASCII digits each.  Writing uses lower case; reading takes either case, two
digits a byte, and names the first fault.  `decode_encode` says that what is written reads back.
-/

namespace AntiForgery
namespace Hex

/-- The value of a hexadecimal digit in either case. -/
def digitValue? (digit : UInt8) : Option UInt8 :=
  if 0x30 ≤ digit ∧ digit ≤ 0x39 then some (digit - 0x30)
  else if 0x41 ≤ digit ∧ digit ≤ 0x46 then some (digit - 0x37)
  else if 0x61 ≤ digit ∧ digit ≤ 0x66 then some (digit - 0x57)
  else none

/-- The lower-case digit of a value below sixteen. -/
def digit (value : UInt8) : UInt8 :=
  if value < 10 then value + 0x30 else value + 0x57

/-- Two digits for each byte, the higher half first. -/
def encode : List UInt8 → List UInt8
  | [] => []
  | byte :: rest => digit (byte / 16) :: digit (byte % 16) :: encode rest

/-- Why a text is not hexadecimal. -/
inductive DecodeError where
  /-- The text has an odd number of bytes. -/
  | oddLength
  /-- The byte at this position is no digit. -/
  | invalidDigit (byte : UInt8) (position : Nat)
  deriving DecidableEq, Repr

/-- Reads pairs of digits; `position` counts the bytes before the text. -/
def decodePairs (position : Nat) : List UInt8 → Except DecodeError (List UInt8)
  | high :: low :: rest =>
      match digitValue? high, digitValue? low with
      | none, _ => .error (.invalidDigit high position)
      | some _, none => .error (.invalidDigit low (position + 1))
      | some highValue, some lowValue =>
          (decodePairs (position + 2) rest).map ((16 * highValue + lowValue) :: ·)
  | _ => .ok []

/-- The bytes that a text of hexadecimal digits denotes.  The length is looked at first. -/
def decode (text : List UInt8) : Except DecodeError (List UInt8) :=
  if text.length % 2 = 1 then .error .oddLength else decodePairs 0 text

/-- A byte between single quotes, read as the character with its number; characters that do not
print are written as escapes. -/
def quotedByte (byte : UInt8) : String :=
  let char := Char.ofNat byte.toNat
  let inner :=
    if byte = 0x00 then "\\0"
    else if byte = 0x09 then "\\t"
    else if byte = 0x0A then "\\n"
    else if byte = 0x0D then "\\r"
    else if byte = 0x27 then "\\'"
    else if byte = 0x5C then "\\\\"
    else if byte < 0x20 ∨ (0x7F ≤ byte ∧ byte ≤ 0xA0) ∨ byte = 0xAD then
      "\\u\x7b" ++ String.ofList (Nat.toDigits 16 byte.toNat) ++ "\x7d"
    else String.singleton char
  "'" ++ inner ++ "'"

/-- The wording of each fault. -/
def DecodeError.message : DecodeError → String
  | .oddLength => "Odd number of digits"
  | .invalidDigit byte position =>
      "Invalid character " ++ quotedByte byte ++ " at position " ++ toString position

theorem digitValue?_digit (value : UInt8) (small : value < 16) :
    digitValue? (digit value) = some value := by
  have cases : ∀ n : Fin 16, digitValue? (digit (UInt8.ofNat n.val)) = some (UInt8.ofNat n.val) := by
    decide
  have bound : value.toNat < 16 := UInt8.lt_iff_toNat_lt.mp small
  simpa using cases ⟨value.toNat, bound⟩

theorem div_lt (byte : UInt8) : byte / 16 < 16 := by
  rw [UInt8.lt_iff_toNat_lt]
  have := byte.toNat_lt
  simp
  omega

theorem mod_lt (byte : UInt8) : byte % 16 < 16 := by
  rw [UInt8.lt_iff_toNat_lt]
  simp
  omega

theorem decodePairs_encode (position : Nat) (bytes : List UInt8) :
    decodePairs position (encode bytes) = .ok bytes := by
  induction bytes generalizing position with
  | nil => rfl
  | cons byte rest ih =>
      have joined : 16 * (byte / 16) + byte % 16 = byte := by
        apply UInt8.toNat.inj
        have := byte.toNat_lt
        simp
        omega
      simp only [encode, decodePairs, digitValue?_digit _ (div_lt byte),
        digitValue?_digit _ (mod_lt byte), ih, Except.map, joined]

theorem length_encode (bytes : List UInt8) : (encode bytes).length = 2 * bytes.length := by
  induction bytes with
  | nil => rfl
  | cons byte rest ih => simp only [encode, List.length_cons, ih]; omega

theorem digit_lt (value : UInt8) (small : value < 16) : digit value < 128 := by
  have cases : ∀ n : Fin 16, digit (UInt8.ofNat n.val) < 128 := by decide
  have bound : value.toNat < 16 := UInt8.lt_iff_toNat_lt.mp small
  simpa using cases ⟨value.toNat, bound⟩

/-- What is written is ASCII. -/
theorem encode_lt {bytes : List UInt8} : ∀ letter ∈ encode bytes, letter < 128 := by
  induction bytes with
  | nil => simp [encode]
  | cons byte rest ih =>
      intro letter member
      rw [encode, List.mem_cons, List.mem_cons] at member
      rcases member with rfl | rfl | member
      · exact digit_lt _ (div_lt byte)
      · exact digit_lt _ (mod_lt byte)
      · exact ih letter member

/-- Reading gives back what was written. -/
theorem decode_encode (bytes : List UInt8) : decode (encode bytes) = .ok bytes := by
  have even : (encode bytes).length % 2 ≠ 1 := by rw [length_encode]; omega
  rw [decode, if_neg even, decodePairs_encode]

end Hex
end AntiForgery
