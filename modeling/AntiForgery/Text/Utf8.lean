/-!
# Text as bytes

The bytes of a text and the way back.  Tokens, request bodies and cookies are byte strings, and
session ids are compared byte for byte, so every module that crosses that border uses these two
functions.  `ofUtf8?_utf8` and `utf8_ofUtf8?` say that they undo each other.
-/

namespace AntiForgery
namespace Text

/-- The UTF-8 bytes of a text. -/
def utf8 (text : String) : List UInt8 :=
  text.toUTF8.data.toList

/-- The text that these bytes spell in UTF-8, if they spell one. -/
def ofUtf8? (bytes : List UInt8) : Option String :=
  String.fromUTF8? ⟨bytes.toArray⟩

theorem ofUtf8?_utf8 (text : String) : ofUtf8? (utf8 text) = some text := by
  have valid : text.toUTF8.IsValidUTF8 := text.isValidUTF8
  simp only [ofUtf8?, utf8, Array.toArray_toList]
  simp only [String.fromUTF8?]
  rw [dif_pos valid]
  rfl

theorem utf8_ofUtf8? {bytes : List UInt8} {text : String}
    (read : ofUtf8? bytes = some text) : utf8 text = bytes := by
  simp only [ofUtf8?, String.fromUTF8?] at read
  split at read
  · simp only [Option.some.injEq] at read
    subst read
    simp [utf8, String.toUTF8, String.fromUTF8]
  · simp at read

/-- Texts with the same bytes are the same text. -/
theorem utf8_inj {first second : String} : utf8 first = utf8 second ↔ first = second := by
  constructor
  · intro equal
    have read := ofUtf8?_utf8 first
    rw [equal, ofUtf8?_utf8] at read
    exact (Option.some.inj read).symm
  · intro equal
    rw [equal]

/-- The text whose characters have these bytes as their numbers. -/
def ofAscii (bytes : List UInt8) : String :=
  String.ofList (bytes.map fun byte => Char.ofNat byte.toNat)

/-- Bytes of ASCII are the UTF-8 form of the text that they are the numbers of. -/
theorem utf8_ofAscii {bytes : List UInt8} (ascii : ∀ byte ∈ bytes, byte < 128) :
    utf8 (ofAscii bytes) = bytes := by
  have single : ∀ n : Fin 128,
      String.utf8EncodeChar (Char.ofNat n.val) = [UInt8.ofNat n.val] := by decide
  have each : ∀ byte ∈ bytes, String.utf8EncodeChar (Char.ofNat byte.toNat) = [byte] := by
    intro byte member
    have bound : byte.toNat < 128 := UInt8.lt_iff_toNat_lt.mp (ascii byte member)
    simpa using single ⟨byte.toNat, bound⟩
  have flat : ∀ rest : List UInt8, (∀ byte ∈ rest, byte ∈ bytes) →
      rest.flatMap (fun byte => String.utf8EncodeChar (Char.ofNat byte.toNat)) = rest := by
    intro rest members
    induction rest with
    | nil => rfl
    | cons byte rest ih =>
        rw [List.flatMap_cons, each byte (members byte List.mem_cons_self),
          ih fun other member => members other (List.mem_cons_of_mem _ member)]
        rfl
  simp only [utf8, ofAscii, String.toUTF8]
  simpa [List.utf8Encode, List.flatMap_map] using flat bytes fun _ member => member

/-- The number of bytes that a text takes in UTF-8. -/
def byteCount (text : String) : Nat :=
  (utf8 text).length

/-- The ASCII letter in lower case; any other byte unchanged. -/
def lowerByte (byte : UInt8) : UInt8 :=
  if 0x41 ≤ byte ∧ byte ≤ 0x5A then byte + 0x20 else byte

/-- A decimal digit in ASCII. -/
def isDigitByte (byte : UInt8) : Bool :=
  0x30 ≤ byte && byte ≤ 0x39

end Text
end AntiForgery
