import AntiForgery.Entropy
import AntiForgery.Json.Record
import AntiForgery.Store.Call

/-!
# Session ids

A session id is a number of 128 bits that is drawn at random, apart from the six bits that mark it
as random.  It is written in one form and read in four, so that a session has one key in the store
however the client spells its id.
-/

namespace AntiForgery
namespace Session

/-- The number of bytes in an id. -/
def idSize : Nat := 16

/-- The id of a session. -/
structure Id where
  /-- The bytes of the id. -/
  bytes : List UInt8
  /-- There are sixteen of them. -/
  length_bytes : bytes.length = idSize
  deriving DecidableEq, Repr

namespace Id

/-- The hyphen between groups of digits. -/
def hyphen : UInt8 := 0x2D

/-- Digits in groups of eight, four, four, four and twelve. -/
def hyphenate (digits : List UInt8) : List UInt8 :=
  digits.take 8 ++ [hyphen] ++ (digits.drop 8).take 4 ++ [hyphen] ++ (digits.drop 12).take 4 ++
    [hyphen] ++ (digits.drop 16).take 4 ++ [hyphen] ++ digits.drop 20

/-- The text of an id: lower-case digits in five groups. -/
def text (id : Id) : String :=
  Text.ofAscii (hyphenate (Hex.encode id.bytes))

/-- The key of the session in the store. -/
def storageKey (id : Id) : String :=
  Store.sessionPrefix ++ id.text

/-- The id as a JSON string. -/
def json (id : Id) : List UInt8 :=
  Json.quote id.text

/-- The id that thirty-two digits denote. -/
def ofDigits? (digits : List UInt8) : Option Id :=
  match Hex.decode digits with
  | .error _ => none
  | .ok bytes => if sixteen : bytes.length = idSize then some ⟨bytes, sixteen⟩ else none

/-- The digits of five groups, if the hyphens are where they have to be. -/
def unhyphenate? (bytes : List UInt8) : Option (List UInt8) :=
  if bytes.length = 36 ∧ bytes[8]? = some hyphen ∧ bytes[13]? = some hyphen ∧
      bytes[18]? = some hyphen ∧ bytes[23]? = some hyphen then
    some (bytes.take 8 ++ (bytes.drop 9).take 4 ++ (bytes.drop 14).take 4 ++
      (bytes.drop 19).take 4 ++ bytes.drop 24)
  else none

/-- The id that five groups of digits denote. -/
def ofGroups? (bytes : List UInt8) : Option Id :=
  (unhyphenate? bytes).bind ofDigits?

/-- What an id may begin with when it is written as a resource name. -/
def resourcePrefix : List UInt8 := Text.utf8 "urn:uuid:"

/-- The mark in front of an id in braces. -/
def openBrace : UInt8 := 0x7B

/-- The mark behind an id in braces. -/
def closeBrace : UInt8 := 0x7D

/-- The id that bytes spell in one of the four forms: the digits alone, in groups, in groups between
braces, and in groups behind the beginning of a resource name. -/
def ofBytes? (bytes : List UInt8) : Option Id :=
  if bytes.length = 32 then ofDigits? bytes
  else if bytes.length = 36 then ofGroups? bytes
  else if bytes.length = 38 ∧ bytes.head? = some openBrace ∧ bytes.getLast? = some closeBrace then
    ofGroups? (bytes.drop 1).dropLast
  else if bytes.length = 45 ∧ bytes.take 9 = resourcePrefix then ofGroups? (bytes.drop 9)
  else none

/-- The id that a text spells. -/
def parse? (text : String) : Option Id :=
  ofBytes? (Text.utf8 text)

/-- The id that a JSON text holds.  It has to be a string in one of the four forms, with nothing
but white space around it. -/
def ofJson? (bytes : List UInt8) : Option Id :=
  match Json.readText bytes with
  | .error _ => none
  | .ok (text, rest) => if (Json.skipSpace rest).isEmpty then parse? text else none

/-- Marks a byte as the one that holds the version: four random bits below the number four. -/
def stampVersion (byte : UInt8) : UInt8 := (byte &&& 0x0F) ||| 0x40

/-- Marks a byte as the one that holds the variant: six random bits below the bits one and zero. -/
def stampVariant (byte : UInt8) : UInt8 := (byte &&& 0x3F) ||| 0x80

/-- The id made of random bytes. -/
def ofRandom (bytes : List UInt8) (sixteen : bytes.length = idSize) : Id where
  bytes := (bytes.modify 6 stampVersion).modify 8 stampVariant
  length_bytes := by simpa using sixteen

/-- The id that the next bytes of a source make. -/
def next (source : Entropy) : Id :=
  ofRandom (source.take idSize) (Entropy.length_take idSize source)

/-- A new id and the source without its bytes, however few of them are ready. -/
def draw (source : Entropy) : Id × Entropy :=
  (next source, source.drop idSize)

end Id
end Session
end AntiForgery
