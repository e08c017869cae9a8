import AntiForgery.Json.Number
import AntiForgery.Json.Quoted

/-!
# Values that nobody reads

A record may hold members that its reader does not know.  Their values have to follow the grammar,
and are passed over without being kept.  The containers that are open make a list, so the depth of
nesting has no limit.
-/

namespace AntiForgery
namespace Json

/-- White space between the parts of a value. -/
def isSpace (byte : UInt8) : Bool :=
  byte == 0x20 || byte == 0x09 || byte == 0x0A || byte == 0x0D

/-- What follows the white space at the front. -/
def skipSpace (bytes : List UInt8) : List UInt8 :=
  bytes.dropWhile isSpace

/-- The mark between a name and its value. -/
def colon : UInt8 := 0x3A

/-- The mark between two elements. -/
def comma : UInt8 := 0x2C

/-- The mark that begins an array. -/
def openBracket : UInt8 := 0x5B

/-- The mark that ends an array. -/
def closeBracket : UInt8 := 0x5D

/-- The mark that begins an object. -/
def openBrace : UInt8 := 0x7B

/-- The mark that ends an object. -/
def closeBrace : UInt8 := 0x7D

/-- What follows a word, if the bytes begin with it. -/
def skipWord? (word bytes : List UInt8) : Option (List UInt8) :=
  if bytes.take word.length = word then some (bytes.drop word.length) else none

/-- The words of the grammar that are values. -/
def literalWords : List (List UInt8) :=
  [Text.utf8 "null", Text.utf8 "true", Text.utf8 "false"]

/-- What follows one of the words that are values. -/
def skipLiteral? (bytes : List UInt8) : Option (List UInt8) :=
  literalWords.findSome? (skipWord? · bytes)

/-- A container that is open. -/
inductive Container where
  /-- An array. -/
  | array
  /-- An object. -/
  | object
  deriving DecidableEq, Repr

/-- What the grammar asks for next. -/
inductive Expected where
  /-- A value. -/
  | value
  /-- A value, or the end of an array without elements. -/
  | firstElement
  /-- A name with its value. -/
  | member
  /-- A name with its value, or the end of an object without members. -/
  | firstMember
  /-- A comma or the end of the innermost container. -/
  | separator
  deriving DecidableEq, Repr

/-- What follows a value that is no container. -/
def skipScalar? : List UInt8 → Option (List UInt8)
  | [] => none
  | byte :: rest =>
      if byte = quoteMark then skipQuoted? .plain rest
      else if byte = Number.minus ∨ Text.isDigitByte byte then (Number.read? (byte :: rest)).map (·.2)
      else skipLiteral? (byte :: rest)

/-- What follows the value that is asked for and all containers that are open.  Each step but the
one that finds a first element takes a byte, so `fuel` of twice their number is enough. -/
def skipFrom? : Nat → Expected → List Container → List UInt8 → Option (List UInt8)
  | 0, _, _, _ => none
  | fuel + 1, expected, containers, bytes =>
      match expected, containers, skipSpace bytes with
      | .separator, [], _ => some bytes
      | _, _, [] => none
      | .value, _, byte :: rest =>
          if byte = openBracket then skipFrom? fuel .firstElement (.array :: containers) rest
          else if byte = openBrace then skipFrom? fuel .firstMember (.object :: containers) rest
          else
            match skipScalar? (byte :: rest) with
            | none => none
            | some rest => skipFrom? fuel .separator containers rest
      | .firstElement, _, byte :: rest =>
          if byte = closeBracket then skipFrom? fuel .separator containers.tail rest
          else skipFrom? fuel .value containers (byte :: rest)
      | .firstMember, _, byte :: rest =>
          if byte = closeBrace then skipFrom? fuel .separator containers.tail rest
          else skipFrom? fuel .member containers (byte :: rest)
      | .member, _, byte :: rest =>
          if byte = quoteMark then
            match (skipQuoted? .plain rest).map skipSpace with
            | some (mark :: rest) =>
                if mark = colon then skipFrom? fuel .value containers rest else none
            | _ => none
          else none
      | .separator, .array :: outer, byte :: rest =>
          if byte = closeBracket then skipFrom? fuel .separator outer rest
          else if byte = comma then skipFrom? fuel .value containers rest
          else none
      | .separator, .object :: outer, byte :: rest =>
          if byte = closeBrace then skipFrom? fuel .separator outer rest
          else if byte = comma then skipFrom? fuel .member containers rest
          else none

/-- The fuel that is enough for every value in a text. -/
def enoughFuel (bytes : List UInt8) : Nat := 2 * bytes.length + 2

/-- What follows a value of any kind.  The fuel is that of a text which the value is a part of. -/
def skipValue? (fuel : Nat) (bytes : List UInt8) : Option (List UInt8) :=
  skipFrom? fuel .value [] bytes

end Json
end AntiForgery
