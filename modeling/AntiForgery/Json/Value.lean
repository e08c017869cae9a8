import AntiForgery.Json.Record

/-!
# Values of every kind

What a JSON text says, whatever it says: the reading of someone who asks for no particular shape.  What
the service writes, and what it takes or refuses, is to be compared with this reading.
-/

namespace AntiForgery
namespace Json

/-- What a text says. -/
inductive Value where
  /-- Nothing. -/
  | null
  /-- A truth value. -/
  | bool (value : Bool)
  /-- A number, as it is written. -/
  | number (number : Number)
  /-- A string. -/
  | text (text : String)
  /-- Values in order. -/
  | array (elements : List Value)
  /-- Members in order, each with its name. -/
  | object (members : List (String × Value))

/-- The text of a string; no other value has one. -/
def Value.text? : Value → Option String
  | .text content => some content
  | _ => none

/-- The words that are values, with what they say. -/
def wordValues : List (List UInt8 × Value) :=
  [(Text.utf8 "null", .null), (Text.utf8 "true", .bool true), (Text.utf8 "false", .bool false)]

/-- Reads one of the words that are values. -/
def readWord : Reader Value := fun bytes =>
  match wordValues.findSome? fun (word, value) => (skipWord? word bytes).map (value, ·) with
  | none => .error .malformed
  | some read => .ok read

/-- Reads items with commas between them, up to the mark that closes them.  Each item takes a byte, so
as many as there are bytes are enough to look for. -/
def readItems (item : Reader α) (close : UInt8) : Nat → Reader (List α)
  | 0, _ => .error .malformed
  | count + 1, bytes => do
      let (first, rest) ← item bytes
      let (mark, rest) ← next rest
      if mark = close then return ([first], rest)
      else if mark = comma then
        let (others, rest) ← readItems item close count rest
        return (first :: others, rest)
      else .error .malformed

/-- Reads what is between the marks of a container, behind the first of them. -/
def readContainer (item : Reader α) (close : UInt8) : Reader (List α) := fun bytes => do
  let (mark, rest) ← next bytes
  if mark = close then return ([], rest) else readItems item close bytes.length bytes

/-- Reads a name and the value behind it. -/
def readNamed (value : Reader α) : Reader (String × α) := fun bytes => do
  let (name, rest) ← readText bytes
  let (found, rest) ← value (← expect colon rest)
  return ((name, found), rest)

/-- Reads a value of any kind.  Each container that is open has taken a byte, so `depth` never has to be
more than there are bytes. -/
def readValue : Nat → Reader Value
  | 0, _ => .error .malformed
  | depth + 1, bytes => do
      let (mark, rest) ← next bytes
      if mark = quoteMark then
        let (text, rest) ← readText bytes
        return (.text text, rest)
      else if mark = openBracket then
        let (elements, rest) ← readContainer (readValue depth) closeBracket rest
        return (.array elements, rest)
      else if mark = openBrace then
        let (members, rest) ← readContainer (readNamed (readValue depth)) closeBrace rest
        return (.object members, rest)
      else if mark = Number.minus ∨ Text.isDigitByte mark then
        match Number.read? (mark :: rest) with
        | none => .error .malformed
        | some (number, rest) => return (.number number, rest)
      else readWord (mark :: rest)

/-- The value that a whole text says, with nothing but white space around it. -/
def decode? (bytes : List UInt8) : Option Value :=
  match readValue bytes.length bytes with
  | .error _ => none
  | .ok (value, rest) => if (skipSpace rest).isEmpty then some value else none

end Json
end AntiForgery
