import AntiForgery.Text.Pieces
import AntiForgery.Text.Utf8

/-!
# Media types

Whether the value of a header names JSON: the type is `application`, and the subtype is `json` by
itself or as its suffix.  The parameters behind it have to be well formed, but do not matter.
-/

namespace AntiForgery
namespace Http
namespace MediaType

/-- The bytes besides letters and digits that names may hold. -/
def tokenMarks : List UInt8 := Text.utf8 "!#$%&'+-.^_" ++ [0x60] ++ Text.utf8 "|~"

/-- Whether a byte may stand in a name. -/
def isToken (byte : UInt8) : Bool :=
  Text.isDigitByte byte || (0x41 ≤ byte && byte ≤ 0x5A) || (0x61 ≤ byte && byte ≤ 0x7A) ||
    tokenMarks.contains byte

/-- Where in the parameters a reader is. -/
inductive Place where
  /-- In front of a name; blanks may stand here. -/
  | beforeName
  /-- Inside a name. -/
  | name
  /-- In front of a value. -/
  | beforeValue
  /-- Inside a value. -/
  | value
  /-- Behind the mark that opens a quoted value, where any byte counts as a part of it. -/
  | beforeQuoted
  /-- Inside a quoted value. -/
  | quoted
  /-- Behind a quoted value; blanks may stand here. -/
  | afterQuoted
  deriving DecidableEq, Repr

/-- Whether a byte may stand in a quoted value. -/
def isQuotable (byte : UInt8) : Bool := 0x20 ≤ byte && byte != 0x7F

/-- The place behind one more byte, if it may stand there. -/
def Place.next? (place : Place) (byte : UInt8) : Option Place :=
  match place with
  | .beforeName =>
      if byte = 0x20 then some .beforeName else if isToken byte then some .name else none
  | .name => if byte = 0x3D then some .beforeValue else if isToken byte then some .name else none
  | .beforeValue =>
      if byte = 0x22 then some .beforeQuoted else if isToken byte then some .value else none
  | .value => if byte = 0x3B then some .beforeName else if isToken byte then some .value else none
  | .beforeQuoted => if isQuotable byte then some .quoted else none
  | .quoted =>
      if byte = 0x22 then some .afterQuoted else if isQuotable byte then some .quoted else none
  | .afterQuoted =>
      if byte = 0x3B then some .beforeName else if byte = 0x20 then some .afterQuoted else none

/-- Whether the parameters may end at a place. -/
def Place.mayEnd : Place → Bool
  | .beforeName | .beforeValue | .value | .afterQuoted => true
  | .name | .beforeQuoted | .quoted => false

/-- Whether the bytes behind the first semicolon are parameters. -/
def areParameters (bytes : List UInt8) : Bool :=
  ((bytes.foldlM Place.next? .beforeName).map Place.mayEnd).getD false

/-- The word for JSON. -/
def jsonWord : List UInt8 := Text.utf8 "json"

/-- Whether a subtype in lower case is `json`, with or without a suffix, or has it as its suffix.  A
plus sign at the front begins no suffix. -/
def namesJson (subtype : List UInt8) : Bool :=
  match subtype with
  | [] => false
  | first :: rest =>
      match (Text.pieces 0x2B rest).reverse with
      | suffix :: others@(_ :: _) =>
          suffix == jsonWord || first :: Text.join 0x2B others.reverse == jsonWord
      | _ => subtype == jsonWord

/-- Whether the value of a header names JSON. -/
def isJson (value : List UInt8) : Bool :=
  let lower := value.map Text.lowerByte
  let rest := lower.dropWhile isToken
  lower.takeWhile isToken == Text.utf8 "application" && rest.head? == some 0x2F &&
    namesJson ((rest.drop 1).takeWhile isToken) &&
    match (rest.drop 1).dropWhile isToken with
    | [] => true
    | mark :: parameters => mark == 0x3B && areParameters parameters

end MediaType
end Http
end AntiForgery
