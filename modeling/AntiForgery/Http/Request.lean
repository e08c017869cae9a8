import AntiForgery.Text.Utf8

/-!
# Requests

A request as it arrives, with its headers in order.  The names of headers compare without regard to
case; their values are bytes, which need not be a text.
-/

namespace AntiForgery
namespace Http

/-- A line of the header. -/
structure Header where
  /-- The name. -/
  name : String
  /-- The bytes of the value. -/
  value : List UInt8
  deriving DecidableEq, Repr

/-- A request. -/
structure Request where
  /-- The method, in which case counts. -/
  method : String
  /-- What is asked for: a path, perhaps with a query. -/
  target : String
  /-- The headers in order. -/
  headers : List Header
  /-- The bytes of the body. -/
  body : List UInt8
  deriving DecidableEq, Repr

/-- Whether a byte prints in ASCII or is a tab or a blank. -/
def isVisible (byte : UInt8) : Bool :=
  (0x20 ≤ byte && byte < 0x7F) || byte == 0x09

/-- The text of a header's value, if it holds visible ASCII only. -/
def visibleText? (value : List UInt8) : Option String :=
  if value.all isVisible then some (Text.ofAscii value) else none

namespace Request

/-- The values of a header in order; `name` is in lower case. -/
def values (name : String) (request : Request) : List (List UInt8) :=
  (request.headers.filter fun header => header.name.toLower == name).map (·.value)

/-- The first value of a header. -/
def value? (name : String) (request : Request) : Option (List UInt8) :=
  (request.values name).head?

/-- Whether a character ends the path. -/
def endsPath (char : Char) : Bool :=
  char == '?' || char == '#'

/-- What follows the first colon that two slashes follow, if there is one in front of any path. -/
def afterScheme? : List Char → Option (List Char)
  | ':' :: '/' :: '/' :: rest => some rest
  | char :: rest => if char == '/' || endsPath char then none else afterScheme? rest
  | [] => none

/-- The path of a target, without a query and without the name of a server. -/
def pathOf (target : List Char) : List Char :=
  match afterScheme? target with
  | none => target.takeWhile (!endsPath ·)
  | some rest =>
      let path := (rest.dropWhile fun char => !(char == '/' || endsPath char)).takeWhile
        (!endsPath ·)
      if path.isEmpty then ['/'] else path

/-- The path that is asked for. -/
def path (request : Request) : String :=
  String.ofList (pathOf request.target.toList)

end Request
end Http
end AntiForgery
