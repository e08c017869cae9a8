import AntiForgery.Text.Integer
import AntiForgery.Text.Utf8

/-!
# Replies of a Redis server

The protocol in which a server replies: a mark for the kind of the reply, a line, and for texts of
known length the text itself.
-/

namespace AntiForgery
namespace Redis

/-- A reply. -/
inductive Reply where
  /-- Nothing. -/
  | null
  /-- An integer. -/
  | integer (value : Int64)
  /-- A line of text. -/
  | status (line : String)
  /-- Bytes of known length. -/
  | bulk (bytes : List UInt8)
  /-- A truth value. -/
  | boolean (value : Bool)
  /-- An error with its code and what else the server says. -/
  | error (code : String) (detail : Option String)
  /-- A reply of another kind. -/
  | other
  deriving DecidableEq, Repr

namespace Reply

/-- The carriage return that ends a line, in front of a line feed. -/
def carriageReturn : UInt8 := 0x0D

/-- A line and what follows its end. -/
def line? : List UInt8 → Option (List UInt8 × List UInt8)
  | [] => none
  | byte :: rest =>
      if byte = carriageReturn ∧ rest.head? = some 0x0A then some ([], rest.drop 1)
      else (line? rest).map fun (line, rest) => (byte :: line, rest)

/-- The reply of an error line: its first word is the code. -/
def ofErrorLine (line : String) : Reply :=
  let chars := line.toList
  let code := String.ofList (chars.takeWhile (· != ' '))
  match chars.dropWhile (· != ' ') with
  | [] => .error code none
  | _ :: detail => .error code (some (String.ofList detail))

/-- Reads bytes of a length that a line gives.  A length below zero stands for nothing. -/
def bulk? (length : Int64) (bytes : List UInt8) : Option Reply :=
  if length < 0 then some .null
  else
    let size := length.toInt.toNat
    if bytes.length < size + 2 then none else some (.bulk (bytes.take size))

/-- The reply that bytes spell, if they are complete. -/
def parse? : List UInt8 → Option Reply
  | [] => none
  | kind :: bytes =>
      match line? bytes with
      | none => none
      | some (line, rest) =>
          match Text.ofUtf8? line with
          | none => none
          | some text =>
              if kind = 0x2B then some (.status text)
              else if kind = 0x2D then some (ofErrorLine text)
              else if kind = 0x3A then (Integer.parse text).toOption.map .integer
              else if kind = 0x24 then (Integer.parse text).toOption.bind (bulk? · rest)
              else if kind = 0x5F then some .null
              else if kind = 0x23 then
                if text = "t" then some (.boolean true)
                else if text = "f" then some (.boolean false)
                else none
              else if kind = 0x2A ∧ text = "-1" then some .null
              else if kind ∈ [0x2A, 0x25, 0x7E, 0x3E, 0x2C, 0x28, 0x3D] then some .other
              else none

/-- The bytes of a line of text as a reply. -/
def encodeLine (kind : UInt8) (text : String) : List UInt8 :=
  kind :: Text.utf8 text ++ [carriageReturn, 0x0A]

/-- The bytes of a reply that is an integer. -/
def encodeInteger (value : Int) : List UInt8 :=
  0x3A :: Integer.digits value ++ [carriageReturn, 0x0A]

/-- The bytes of a reply of nothing. -/
def encodeNull : List UInt8 := encodeLine 0x24 "-1"

end Reply
end Redis
end AntiForgery
