import AntiForgery.Json.Skip

/-!
# Records of two fields

Reading a value of a known shape: an object with two named members, or an array of the two values
in order.  Members with other names are passed over.  There are two ways to fail, and which one
wins matters: text that breaks the grammar is malformed, and a value of another shape is a mismatch,
told apart by what is met first from left to right.
-/

namespace AntiForgery
namespace Json

/-- Why a text gives no value of the shape. -/
inductive Fault where
  /-- The text breaks the grammar. -/
  | malformed
  /-- A value has another shape than the one asked for. -/
  | mismatch
  deriving DecidableEq, Repr

/-- Reads a value at the front: the value and what follows it. -/
abbrev Reader (α : Type) := List UInt8 → Except Fault (α × List UInt8)

/-- How a value of an unwanted shape is refused.  Strings, numbers and words are read first, and
containers are refused at their first byte. -/
def refuse : List UInt8 → Fault
  | [] => .malformed
  | byte :: rest =>
      if byte = openBracket ∨ byte = openBrace then .mismatch
      else if byte = quoteMark then
        if (unquote? rest).isSome then .mismatch else .malformed
      else if byte = Number.minus ∨ Text.isDigitByte byte then
        match Number.read? (byte :: rest) with
        | none => .malformed
        | some (number, _) => if number.exceedsDouble then .malformed else .mismatch
      else if (skipLiteral? (byte :: rest)).isSome then .mismatch
      else .malformed

/-- Reads a string. -/
def readText : Reader String := fun bytes =>
  match skipSpace bytes with
  | [] => .error .malformed
  | byte :: rest =>
      if byte = quoteMark then
        match unquote? rest with
        | none => .error .malformed
        | some read => .ok read
      else .error (refuse (byte :: rest))

/-- Reads an integer of sixty-four bits. -/
def readInteger : Reader Int64 := fun bytes =>
  let bytes := skipSpace bytes
  match Number.read? bytes with
  | none => .error (refuse bytes)
  | some (number, rest) =>
      match number.integer? with
      | none => .error (refuse bytes)
      | some value => .ok (value, rest)

/-- Reads an integer or the word for nothing. -/
def readOptionalInteger : Reader (Option Int64) := fun bytes =>
  match skipWord? (Text.utf8 "null") (skipSpace bytes) with
  | some rest => .ok (none, rest)
  | none =>
      match readInteger bytes with
      | .error fault => .error fault
      | .ok (value, rest) => .ok (some value, rest)

/-- A field of a record. -/
structure Field (α : Type) where
  /-- Its name. -/
  name : String
  /-- How its value is read. -/
  read : Reader α
  /-- What an object without the field means by it, if it may leave the field out. -/
  absent : Option α

/-- The two values at the end of an object. -/
def complete (first : Field α) (second : Field β) (a : Option α) (b : Option β) :
    Except Fault (α × β) :=
  match a <|> first.absent, b <|> second.absent with
  | some a, some b => .ok (a, b)
  | _, _ => .error .mismatch

/-- The next byte that is no white space, and what follows it. -/
def next (bytes : List UInt8) : Except Fault (UInt8 × List UInt8) :=
  match skipSpace bytes with
  | [] => .error .malformed
  | byte :: rest => .ok (byte, rest)

/-- What follows the mark that has to come next. -/
def expect (mark : UInt8) (bytes : List UInt8) : Except Fault (List UInt8) := do
  let (byte, rest) ← next bytes
  if byte = mark then .ok rest else .error .malformed

/-- Reads the value behind a name into the field that has it; `fuel` is for passing over others. -/
def readMember (first : Field α) (second : Field β) (fuel : Nat) (name : String) (a : Option α)
    (b : Option β) (bytes : List UInt8) : Except Fault ((Option α × Option β) × List UInt8) := do
  if name = first.name then
    if a.isSome then .error .mismatch
    else
      let (value, rest) ← first.read (← expect colon bytes)
      return ((some value, b), rest)
  else if name = second.name then
    if b.isSome then .error .mismatch
    else
      let (value, rest) ← second.read (← expect colon bytes)
      return ((a, some value), rest)
  else
    match skipValue? fuel (← expect colon bytes) with
    | none => .error .malformed
    | some rest => return ((a, b), rest)

/-- Reads the members of an object up to its end.  Each of them takes a byte, so as many as there are
bytes are enough to look for; `fuel` is for passing over values. -/
def readMembers (first : Field α) (second : Field β) (fuel : Nat) :
    Nat → Option α → Option β → Reader (α × β)
  | 0, _, _, _ => .error .malformed
  | count + 1, a, b, bytes => do
      match unquote? (← expect quoteMark bytes) with
      | none => .error .malformed
      | some (name, rest) =>
          let ((a, b), rest) ← readMember first second fuel name a b rest
          let (mark, rest) ← next rest
          if mark = comma then readMembers first second fuel count a b rest
          else if mark = closeBrace then return (← complete first second a b, rest)
          else .error .malformed

/-- Reads an object after its opening mark. -/
def readObject (first : Field α) (second : Field β) : Reader (α × β) := fun bytes => do
  let (byte, rest) ← next bytes
  if byte = closeBrace then return (← complete first second none none, rest)
  else readMembers first second (enoughFuel bytes) (bytes.length + 1) none none bytes

/-- Reads an array after its opening mark. -/
def readArray (first : Field α) (second : Field β) : Reader (α × β) := fun bytes => do
  let (byte, _) ← next bytes
  if byte = closeBracket then .error .mismatch
  else
    let (a, rest) ← first.read bytes
    let (mark, rest) ← next rest
    if mark = closeBracket then .error .mismatch
    else if mark ≠ comma then .error .malformed
    else
      let (byte, _) ← next rest
      if byte = closeBracket then .error .malformed
      else
        let (b, rest) ← second.read rest
        return ((a, b), ← expect closeBracket rest)

/-- Reads a record in either form. -/
def readEither (first : Field α) (second : Field β) : Reader (α × β) := fun bytes => do
  let (byte, rest) ← next bytes
  if byte = openBrace then readObject first second rest
  else if byte = openBracket then readArray first second rest
  else .error (refuse (byte :: rest))

/-- The two values of the record that a whole text holds. -/
def readRecord (first : Field α) (second : Field β) (bytes : List UInt8) :
    Except Fault (α × β) := do
  let (values, rest) ← readEither first second bytes
  if (skipSpace rest).isEmpty then return values else .error .malformed

end Json
end AntiForgery
