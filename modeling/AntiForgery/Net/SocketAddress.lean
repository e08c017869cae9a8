import AntiForgery.Text.Hex
import AntiForgery.Text.Integer
import AntiForgery.Text.Utf8

/-!
# Socket addresses

The address of a network interface with a port: four numbers with dots, or eight groups with colons
between brackets.  Reading takes exactly the written forms of the two families, and writing gives
the usual short form, in which the longest run of zero groups is left out.
-/

namespace AntiForgery
namespace Net

/-- The address of an interface and a port. -/
inductive SocketAddress where
  /-- Four bytes. -/
  | four (octets : List UInt8) (port : UInt16)
  /-- Eight groups of sixteen bits, and the number of the link that they belong to, or zero. -/
  | six (groups : List UInt16) (scope : UInt32) (port : UInt16)
  deriving DecidableEq, Repr

namespace SocketAddress

/-- Reads a part at the front: its value and what follows it. -/
abbrev Part (α : Type) := List UInt8 → Option (α × List UInt8)

/-- The value of digits in a base. -/
def valueOf (base : Nat) (digits : List UInt8) : Nat :=
  digits.foldl (fun value digit => base * value + ((Hex.digitValue? digit).getD 0).toNat) 0

/-- Whether a byte is a digit in a base of at most sixteen. -/
def isDigit (base : Nat) (byte : UInt8) : Bool :=
  match Hex.digitValue? byte with
  | none => false
  | some value => value.toNat < base

/-- Reads a number below `bound` that takes at most `width` digits, if that matters.  Unless zeros
in front are allowed, a number that begins with a zero is that digit alone. -/
def number (base bound : Nat) (width : Option Nat) (allowZeros : Bool) : Part Nat := fun bytes =>
  let digits := bytes.takeWhile (isDigit base)
  let fits := match width with
    | none => true
    | some width => digits.length ≤ width
  if digits.isEmpty || !fits || (!allowZeros && digits.head? == some 0x30 && 1 < digits.length) ||
      bound ≤ valueOf base digits then none
  else some (valueOf base digits, bytes.dropWhile (isDigit base))

/-- What follows a mark. -/
def mark? (mark : UInt8) : List UInt8 → Option (List UInt8)
  | [] => none
  | byte :: rest => if byte = mark then some rest else none

/-- The mark between bytes. -/
def dot : UInt8 := 0x2E

/-- The mark between groups, and in front of the port. -/
def colon : UInt8 := 0x3A

/-- Reads one byte of an address. -/
def octet : Part UInt8 := fun bytes => do
  let (value, rest) ← number 10 256 (some 3) false bytes
  return (UInt8.ofNat value, rest)

/-- Reads four bytes with dots. -/
def octets : Part (List UInt8) := fun bytes => do
  let (first, rest) ← octet bytes
  let (second, rest) ← octet (← mark? dot rest)
  let (third, rest) ← octet (← mark? dot rest)
  let (fourth, rest) ← octet (← mark? dot rest)
  return ([first, second, third, fourth], rest)

/-- Two bytes as a group. -/
def pair (high low : UInt8) : UInt16 := UInt16.ofNat (256 * high.toNat + low.toNat)

/-- Four bytes as two groups. -/
def pairs : List UInt8 → List UInt16
  | high :: low :: rest => pair high low :: pairs rest
  | _ => []

/-- What stands in front of a group: nothing at the start, and then a colon. -/
def separator? (first : Bool) (bytes : List UInt8) : Option (List UInt8) :=
  if first then some bytes else mark? colon bytes

/-- The groups read, whether the last two were written as four bytes, and what follows. -/
structure Groups where
  /-- The groups. -/
  read : List UInt16
  /-- Whether they end with four bytes. -/
  mixed : Bool
  /-- What follows them. -/
  rest : List UInt8

/-- Reads as many groups as there are, up to `room` of them.  Four bytes may stand in place of two
groups, and end them. -/
def groups : Nat → Bool → List UInt8 → Groups
  | 0, _, bytes => ⟨[], false, bytes⟩
  | room + 1, first, bytes =>
      let embedded := if room = 0 then none else (separator? first bytes).bind octets
      match embedded with
      | some (bytes, rest) => ⟨pairs bytes, true, rest⟩
      | none =>
          match (separator? first bytes).bind (number 16 65536 (some 4) true) with
          | none => ⟨[], false, bytes⟩
          | some (value, rest) =>
              let others := groups room false rest
              { others with read := UInt16.ofNat value :: others.read }

/-- Reads eight groups, of which two colons stand for one or more that are zero. -/
def eightGroups : Part (List UInt16) := fun bytes => do
  let front := groups 8 true bytes
  if front.read.length = 8 then return (front.read, front.rest)
  else if front.mixed then none
  else
    let rest ← mark? colon (← mark? colon front.rest)
    let back := groups (7 - front.read.length) true rest
    let gap := 8 - front.read.length - back.read.length
    return (front.read ++ List.replicate gap 0 ++ back.read, back.rest)

/-- Reads the port. -/
def port : Part UInt16 := fun bytes => do
  let (value, rest) ← number 10 65536 none true (← mark? colon bytes)
  return (UInt16.ofNat value, rest)

/-- Reads the number of a link, if there is one. -/
def scope (bytes : List UInt8) : UInt32 × List UInt8 :=
  match (mark? 0x25 bytes).bind (number 10 4294967296 none true) with
  | none => (0, bytes)
  | some (value, rest) => (UInt32.ofNat value, rest)

/-- Reads an address of four bytes with a port. -/
def four? : Part SocketAddress := fun bytes => do
  let (octets, rest) ← octets bytes
  let (port, rest) ← port rest
  return (.four octets port, rest)

/-- Reads an address of eight groups with a port. -/
def six? : Part SocketAddress := fun bytes => do
  let (groups, rest) ← eightGroups (← mark? 0x5B bytes)
  let (scope, rest) := scope rest
  let (port, rest) ← port (← mark? 0x5D rest)
  return (.six groups scope port, rest)

/-- The address that a text spells. -/
def parse? (text : String) : Option SocketAddress :=
  let bytes := Text.utf8 text
  match four? bytes <|> six? bytes with
  | some (address, []) => some address
  | _ => none

/-- The text of four bytes. -/
def octetsText (octets : List UInt8) : String :=
  String.intercalate "." (octets.map fun octet => toString octet.toNat)

/-- The text of groups with colons. -/
def groupsText (groups : List UInt16) : String :=
  String.intercalate ":" (groups.map fun group => String.ofList (Nat.toDigits 16 group.toNat))

/-- A run of zero groups. -/
structure Run where
  /-- The place of its first group. -/
  start : Nat
  /-- How many groups it has. -/
  length : Nat
  deriving DecidableEq, Repr

/-- The first of the longest runs of zeros: `place` counts the groups before these, `current` is the
run that reaches up to them, and `longest` the longest one so far. -/
def longestRun (place : Nat) (current longest : Run) : List UInt16 → Run
  | [] => longest
  | group :: rest =>
      if group = 0 then
        let grown : Run := if current.length = 0 then ⟨place, 1⟩
          else ⟨current.start, current.length + 1⟩
        longestRun (place + 1) grown (if longest.length < grown.length then grown else longest) rest
      else longestRun (place + 1) ⟨0, 0⟩ longest rest

/-- The short text of eight groups.  Groups that hold an address of four bytes show it. -/
def sixText (groups : List UInt16) : String :=
  match groups with
  | [0, 0, 0, 0, 0, 0xFFFF, high, low] =>
      let bytes := [high.toNat / 256, high.toNat % 256, low.toNat / 256, low.toNat % 256]
      "::ffff:" ++ octetsText (bytes.map UInt8.ofNat)
  | _ =>
      let run := longestRun 0 ⟨0, 0⟩ ⟨0, 0⟩ groups
      if 1 < run.length then
        groupsText (groups.take run.start) ++ "::" ++
          groupsText (groups.drop (run.start + run.length))
      else groupsText groups

/-- The text of an address. -/
def text : SocketAddress → String
  | .four octets port => octetsText octets ++ ":" ++ toString port.toNat
  | .six groups scope port =>
      "[" ++ sixText groups ++ (if scope = 0 then "" else "%" ++ toString scope.toNat) ++ "]:" ++
        toString port.toNat

end SocketAddress
end Net
end AntiForgery
