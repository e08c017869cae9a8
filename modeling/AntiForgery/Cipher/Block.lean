import AntiForgery.Cipher.Substitution

/-!
# Blocks

The sixteen bytes that the block cipher works on, as four columns of four.  A text that is cut into
blocks fills the last one with zeros.
-/

namespace AntiForgery
namespace Cipher

/-- Four bytes of a block, from top to bottom; also one word of the key schedule. -/
structure Column where
  /-- The byte of the top row. -/
  first : UInt8
  /-- The byte of the second row. -/
  second : UInt8
  /-- The byte of the third row. -/
  third : UInt8
  /-- The byte of the bottom row. -/
  fourth : UInt8
  deriving DecidableEq, Repr

namespace Column

/-- The bitwise sum of two columns. -/
def add (left right : Column) : Column :=
  ⟨left.first ^^^ right.first, left.second ^^^ right.second, left.third ^^^ right.third,
    left.fourth ^^^ right.fourth⟩

/-- Replaces every byte. -/
def map (replace : UInt8 → UInt8) (column : Column) : Column :=
  ⟨replace column.first, replace column.second, replace column.third, replace column.fourth⟩

/-- Moves every byte up by one row, the top one to the bottom. -/
def rotate (column : Column) : Column :=
  ⟨column.second, column.third, column.fourth, column.first⟩

/-- The first four bytes of a text; bytes that are missing are zero. -/
def ofBytes (bytes : List UInt8) : Column :=
  ⟨bytes.getD 0 0, bytes.getD 1 0, bytes.getD 2 0, bytes.getD 3 0⟩

/-- The bytes of a column from top to bottom. -/
def toBytes (column : Column) : List UInt8 :=
  [column.first, column.second, column.third, column.fourth]

end Column

/-- Sixteen bytes in four columns. -/
structure Block where
  /-- Bytes 0 to 3. -/
  first : Column
  /-- Bytes 4 to 7. -/
  second : Column
  /-- Bytes 8 to 11. -/
  third : Column
  /-- Bytes 12 to 15. -/
  fourth : Column
  deriving DecidableEq, Repr

namespace Block

/-- The number of bytes in a block. -/
def size : Nat := 16

/-- The block of zeros. -/
def zero : Block :=
  ⟨⟨0, 0, 0, 0⟩, ⟨0, 0, 0, 0⟩, ⟨0, 0, 0, 0⟩, ⟨0, 0, 0, 0⟩⟩

/-- The bitwise sum of two blocks. -/
def add (left right : Block) : Block :=
  ⟨left.first.add right.first, left.second.add right.second, left.third.add right.third,
    left.fourth.add right.fourth⟩

/-- Replaces every column. -/
def map (replace : Column → Column) (block : Block) : Block :=
  ⟨replace block.first, replace block.second, replace block.third, replace block.fourth⟩

/-- The first sixteen bytes of a text; bytes that are missing are zero. -/
def ofBytes (bytes : List UInt8) : Block :=
  ⟨Column.ofBytes bytes, Column.ofBytes (bytes.drop 4), Column.ofBytes (bytes.drop 8),
    Column.ofBytes (bytes.drop 12)⟩

/-- The bytes of a block in order. -/
def toBytes (block : Block) : List UInt8 :=
  block.first.toBytes ++ block.second.toBytes ++ block.third.toBytes ++ block.fourth.toBytes

@[simp] theorem ofBytes_toBytes (block : Block) : ofBytes block.toBytes = block := rfl

@[simp] theorem length_toBytes (block : Block) : block.toBytes.length = size := rfl

/-- The number of blocks that a text of this length fills or begins. -/
def countFor (length : Nat) : Nat :=
  (length + (size - 1)) / size

/-- The first `count` blocks of a text. -/
def split : Nat → List UInt8 → List Block
  | 0, _ => []
  | count + 1, bytes => ofBytes bytes :: split count (bytes.drop size)

end Block

/-- The bytes of a number in a field of `width` bytes, the most significant first.  Higher bytes
of the number are dropped. -/
def bigEndian (width : Nat) (number : Nat) : List UInt8 :=
  (List.range width).map fun place => UInt8.ofNat (number >>> (8 * (width - 1 - place)))

@[simp] theorem length_bigEndian (width number : Nat) :
    (bigEndian width number).length = width := by
  simp [bigEndian]

end Cipher
end AntiForgery
