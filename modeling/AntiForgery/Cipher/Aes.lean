import AntiForgery.Cipher.Block

/-!
# The block cipher

The Advanced Encryption Standard with keys of 128, 192 and 256 bits, in the forward direction, which
is all that counter mode needs.  A key is spread over one block for each round once; after that a
block is encrypted by alternating a fixed permutation of blocks with the addition of a round key.
-/

namespace AntiForgery
namespace Cipher

/-- Twice a byte in the field of 256 elements. -/
def double (byte : UInt8) : UInt8 :=
  (byte <<< 1) ^^^ (if 0x80 ≤ byte then 0x1B else 0)

/-- Three times a byte in the field of 256 elements. -/
def triple (byte : UInt8) : UInt8 :=
  double byte ^^^ byte

/-- The product of a column with the fixed matrix of the standard. -/
def Column.mix (column : Column) : Column where
  first := double column.first ^^^ triple column.second ^^^ column.third ^^^ column.fourth
  second := column.first ^^^ double column.second ^^^ triple column.third ^^^ column.fourth
  third := column.first ^^^ column.second ^^^ double column.third ^^^ triple column.fourth
  fourth := triple column.first ^^^ column.second ^^^ column.third ^^^ double column.fourth

namespace Block

/-- Replaces every byte by the substitution table. -/
def substitute (block : Block) : Block :=
  block.map (Column.map Cipher.substitute)

/-- Moves row `r` by `r` columns to the left. -/
def shiftRows (block : Block) : Block where
  first := ⟨block.first.first, block.second.second, block.third.third, block.fourth.fourth⟩
  second := ⟨block.second.first, block.third.second, block.fourth.third, block.first.fourth⟩
  third := ⟨block.third.first, block.fourth.second, block.first.third, block.second.fourth⟩
  fourth := ⟨block.fourth.first, block.first.second, block.second.third, block.third.fourth⟩

/-- Mixes every column. -/
def mixColumns (block : Block) : Block :=
  block.map Column.mix

end Block

/-- The round keys: one before the rounds, one for each inner round, and one for the last. -/
structure KeySchedule where
  /-- What is added before the first round. -/
  initial : Block
  /-- What each round but the last adds, in order. -/
  inner : List Block
  /-- What the last round adds. -/
  final : Block
  deriving DecidableEq, Repr

namespace KeySchedule

/-- The number of rounds for a key of so many words. -/
def rounds (words : Nat) : Nat := words + 6

/-- Adds to each word the word made before it.  With keys of eight words the fourth of a row is
substituted before it is added to the fifth. -/
def chain (long : Bool) (index : Nat) (previous : Column) : List Column → List Column
  | [] => []
  | word :: rest =>
      let added := if long && index == 4 then previous.map substitute else previous
      let made := word.add added
      made :: chain long (index + 1) made rest

/-- The row of words that follows a row, with the constant of the step. -/
def nextRow (constant : UInt8) (row : List Column) : List Column :=
  let last := row.getLastD ⟨0, 0, 0, 0⟩
  let turned := (last.rotate.map substitute).add ⟨constant, 0, 0, 0⟩
  chain (row.length == 8) 0 turned row

/-- A row of words followed by the rows that it gives. -/
def rows : Nat → UInt8 → List Column → List Column
  | 0, _, _ => []
  | count + 1, constant, row => row ++ rows count (double constant) (nextRow constant row)

/-- Groups words by four. -/
def blocks : Nat → List Column → List Block
  | 0, _ => []
  | count + 1, words =>
      let zero : Column := ⟨0, 0, 0, 0⟩
      ⟨words.getD 0 zero, words.getD 1 zero, words.getD 2 zero, words.getD 3 zero⟩ ::
        blocks count (words.drop 4)

/-- The words of a key. -/
def wordsOf : Nat → List UInt8 → List Column
  | 0, _ => []
  | count + 1, bytes => Column.ofBytes bytes :: wordsOf count (bytes.drop 4)

/-- Spreads a key over its rounds. -/
def ofKey (key : List UInt8) : KeySchedule :=
  let count := key.length / 4
  let keys := blocks (rounds count + 1) (rows (rounds count + 1) 1 (wordsOf count key))
  { initial := keys.headD .zero
    inner := (keys.drop 1).dropLast
    final := keys.getLastD .zero }

end KeySchedule

/-- One inner round. -/
def innerRound (block roundKey : Block) : Block :=
  (block.substitute.shiftRows.mixColumns).add roundKey

/-- Encrypts a block. -/
def encryptBlock (schedule : KeySchedule) (block : Block) : Block :=
  let mixed := schedule.inner.foldl innerRound (block.add schedule.initial)
  (mixed.substitute.shiftRows).add schedule.final

end Cipher
end AntiForgery
