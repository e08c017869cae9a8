import AntiForgery.Proofs.Cipher.Field

/-!
# The hash of a text with one altered byte

A block holds the first sixteen bytes of a text, and an element of the field the sixteen bytes of a block,
so neither reading loses anything.  A byte that is altered therefore alters one block, and one only.  From
there on the hash only adds blocks and multiplies by the hash key, and both can be undone unless the key
is zero, so the hash is altered too.
-/

namespace AntiForgery
namespace Cipher

open Function

namespace Block

theorem toBytes_injective : Injective toBytes :=
  LeftInverse.injective ofBytes_toBytes

theorem toBytes_ofBytes (bytes : List UInt8) :
    (ofBytes bytes).toBytes = (List.range size).map fun place => bytes.getD place 0 := by
  simp [ofBytes, toBytes, Column.ofBytes, Column.toBytes, size, List.range_succ,
    List.getD_eq_getElem?_getD]

/-- A block is made of the first sixteen bytes of a text, and of no others. -/
theorem ofBytes_eq_ofBytes_iff {left right : List UInt8} :
    ofBytes left = ofBytes right ↔ ∀ place < size, left.getD place 0 = right.getD place 0 := by
  constructor
  · intro same place within
    have bytes := congrArg toBytes same
    rw [toBytes_ofBytes, toBytes_ofBytes] at bytes
    exact List.map_inj_left.mp bytes place (List.mem_range.mpr within)
  · intro agree
    apply toBytes_injective
    rw [toBytes_ofBytes, toBytes_ofBytes]
    exact List.map_inj_left.mpr fun place inside => agree place (List.mem_range.mp inside)

theorem ofBytes_set_ne
    {bytes : List UInt8}
    {place : Nat}
    (within : place < size)
    (inside : place < bytes.length)
    {value : UInt8}
    (different : value ≠ bytes[place]) :
    ofBytes (bytes.set place value) ≠ ofBytes bytes := by
  intro same
  apply different
  simpa [List.getD_eq_getElem?_getD, inside] using ofBytes_eq_ofBytes_iff.mp same place within

/-- A byte behind the block is no part of it. -/
theorem ofBytes_set_of_le
    (bytes : List UInt8)
    {place : Nat}
    (beyond : size ≤ place)
    (value : UInt8) :
    ofBytes (bytes.set place value) = ofBytes bytes := by
  rw [ofBytes_eq_ofBytes_iff]
  intro other within
  rw [List.getD_eq_getElem?_getD, List.getElem?_set_ne (by omega), ← List.getD_eq_getElem?_getD]

/-- A byte that is altered alters one block, and one only. -/
theorem split_set
    {count : Nat}
    {bytes : List UInt8}
    {place : Nat}
    (within : place < size * count)
    (inside : place < bytes.length)
    {value : UInt8}
    (different : value ≠ bytes[place]) :
    ∃ before block altered after,
      split count bytes = before ++ block :: after ∧
        split count (bytes.set place value) = before ++ altered :: after ∧ altered ≠ block := by
  induction count generalizing bytes place with
  | zero => omega
  | succ count ih =>
      by_cases first : place < size
      · refine ⟨[], ofBytes bytes, ofBytes (bytes.set place value),
          split count (bytes.drop size), rfl, ?_, ofBytes_set_ne first inside different⟩
        rw [split, List.drop_set_of_lt first]
        rfl
      · have beyond := Nat.le_of_not_lt first
        have remains : place - size < (bytes.drop size).length := by
          rw [List.length_drop]
          omega
        have altered : value ≠ (bytes.drop size)[place - size] := by
          simpa [Nat.add_sub_cancel' beyond] using different
        have ahead : place - size < size * count := by
          rw [Nat.mul_succ] at within
          omega
        obtain ⟨before, block, other, after, old, new, apart⟩ := ih ahead remains altered
        refine ⟨ofBytes bytes :: before, block, other, after, ?_, ?_, apart⟩
        · rw [split, old]
          rfl
        · rw [split, ofBytes_set_of_le bytes beyond, List.drop_set, if_neg first, new]
          rfl

end Block

/-! ### Numbers as bytes -/

/-- The number that bytes spell, the most significant first, after a number read before them. -/
def numberFrom (start : Nat) (bytes : List UInt8) : Nat :=
  bytes.foldl (fun number byte => 256 * number + byte.toNat) start

theorem numberFrom_append (start : Nat) (left right : List UInt8) :
    numberFrom start (left ++ right) = numberFrom (numberFrom start left) right :=
  List.foldl_append

theorem numberFrom_lt (start : Nat) (bytes : List UInt8) :
    numberFrom start bytes < (start + 1) * 256 ^ bytes.length := by
  induction bytes generalizing start with
  | nil => simp [numberFrom]
  | cons byte rest ih =>
      have small := byte.toNat_lt
      calc numberFrom start (byte :: rest)
          < (256 * start + byte.toNat + 1) * 256 ^ rest.length := ih (256 * start + byte.toNat)
        _ ≤ ((start + 1) * 256) * 256 ^ rest.length := Nat.mul_le_mul_right _ (by omega)
        _ = (start + 1) * 256 ^ (byte :: rest).length := by
          rw [List.length_cons, pow_succ', mul_assoc]

/-- Bytes of one length, and the number before them, can be told from the number that they spell. -/
theorem numberFrom_inj
    {first second : Nat}
    {left right : List UInt8}
    (size : left.length = right.length)
    (same : numberFrom first left = numberFrom second right) :
    first = second ∧ left = right := by
  induction left generalizing first second right with
  | nil =>
      obtain rfl := List.length_eq_zero_iff.mp size.symm
      exact ⟨same, rfl⟩
  | cons byte rest ih =>
      obtain ⟨other, others, rfl⟩ := List.exists_cons_of_length_eq_add_one size.symm
      obtain ⟨numbers, rfl⟩ := ih (Nat.succ_inj.mp size) same
      have low := byte.toNat_lt
      have high := other.toNat_lt
      obtain ⟨rfl, equal⟩ : first = second ∧ byte.toNat = other.toNat := by
        change 256 * first + byte.toNat = 256 * second + other.toNat at numbers
        omega
      exact ⟨rfl, by rw [UInt8.toNat_inj.mp equal]⟩

theorem bigEndian_succ (width number : Nat) :
    bigEndian (width + 1) number = bigEndian width (number >>> 8) ++ [UInt8.ofNat number] := by
  have shifted (place : Nat) (inside : place ∈ List.range width) :
      UInt8.ofNat (number >>> (8 * (width + 1 - 1 - place))) =
        UInt8.ofNat (number >>> 8 >>> (8 * (width - 1 - place))) := by
    have within := List.mem_range.mp inside
    rw [← Nat.shiftRight_add]
    congr 2
    omega
  rw [bigEndian, List.range_succ, List.map_append, List.map_inj_left.mpr shifted]
  simp [bigEndian]

/-- A number that is written out is read back, up to what the width holds. -/
theorem numberFrom_bigEndian (width number : Nat) :
    numberFrom 0 (bigEndian width number) = number % 256 ^ width := by
  induction width generalizing number with
  | zero => simp [numberFrom, bigEndian, Nat.mod_one]
  | succ width ih =>
      have power : 256 ^ (width + 1) = 256 * 256 ^ width := pow_succ' 256 width
      rw [bigEndian_succ, numberFrom_append, ih, Nat.shiftRight_eq_div_pow, power, Nat.mod_mul]
      simp [numberFrom, Nat.add_comm]

namespace FieldElement

theorem numbers_of_size : 256 ^ Block.size = 2 ^ 128 := by
  decide

/-- The number of a block is below 2^128, so none of it is cut off. -/
theorem toNat_ofBlock (block : Block) : (ofBlock block).toNat = numberFrom 0 block.toBytes := by
  have small : numberFrom 0 block.toBytes < 2 ^ 128 := by
    have bound := numberFrom_lt 0 block.toBytes
    rwa [Block.length_toBytes, numbers_of_size, zero_add, one_mul] at bound
  calc (ofBlock block).toNat
      = numberFrom 0 block.toBytes % 2 ^ 128 := BitVec.toNat_ofNat _ _
    _ = numberFrom 0 block.toBytes := Nat.mod_eq_of_lt small

theorem ofBlock_injective : Injective ofBlock := by
  intro left right same
  have numbers := congrArg BitVec.toNat same
  rw [toNat_ofBlock, toNat_ofBlock] at numbers
  have size : left.toBytes.length = right.toBytes.length := by
    rw [Block.length_toBytes, Block.length_toBytes]
  exact Block.toBytes_injective (numberFrom_inj size numbers).2

theorem toBytes_injective : Injective toBytes := by
  intro left right same
  have numbers := congrArg (numberFrom 0) same
  rw [toBytes, toBytes, numberFrom_bigEndian, numberFrom_bigEndian, numbers_of_size,
    Nat.mod_eq_of_lt left.isLt, Nat.mod_eq_of_lt right.isLt] at numbers
  exact BitVec.eq_of_toNat_eq numbers

end FieldElement

/-! ### The hash -/

/-- What the hash does with one more block. -/
def absorb (hashKey : FieldElement) (sum : FieldElement) (block : Block) : FieldElement :=
  FieldElement.mul (sum ^^^ FieldElement.ofBlock block) hashKey

/-- The hash takes one block after the other into a sum. -/
theorem ghash_eq_foldl (hashKey : FieldElement) (blocks : List Block) :
    ghash hashKey blocks = blocks.foldl (absorb hashKey) 0 := rfl

section Absorbing

variable {hashKey : FieldElement} (nonzero : hashKey ≠ 0)
include nonzero

/-- A block added to different sums leaves them different. -/
theorem absorb_left_injective (block : Block) :
    Injective fun sum => absorb hashKey sum block := by
  intro left right same
  exact (BitVec.xor_left_inj _).mp (FieldElement.mul_right_cancel nonzero same)

/-- Different blocks added to one sum give different sums. -/
theorem absorb_right_injective (sum : FieldElement) : Injective (absorb hashKey sum) := by
  intro left right same
  exact FieldElement.ofBlock_injective
    ((BitVec.xor_right_inj _).mp (FieldElement.mul_right_cancel nonzero same))

/-- Where the hash key is not zero, sums that differ stay different through all blocks. -/
theorem foldl_absorb_injective (blocks : List Block) :
    Injective fun sum => blocks.foldl (absorb hashKey) sum := by
  induction blocks with
  | nil => exact injective_id
  | cons block rest ih => exact ih.comp (absorb_left_injective nonzero block)

/-- Two texts that differ in one block have different hashes. -/
theorem ghash_ne
    {left right : Block}
    (different : left ≠ right)
    (before after : List Block) :
    ghash hashKey (before ++ left :: after) ≠ ghash hashKey (before ++ right :: after) := by
  intro same
  rw [ghash_eq_foldl, ghash_eq_foldl, List.foldl_append, List.foldl_append, List.foldl_cons,
    List.foldl_cons] at same
  exact different (absorb_right_injective nonzero _ (foldl_absorb_injective nonzero after same))

end Absorbing

end Cipher
end AntiForgery
