import AntiForgery.Cipher.Block

/-!
# The authentication hash

Blocks as elements of the field with 2^128 elements, and the polynomial hash over them.  The first
bit of a block is the constant coefficient, so multiplying by the indeterminate is a shift to the
right, and a bit that falls out is put back by the reduction polynomial.
-/

namespace AntiForgery
namespace Cipher

/-- A polynomial over the two-element field of degree below 128; the most significant bit is the
constant coefficient. -/
abbrev FieldElement := BitVec 128

namespace FieldElement

/-- The element that a block spells. -/
def ofBlock (block : Block) : FieldElement :=
  BitVec.ofNat 128 (block.toBytes.foldl (fun number byte => 256 * number + byte.toNat) 0)

/-- The sixteen bytes of an element. -/
def toBytes (element : FieldElement) : List UInt8 :=
  bigEndian Block.size element.toNat

/-- The reduction polynomial without its leading term. -/
def reduction : FieldElement :=
  0xE1#128 <<< 120

/-- The product with the indeterminate. -/
def shift (element : FieldElement) : FieldElement :=
  (element >>> 1) ^^^ (if element.getLsbD 0 then reduction else 0)

/-- The product, by Horner's rule over the coefficients of the first factor from the highest
degree down. -/
def mul (left right : FieldElement) : FieldElement :=
  (List.range 128).foldl
    (fun product place => shift product ^^^ (if left.getLsbD place then right else 0)) 0

end FieldElement

/-- The polynomial hash of blocks under a hash key. -/
def ghash (hashKey : FieldElement) (blocks : List Block) : FieldElement :=
  blocks.foldl (fun sum block => FieldElement.mul (sum ^^^ FieldElement.ofBlock block) hashKey) 0

end Cipher
end AntiForgery
