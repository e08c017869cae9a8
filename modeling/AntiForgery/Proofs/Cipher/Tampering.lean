import AntiForgery.Cipher.Envelope
import AntiForgery.Proofs.Cipher.Hash
import AntiForgery.Proofs.Cipher.Permutation

/-!
# Envelopes with one altered byte

A single altered byte closes an envelope for good, wherever it lies.  In the nonce it alters the block that
masks the tag, for the block cipher is a permutation.  In the encrypted payload it alters the hash.  In the
tag it alters what is compared.
-/

namespace AntiForgery
namespace Cipher

namespace Gcm

/-- A counter block tells the nonce that it begins with. -/
theorem counterBlock_injective
    {left right : List UInt8}
    (leftSize : left.length = nonceSize)
    (rightSize : right.length = nonceSize)
    {counter : Nat}
    (same : counterBlock left counter = counterBlock right counter) :
    left = right := by
  have agree := Block.ofBytes_eq_ofBytes_iff.mp same
  apply List.ext_getElem (leftSize.trans rightSize.symm)
  intro place inLeft inRight
  have within : place < Block.size := by
    rw [leftSize] at inLeft
    exact inLeft.trans (by decide)
  simpa [List.getD_eq_getElem?_getD, List.getElem?_append_left, inLeft, inRight]
    using agree place within

/-- A text can be told from its sum with a stream that is long enough. -/
theorem zipWith_xor_left_cancel
    {left right stream : List UInt8}
    (leftFits : left.length ≤ stream.length)
    (rightFits : right.length ≤ stream.length)
    (same : List.zipWith (· ^^^ ·) left stream = List.zipWith (· ^^^ ·) right stream) :
    left = right := by
  rw [← zipWith_xor_zipWith_xor left stream leftFits, same,
    zipWith_xor_zipWith_xor right stream rightFits]

theorem zipWith_xor_right_cancel
    {text left right : List UInt8}
    (leftFits : left.length ≤ text.length)
    (rightFits : right.length ≤ text.length)
    (same : List.zipWith (· ^^^ ·) text left = List.zipWith (· ^^^ ·) text right) :
    left = right := by
  have turned (stream : List UInt8) :
      List.zipWith (· ^^^ ·) text stream = List.zipWith (· ^^^ ·) stream text :=
    List.zipWith_comm_of_comm UInt8.xor_comm
  rw [turned, turned] at same
  exact zipWith_xor_left_cancel leftFits rightFits same

theorem length_toBytes_sum (sum : FieldElement) (mask : Block) :
    (FieldElement.toBytes sum).length = mask.toBytes.length := by
  rw [FieldElement.toBytes, length_bigEndian, Block.length_toBytes]

/-- Under another nonce a text has another tag. -/
theorem tag_ne_of_nonce_ne
    (schedule : KeySchedule)
    {left right : List UInt8}
    (leftSize : left.length = nonceSize)
    (rightSize : right.length = nonceSize)
    (different : left ≠ right)
    (encrypted : List UInt8) :
    tag schedule left encrypted ≠ tag schedule right encrypted := by
  intro same
  simp only [tag] at same
  have masks :=
    zipWith_xor_right_cancel (length_toBytes_sum _ _).ge (length_toBytes_sum _ _).ge same
  exact different (counterBlock_injective leftSize rightSize
    (encryptBlock_injective schedule (Block.toBytes_injective masks)))

/-- A text with one altered byte has another tag. -/
theorem tag_set_ne
    {schedule : KeySchedule}
    (nonzero : hashKey schedule ≠ 0)
    (nonce : List UInt8)
    {encrypted : List UInt8}
    {place : Nat}
    (inside : place < encrypted.length)
    {value : UInt8}
    (different : value ≠ encrypted[place]) :
    tag schedule nonce (encrypted.set place value) ≠ tag schedule nonce encrypted := by
  intro same
  have within : place < Block.size * Block.countFor encrypted.length := by
    simp only [Block.countFor, Block.size]
    omega
  obtain ⟨before, block, altered, after, old, new, apart⟩ :=
    Block.split_set within inside different
  simp only [tag, List.length_set, old, new, List.append_assoc, List.cons_append] at same
  apply ghash_ne nonzero apart before (after ++ [lengthBlock encrypted.length])
  apply FieldElement.toBytes_injective
  exact zipWith_xor_left_cancel (length_toBytes_sum _ _).le (length_toBytes_sum _ _).le same

/-- Nothing decrypts with a wrong tag. -/
theorem decrypt?_append_eq_none
    {schedule : KeySchedule}
    {nonce encrypted given : List UInt8}
    (size : given.length = tagSize)
    (wrong : given ≠ tag schedule nonce encrypted) :
    decrypt? schedule nonce (encrypted ++ given) = none := by
  have rest : (encrypted ++ given).length - tagSize = encrypted.length := by
    rw [List.length_append, size, Nat.add_sub_cancel]
  simp only [decrypt?, rest, List.take_left, List.drop_left, if_neg wrong, ite_self]

end Gcm

namespace Envelope

open Gcm

theorem set_ne_self
    {bytes : List UInt8}
    {place : Nat}
    (inside : place < bytes.length)
    {value : UInt8}
    (different : value ≠ bytes[place]) :
    bytes.set place value ≠ bytes := by
  intro same
  apply different
  rw [← List.getElem_set_self (l := bytes) (a := value) (by rwa [List.length_set])]
  simp only [same]

/-- An envelope whose tag is another than the right one is not opened. -/
theorem unseal?_append_eq_none
    {schedule : KeySchedule}
    {nonce encrypted given : List UInt8}
    (nonceLength : nonce.length = nonceSize)
    (size : given.length = tagSize)
    (wrong : given ≠ tag schedule nonce encrypted) :
    unseal? schedule (nonce ++ (encrypted ++ given)) = none := by
  simp only [unseal?, List.take_left' nonceLength, List.drop_left' nonceLength,
    decrypt?_append_eq_none size wrong, ite_self]

/-- An envelope with one altered byte gives nothing. -/
theorem unseal?_set_eq_none
    {schedule : KeySchedule}
    (nonzero : hashKey schedule ≠ 0)
    {nonce : List UInt8}
    (nonceLength : nonce.length = nonceSize)
    (payload : List UInt8)
    {place : Nat}
    (inside : place < (join schedule nonce payload).length)
    {value : UInt8}
    (different : value ≠ (join schedule nonce payload)[place]) :
    unseal? schedule ((join schedule nonce payload).set place value) = none := by
  simp only [join, encrypt] at inside different ⊢
  rw [List.set_append]
  split
  · next early =>
      rw [List.getElem_append_left early] at different
      have altered := set_ne_self early different
      have size : (nonce.set place value).length = nonceSize := by
        rw [List.length_set, nonceLength]
      exact unseal?_append_eq_none size (length_tag schedule nonce _)
        (tag_ne_of_nonce_ne schedule nonceLength size altered.symm _)
  · next late =>
      rw [List.getElem_append_right (Nat.le_of_not_lt late)] at different
      rw [List.length_append] at inside
      rw [List.set_append]
      split
      · next early =>
          rw [List.getElem_append_left early] at different
          exact unseal?_append_eq_none nonceLength (length_tag schedule nonce _)
            (tag_set_ne nonzero nonce early different).symm
      · next late =>
          rw [List.getElem_append_right (Nat.le_of_not_lt late)] at different
          rw [List.length_append] at inside
          have size := length_tag schedule nonce (transform schedule nonce payload)
          exact unseal?_append_eq_none nonceLength (by rw [List.length_set, size])
            (set_ne_self (by omega) different)

end Envelope

end Cipher
end AntiForgery
