import AntiForgery.Cipher.Aes
import AntiForgery.Cipher.Ghash

/-!
# Counter mode with authentication

A text is added to a keystream made from a nonce, and a tag over the result shows who wrote it.
There is no associated data.  `decrypt?_encrypt` says that a text comes back, and
`encrypt_of_decrypt?` that nothing decrypts but what encrypting writes.
-/

namespace AntiForgery
namespace Cipher
namespace Gcm

/-- The number of bytes in a nonce. -/
def nonceSize : Nat := 12

/-- The number of bytes in a tag. -/
def tagSize : Nat := 16

/-- The block that a nonce and a counter of 32 bits form. -/
def counterBlock (nonce : List UInt8) (counter : Nat) : Block :=
  Block.ofBytes (nonce ++ bigEndian 4 counter)

/-- The bytes that a text of `count` blocks is added to.  Counter 1 is kept for the tag. -/
def keystream (schedule : KeySchedule) (nonce : List UInt8) (count : Nat) : List UInt8 :=
  (List.range count).flatMap fun index =>
    (encryptBlock schedule (counterBlock nonce (index + 2))).toBytes

/-- Adds the keystream to a text; a second time takes it away again. -/
def transform (schedule : KeySchedule) (nonce text : List UInt8) : List UInt8 :=
  List.zipWith (· ^^^ ·) text (keystream schedule nonce (Block.countFor text.length))

/-- The hash key: the encryption of the block of zeros. -/
def hashKey (schedule : KeySchedule) : FieldElement :=
  FieldElement.ofBlock (encryptBlock schedule .zero)

/-- The block that closes the hash: no associated data, then the length of the text in bits. -/
def lengthBlock (length : Nat) : Block :=
  Block.ofBytes (bigEndian 8 0 ++ bigEndian 8 (8 * length))

/-- The tag of an encrypted text. -/
def tag (schedule : KeySchedule) (nonce encrypted : List UInt8) : List UInt8 :=
  let blocks := Block.split (Block.countFor encrypted.length) encrypted
  let sum := ghash (hashKey schedule) (blocks ++ [lengthBlock encrypted.length])
  List.zipWith (· ^^^ ·) (FieldElement.toBytes sum)
    (encryptBlock schedule (counterBlock nonce 1)).toBytes

/-- The encrypted text followed by its tag. -/
def encrypt (schedule : KeySchedule) (nonce text : List UInt8) : List UInt8 :=
  let encrypted := transform schedule nonce text
  encrypted ++ tag schedule nonce encrypted

/-- The text under an encrypted text with its tag, if the tag is right. -/
def decrypt? (schedule : KeySchedule) (nonce sealed : List UInt8) : Option (List UInt8) :=
  if sealed.length < tagSize then none
  else
    let encrypted := sealed.take (sealed.length - tagSize)
    let given := sealed.drop (sealed.length - tagSize)
    if given = tag schedule nonce encrypted then some (transform schedule nonce encrypted)
    else none

theorem length_keystream (schedule : KeySchedule) (nonce : List UInt8) (count : Nat) :
    (keystream schedule nonce count).length = Block.size * count := by
  induction count with
  | zero => rfl
  | succ count ih =>
      simp only [keystream, List.range_succ, List.flatMap_append, List.length_append] at ih ⊢
      rw [ih]
      simp only [List.flatMap_cons, List.flatMap_nil, List.append_nil, Block.length_toBytes,
        Nat.mul_succ]

@[simp] theorem length_transform (schedule : KeySchedule) (nonce text : List UInt8) :
    (transform schedule nonce text).length = text.length := by
  simp only [transform, List.length_zipWith, length_keystream, Block.countFor, Block.size]
  omega

theorem zipWith_xor_zipWith_xor (text stream : List UInt8) (long : text.length ≤ stream.length) :
    List.zipWith (· ^^^ ·) (List.zipWith (· ^^^ ·) text stream) stream = text := by
  induction text generalizing stream with
  | nil => rfl
  | cons byte text ih =>
      cases stream with
      | nil => simp at long
      | cons pad stream =>
          simp only [List.zipWith_cons_cons, UInt8.xor_assoc, UInt8.xor_self, UInt8.xor_zero]
          rw [ih stream (by simpa using long)]

/-- The keystream taken away leaves the text. -/
@[simp] theorem transform_transform (schedule : KeySchedule) (nonce text : List UInt8) :
    transform schedule nonce (transform schedule nonce text) = text := by
  have long : text.length ≤ (keystream schedule nonce (Block.countFor text.length)).length := by
    simp only [length_keystream, Block.countFor, Block.size]
    omega
  have same := length_transform schedule nonce text
  rw [transform, same]
  exact zipWith_xor_zipWith_xor text _ long

@[simp] theorem length_tag (schedule : KeySchedule) (nonce encrypted : List UInt8) :
    (tag schedule nonce encrypted).length = tagSize := by
  simp [tag, FieldElement.toBytes, Block.size, tagSize]

@[simp] theorem length_encrypt (schedule : KeySchedule) (nonce text : List UInt8) :
    (encrypt schedule nonce text).length = text.length + tagSize := by
  simp [encrypt]

/-- Decrypting gives back what was encrypted. -/
@[simp] theorem decrypt?_encrypt (schedule : KeySchedule) (nonce text : List UInt8) :
    decrypt? schedule nonce (encrypt schedule nonce text) = some text := by
  have size := length_transform schedule nonce text
  have front : (encrypt schedule nonce text).take text.length = transform schedule nonce text := by
    rw [encrypt, ← size, List.take_left]
  have back : (encrypt schedule nonce text).drop text.length =
      tag schedule nonce (transform schedule nonce text) := by
    rw [encrypt, ← size, List.drop_left]
  simp only [decrypt?, length_encrypt, Nat.add_sub_cancel]
  rw [if_neg (by omega), front, back, if_pos rfl, transform_transform]

/-- What decrypts is what encrypting writes. -/
theorem encrypt_of_decrypt? {schedule : KeySchedule} {nonce sealed text : List UInt8}
    (opened : decrypt? schedule nonce sealed = some text) :
    encrypt schedule nonce text = sealed := by
  simp only [decrypt?] at opened
  split at opened
  · simp at opened
  · split at opened
    · next given =>
        simp only [Option.some.injEq] at opened
        rw [← opened, encrypt, transform_transform, ← given, List.take_append_drop]
    · simp at opened

end Gcm
end Cipher
end AntiForgery
