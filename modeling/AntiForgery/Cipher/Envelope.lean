import AntiForgery.Cipher.Gcm

/-!
# Envelopes

A payload under lock and key: the nonce, the encrypted payload and its tag, one after the other.
`unseal?_join` says that a payload comes back from its envelope, and `join_of_unseal?` that nothing
but an envelope gives a payload.
-/

namespace AntiForgery
namespace Cipher

/-- The numbers of bytes that a secret may have. -/
def secretSizes : List Nat := [16, 24, 32]

/-- The round keys of a secret, if its size is one of the three. -/
def KeySchedule.ofSecret? (secret : List UInt8) : Option KeySchedule :=
  if secret.length ∈ secretSizes then some (KeySchedule.ofKey secret) else none

namespace Envelope

/-- The most bytes that a payload may have under one nonce. -/
def payloadLimit : Nat := 0x1000000000

/-- The most bytes that an encrypted payload may have to be looked at. -/
def encryptedLimit : Nat := payloadLimit + 16

/-- The envelope of a payload. -/
def join (schedule : KeySchedule) (nonce payload : List UInt8) : List UInt8 :=
  nonce ++ Gcm.encrypt schedule nonce payload

/-- The envelope of a payload, unless the payload is too long. -/
def seal? (schedule : KeySchedule) (nonce payload : List UInt8) : Option (List UInt8) :=
  if payload.length ≤ payloadLimit then some (join schedule nonce payload) else none

/-- The payload in an envelope, if these bytes are one. -/
def unseal? (schedule : KeySchedule) (envelope : List UInt8) : Option (List UInt8) :=
  if envelope.length < Gcm.nonceSize then none
  else
    let encrypted := envelope.drop Gcm.nonceSize
    if encryptedLimit + Gcm.tagSize < encrypted.length then none
    else Gcm.decrypt? schedule (envelope.take Gcm.nonceSize) encrypted

theorem length_join (schedule : KeySchedule) (nonce payload : List UInt8) :
    (join schedule nonce payload).length = nonce.length + payload.length + Gcm.tagSize := by
  simp only [join, List.length_append, Gcm.length_encrypt]
  omega

/-- A payload comes back from its envelope. -/
theorem unseal?_join (schedule : KeySchedule) {nonce payload : List UInt8}
    (nonceLength : nonce.length = Gcm.nonceSize) (short : payload.length ≤ encryptedLimit) :
    unseal? schedule (join schedule nonce payload) = some payload := by
  have whole := length_join schedule nonce payload
  have front : (join schedule nonce payload).take Gcm.nonceSize = nonce := by
    rw [join, ← nonceLength, List.take_left]
  have back : (join schedule nonce payload).drop Gcm.nonceSize =
      Gcm.encrypt schedule nonce payload := by
    rw [join, ← nonceLength, List.drop_left]
  have fits : ¬ encryptedLimit + Gcm.tagSize < payload.length + Gcm.tagSize := by
    omega
  simp only [unseal?, front, back, Gcm.length_encrypt, if_neg fits, Gcm.decrypt?_encrypt]
  rw [if_neg (by omega)]

/-- Nothing but an envelope gives a payload. -/
theorem join_of_unseal? {schedule : KeySchedule} {envelope payload : List UInt8}
    (opened : unseal? schedule envelope = some payload) :
    join schedule (envelope.take Gcm.nonceSize) payload = envelope := by
  simp only [unseal?] at opened
  split at opened
  · simp at opened
  · split at opened
    · simp at opened
    · rw [join, Gcm.encrypt_of_decrypt? opened, List.take_append_drop]

/-- The envelopes that give a payload are exactly the joins of a nonce with it. -/
theorem unseal?_eq_some_iff {schedule : KeySchedule} {envelope payload : List UInt8} :
    unseal? schedule envelope = some payload ↔
      ∃ nonce, nonce.length = Gcm.nonceSize ∧ payload.length ≤ encryptedLimit ∧
        envelope = join schedule nonce payload := by
  constructor
  · intro opened
    have whole := join_of_unseal? opened
    have size := length_join schedule (envelope.take Gcm.nonceSize) payload
    simp only [unseal?] at opened
    split at opened
    · simp at opened
    · next long =>
        split at opened
        · simp at opened
        · next fits =>
            rw [whole] at size
            simp only [List.length_take, List.length_drop] at size fits
            refine ⟨envelope.take Gcm.nonceSize, ?_, by omega, whole.symm⟩
            rw [List.length_take]
            omega
  · rintro ⟨nonce, nonceLength, short, rfl⟩
    exact unseal?_join schedule nonceLength short

end Envelope
end Cipher
end AntiForgery
