import AntiForgery.Proofs.Cipher.Tampering
import AntiForgery.Proofs.Token.Minting

/-!
# Tokens with one altered byte

Whoever alters a single byte of what a token spells, and spells the outcome as a token again, holds a token
that is malformed for every session, at every time and whatever has been recorded.
-/

namespace AntiForgery

/-- The hash key is zero only if the block of zeros is encrypted to itself. -/
theorem Cipher.Gcm.hashKey_ne_zero
    {schedule : KeySchedule}
    (moved : encryptBlock schedule .zero ≠ .zero) :
    hashKey schedule ≠ 0 := by
  have zero : FieldElement.ofBlock .zero = 0 := by
    decide
  rw [hashKey, ← zero]
  exact FieldElement.ofBlock_injective.ne moved

namespace Token
namespace Engine

theorem decode?_utf8_tokenOf (engine : Engine) (nonce : List UInt8) (payload : Payload) :
    Base64.decode? (Text.utf8 (engine.tokenOf nonce payload)) =
      some (Cipher.Envelope.join engine.schedule nonce payload.encode) := by
  rw [utf8_tokenOf, Base64.decode?_encode]

/-- The text of bytes that are no envelope is malformed, and the store is not asked about it. -/
theorem check_of_unseal?_eq_none
    {engine : Engine}
    {bytes : List UInt8}
    (shut : Cipher.Envelope.unseal? engine.schedule bytes = none)
    (session : String)
    (now : Seconds)
    (store : Store) :
    engine.check session (Text.ofAscii (Base64.encode bytes)) now store =
      (.error .malformed, store) := by
  have spelt : Base64.decode? (Text.utf8 (Text.ofAscii (Base64.encode bytes))) = some bytes := by
    rw [Text.utf8_ofAscii Base64.encode_lt, Base64.decode?_encode]
  have unread : engine.read (Text.ofAscii (Base64.encode bytes)) = .error .malformed := by
    simp only [read, spelt, disclose, shut, bind, Except.bind]
  simp only [check, judge, unread, bind, Except.bind]

/-- One altered byte makes a token malformed, wherever in it the byte is and whatever is put there, as
long as the secret does not encrypt the block of zeros to itself. -/
theorem ofSecret_check_altered
    {secret : List UInt8}
    (sized : secret.length ∈ Cipher.secretSizes)
    (moved : Cipher.encryptBlock (.ofKey secret) .zero ≠ .zero)
    (window : Seconds) :
    ∃ engine : Engine,
      ofSecret secret window = .ok engine ∧
      ∀ session issued source token,
        (engine.mint session issued source).1 = .ok token →
        ∃ envelope,
          Base64.decode? (Text.utf8 token) = some envelope ∧
          ∀ (place : Nat) (inside : place < envelope.length) (value : UInt8),
            value ≠ envelope[place] →
            ∀ other now store,
              engine.check other
                  (Text.ofAscii (Base64.encode (envelope.set place value))) now store =
                (.error .malformed, store) := by
  refine ⟨_, ofSecret_of_size sized window, ?_⟩
  intro session issued source token minted
  obtain rfl := eq_tokenOf_of_mint minted
  have size : (source.take 12).length = 12 := Entropy.length_take 12 source
  refine ⟨_, decode?_utf8_tokenOf _ _ _, ?_⟩
  intro place inside value different other now store
  apply check_of_unseal?_eq_none
  exact Cipher.Envelope.unseal?_set_eq_none (Cipher.Gcm.hashKey_ne_zero moved) size _ inside different

/-- The first byte of the nonce of a token is altered from zero to one. -/
theorem ofSecret_check_altered_zeros :
    (List.replicate 16 0 : List UInt8).length ∈ Cipher.secretSizes ∧
    Cipher.encryptBlock (.ofKey (List.replicate 16 0)) .zero ≠ .zero ∧
    ∃ engine : Engine,
      ofSecret (List.replicate 16 0) 3600 = .ok engine ∧
      ∃ token envelope,
        (engine.mint "sid-1" 1700000000 (.ofList (List.replicate 12 0))).1 = .ok token ∧
        Base64.decode? (Text.utf8 token) = some envelope ∧
        envelope[0]? = some 0 ∧
        ∀ store,
          engine.check "sid-1" (Text.ofAscii (Base64.encode (envelope.set 0 1))) 1700000000 store =
            (.error .malformed, store) := by
  have sized : (List.replicate 16 0 : List UInt8).length ∈ Cipher.secretSizes := by decide
  have moved : Cipher.encryptBlock (.ofKey (List.replicate 16 0)) .zero ≠ .zero := by
    decide +kernel
  obtain ⟨engine, made, rejected⟩ := ofSecret_check_altered sized moved 3600
  have short : (Payload.encode ⟨"sid-1", 1700000000⟩).length ≤ Cipher.Envelope.payloadLimit := by
    decide +kernel
  have enough : 12 ≤ (Entropy.ofList (List.replicate 12 0)).ready := by decide
  obtain ⟨token, minted⟩ := engine.exists_mint short enough
  obtain ⟨envelope, spelt, altered⟩ := rejected _ _ _ _ minted
  obtain rfl := eq_tokenOf_of_mint minted
  have first : envelope[0]? = some 0 := by
    rw [decode?_utf8_tokenOf] at spelt
    obtain rfl := Option.some.inj spelt
    rfl
  obtain ⟨inside, zero⟩ := List.getElem?_eq_some_iff.mp first
  refine ⟨sized, moved, engine, made, _, envelope, minted, spelt, first, ?_⟩
  intro store
  exact altered 0 inside 1 (by rw [zero]; decide) "sid-1" 1700000000 store

end Engine
end Token
end AntiForgery
