import AntiForgery.Proofs.Token.Acceptance
import AntiForgery.Proofs.Token.Payload

/-!
# Minting

A token is made of the nonce that was drawn for it and the payload that it seals, and both can be
told from it.  So tokens that differ in either are different texts, and a new token passes every
check of its session in its window until it is spent.
-/

namespace AntiForgery

/-- No two lists of bytes have one text. -/
theorem Base64.encode_inj {first second : List UInt8} :
    encode first = encode second ↔ first = second := by
  have back : decode? ∘ encode = some := funext decode?_encode
  have injective : Function.Injective (decode? ∘ encode) := back ▸ Option.some_injective _
  exact injective.of_comp.eq_iff

/-- An envelope tells its nonce and its payload. -/
theorem Cipher.Envelope.join_inj
    {schedule : KeySchedule}
    {nonce otherNonce : List UInt8}
    (sameSize : nonce.length = otherNonce.length)
    {payload otherPayload : List UInt8} :
    join schedule nonce payload = join schedule otherNonce otherPayload ↔
      nonce = otherNonce ∧ payload = otherPayload := by
  constructor
  · intro same
    obtain ⟨rfl, encrypted⟩ := List.append_inj same sameSize
    have opened := Gcm.decrypt?_encrypt schedule nonce payload
    rw [encrypted, Gcm.decrypt?_encrypt] at opened
    exact ⟨rfl, (Option.some.inj opened).symm⟩
  · rintro ⟨rfl, rfl⟩
    rfl

namespace Token
namespace Engine

/-! ## Envelopes -/

theorem disclose_eq_ok_iff
    {engine : Engine}
    {envelope payload : List UInt8} :
    engine.disclose envelope = .ok payload ↔
      Cipher.Envelope.unseal? engine.schedule envelope = some payload := by
  rw [disclose]
  split
  · next sealed => simp only [reduceCtorEq, sealed]
  · next opened => simp only [Except.ok.injEq, opened, Option.some.injEq]

/-- Only what was sealed is disclosed. -/
theorem eq_join_of_disclose
    {engine : Engine}
    {envelope payload : List UInt8}
    (disclosed : engine.disclose envelope = .ok payload) :
    28 ≤ envelope.length ∧
      envelope = Cipher.Envelope.join engine.schedule (envelope.take 12) payload := by
  obtain ⟨nonce, size, _, rfl⟩ :=
    Cipher.Envelope.unseal?_eq_some_iff.mp (disclose_eq_ok_iff.mp disclosed)
  have nonceLength : nonce.length = 12 := size
  have length : (Cipher.Envelope.join engine.schedule nonce payload).length =
      nonce.length + payload.length + 16 :=
    Cipher.Envelope.length_join engine.schedule nonce payload
  have front : (Cipher.Envelope.join engine.schedule nonce payload).take 12 = nonce := by
    rw [Cipher.Envelope.join, ← nonceLength, List.take_left]
  exact ⟨by omega, by rw [front]⟩

/-- A record of a spent token names the envelope that the token is the text of. -/
theorem spentKey_eq_iff_of_decode?
    {first second : String}
    {firstEnvelope secondEnvelope : List UInt8}
    (readFirst : Base64.decode? (Text.utf8 first) = some firstEnvelope)
    (readSecond : Base64.decode? (Text.utf8 second) = some secondEnvelope) :
    Store.spentKey first = Store.spentKey second ↔ firstEnvelope = secondEnvelope := by
  rw [Store.spentKey_inj]
  constructor
  · rintro rfl
    exact Option.some.inj (readFirst.symm.trans readSecond)
  · rintro rfl
    apply Text.utf8_inj.mp
    exact (Base64.encode_of_decode? readFirst).symm.trans (Base64.encode_of_decode? readSecond)

/-! ## Tokens -/

/-- The token of a payload that is sealed under a nonce. -/
def tokenOf (engine : Engine) (nonce : List UInt8) (payload : Payload) : String :=
  Text.ofAscii (Base64.encode (Cipher.Envelope.join engine.schedule nonce payload.encode))

@[simp] theorem utf8_tokenOf (engine : Engine) (nonce : List UInt8) (payload : Payload) :
    Text.utf8 (engine.tokenOf nonce payload) =
      Base64.encode (Cipher.Envelope.join engine.schedule nonce payload.encode) :=
  Text.utf8_ofAscii Base64.encode_lt

/-- A token tells its nonce and its payload. -/
theorem tokenOf_inj
    {engine : Engine}
    {nonce otherNonce : List UInt8}
    (sameSize : nonce.length = otherNonce.length)
    {payload otherPayload : Payload} :
    engine.tokenOf nonce payload = engine.tokenOf otherNonce otherPayload ↔
      nonce = otherNonce ∧ payload = otherPayload := by
  rw [← Text.utf8_inj, utf8_tokenOf, utf8_tokenOf, Base64.encode_inj,
    Cipher.Envelope.join_inj sameSize, Payload.encode_inj]

/-- What is minted is the token of the next nonce of the source and the payload. -/
theorem mint_eq_ok_iff
    {engine : Engine}
    {session token : String}
    {issued : Seconds}
    {source rest : Entropy} :
    engine.mint session issued source = (.ok token, rest) ↔
      ∃ nonce,
        source.draw? Cipher.Gcm.nonceSize = some (nonce, rest) ∧
        (Payload.encode ⟨session, issued⟩).length ≤ Cipher.Envelope.payloadLimit ∧
        token = engine.tokenOf nonce ⟨session, issued⟩ := by
  simp only [mint, enclose, Cipher.Envelope.seal?, tokenOf]
  cases drawn : source.draw? Cipher.Gcm.nonceSize with
  | none => simp
  | some found =>
      obtain ⟨nonce, left⟩ := found
      by_cases short : (Payload.encode ⟨session, issued⟩).length ≤ Cipher.Envelope.payloadLimit
      · simp only [short, if_true, true_and, Prod.mk.injEq, Except.ok.injEq, Option.some.injEq]
        constructor
        · rintro ⟨rfl, rfl⟩
          exact ⟨nonce, ⟨rfl, rfl⟩, rfl⟩
        · rintro ⟨_, ⟨rfl, rfl⟩, rfl⟩
          exact ⟨rfl, rfl⟩
      · simp [short]

/-- A payload that is not too long is sealed under the next twelve bytes, if they are ready. -/
theorem mint_of_ready
    (engine : Engine)
    {session : String}
    {issued : Seconds}
    (short : (Payload.encode ⟨session, issued⟩).length ≤ Cipher.Envelope.payloadLimit)
    {source : Entropy}
    (enough : 12 ≤ source.ready) :
    engine.mint session issued source =
      (.ok (engine.tokenOf (source.take 12) ⟨session, issued⟩), source.drop 12) :=
  mint_eq_ok_iff.mpr ⟨_, Entropy.draw?_eq_some_iff.mpr ⟨enough, rfl, rfl⟩, short, rfl⟩

theorem exists_mint
    (engine : Engine)
    {session : String}
    {issued : Seconds}
    (short : (Payload.encode ⟨session, issued⟩).length ≤ Cipher.Envelope.payloadLimit)
    {source : Entropy}
    (enough : 12 ≤ source.ready) :
    ∃ token, (engine.mint session issued source).1 = .ok token :=
  ⟨_, congrArg Prod.fst (engine.mint_of_ready short enough)⟩

/-- The nonce of a token that was minted stood first in the source. -/
theorem eq_tokenOf_of_mint
    {engine : Engine}
    {session token : String}
    {issued : Seconds}
    {source : Entropy}
    (minted : (engine.mint session issued source).1 = .ok token) :
    token = engine.tokenOf (source.take 12) ⟨session, issued⟩ := by
  obtain ⟨nonce, drawn, _, rfl⟩ := mint_eq_ok_iff.mp (Prod.ext minted rfl)
  obtain ⟨_, rfl, _⟩ := Entropy.draw?_eq_some_iff.mp drawn
  rfl

theorem opens_of_mint
    {engine : Engine}
    {session token : String}
    {issued : Seconds}
    {source : Entropy}
    (minted : (engine.mint session issued source).1 = .ok token) :
    engine.Opens token ⟨session, issued⟩ := by
  obtain ⟨nonce, drawn, short, rfl⟩ := mint_eq_ok_iff.mp (Prod.ext minted rfl)
  obtain ⟨_, rfl, _⟩ := Entropy.draw?_eq_some_iff.mp drawn
  exact engine.opens_join (Entropy.length_take _ source) (Nat.le_add_right_of_le short)
    (Payload.decode?_encode _)

/-- One text is minted twice only for the same session and time, and only from the same nonce. -/
theorem mint_inj
    {engine : Engine}
    {session otherSession token : String}
    {issued otherIssued : Seconds}
    {source otherSource : Entropy}
    (minted : (engine.mint session issued source).1 = .ok token)
    (mintedAgain : (engine.mint otherSession otherIssued otherSource).1 = .ok token) :
    source.take 12 = otherSource.take 12 ∧
      session = otherSession ∧ issued = otherIssued := by
  have sameSize : (source.take 12).length = (otherSource.take 12).length := by simp
  have same := (eq_tokenOf_of_mint minted).symm.trans (eq_tokenOf_of_mint mintedAgain)
  obtain ⟨nonce, payload⟩ := (tokenOf_inj sameSize).mp same
  exact ⟨nonce, Payload.mk.inj payload⟩

/-- The envelopes that are opened are those that sealing makes, and each has one text.  So a record
of a spent token stands for one envelope, and calls that draw different nonces, or seal different
payloads, never give the same token. -/
theorem ofSecret_envelopes
    {secret : List UInt8}
    (sized : secret.length ∈ Cipher.secretSizes)
    (window : Seconds) :
    ∃ engine : Engine,
      ofSecret secret window = .ok engine ∧
      engine.schedule = .ofKey secret ∧
      (∀ nonce payload : List UInt8,
        nonce.length = 12 →
        payload.length ≤ Cipher.Envelope.payloadLimit →
        engine.disclose (nonce ++ Cipher.Gcm.encrypt engine.schedule nonce payload) =
          .ok payload) ∧
      (∀ envelope payload,
        engine.disclose envelope = .ok payload →
        28 ≤ envelope.length ∧
          envelope =
            envelope.take 12 ++ Cipher.Gcm.encrypt engine.schedule (envelope.take 12) payload) ∧
      (∀ text envelope,
        Base64.decode? text = some envelope → text = Base64.encode envelope) ∧
      (∀ first second firstEnvelope secondEnvelope,
        Base64.decode? (Text.utf8 first) = some firstEnvelope →
        Base64.decode? (Text.utf8 second) = some secondEnvelope →
        (Store.spentKey first = Store.spentKey second ↔ firstEnvelope = secondEnvelope)) ∧
      (∀ session issued (source : Entropy),
        12 ≤ source.ready →
        (Payload.encode ⟨session, issued⟩).length ≤ Cipher.Envelope.payloadLimit →
        ∃ token, (engine.mint session issued source).1 = .ok token) ∧
      ∀ session otherSession issued otherIssued source otherSource token,
        (engine.mint session issued source).1 = .ok token →
        (engine.mint otherSession otherIssued otherSource).1 = .ok token →
        source.take 12 = otherSource.take 12 ∧
          session = otherSession ∧ issued = otherIssued := by
  refine ⟨_, ofSecret_of_size sized window, rfl, ?_, ?_, ?_, ?_, ?_, ?_⟩
  · intro nonce payload size short
    exact disclose_eq_ok_iff.mpr
      (Cipher.Envelope.unseal?_join _ size (Nat.le_add_right_of_le short))
  · intro envelope payload disclosed
    exact eq_join_of_disclose disclosed
  · intro text envelope read
    exact Base64.decode?_eq_some_iff.mp read
  · intro first second firstEnvelope secondEnvelope readFirst readSecond
    exact spentKey_eq_iff_of_decode? readFirst readSecond
  · intro session issued source enough short
    exact exists_mint _ short enough
  · intro session otherSession issued otherIssued source otherSource token minted mintedAgain
    exact mint_inj minted mintedAgain

/-- Two tokens that `sid-1` gets in the same second are different when one nonce is all zeros and
the other begins with a one, and three bytes that are sealed are disclosed again. -/
theorem ofSecret_envelopes_zeros :
    (List.replicate 16 0 : List UInt8).length ∈ Cipher.secretSizes ∧
    ∃ engine : Engine,
      ofSecret (List.replicate 16 0) 3600 = .ok engine ∧
      ∃ first second : String,
        (engine.mint "sid-1" 1700000000 (.ofList (List.replicate 12 0))).1 = .ok first ∧
        (engine.mint "sid-1" 1700000000 (.ofList (1 :: List.replicate 11 0))).1 = .ok second ∧
        first ≠ second ∧
        engine.disclose (List.replicate 12 0 ++
          Cipher.Gcm.encrypt engine.schedule (List.replicate 12 0) [1, 2, 3]) = .ok [1, 2, 3] := by
  have sized : (List.replicate 16 0 : List UInt8).length ∈ Cipher.secretSizes := by decide
  obtain ⟨engine, made, _, opened, _, _, _, mints, distinct⟩ := ofSecret_envelopes sized 3600
  have short : (Payload.encode ⟨"sid-1", 1700000000⟩).length ≤ Cipher.Envelope.payloadLimit := by
    decide +kernel
  obtain ⟨first, mintedFirst⟩ :=
    mints "sid-1" 1700000000 (.ofList (List.replicate 12 0)) (by decide) short
  obtain ⟨second, mintedSecond⟩ :=
    mints "sid-1" 1700000000 (.ofList (1 :: List.replicate 11 0)) (by decide) short
  refine ⟨sized, engine, made, first, second, mintedFirst, mintedSecond, ?_,
    opened _ _ (by decide) (by decide)⟩
  rintro rfl
  have nonces := (distinct _ _ _ _ _ _ _ mintedFirst mintedSecond).1
  revert nonces
  decide

/-! ## New tokens -/

/-- A token passes a check of its session in its window if it has no record yet and the new one has
an end that the clock reaches. -/
theorem check_of_mint
    {engine : Engine}
    (bounded : engine.window < Int64.maxValue)
    {session token : String}
    {issued : Seconds}
    {source : Entropy}
    (minted : (engine.mint session issued source).1 = .ok token)
    {now : Seconds}
    (timely : engine.Timely issued now)
    {store : Store}
    (sound : store.condition = .sound)
    (free : store.table.isLive (Store.spentKey token) store.clock = false)
    (within : store.clock / 1000 + engine.claimLifetime issued now ≤ Store.lastSecond) :
    (engine.check session token now store).1 = .ok true := by
  rw [check_eq_true_iff bounded _ _ _ sound]
  exact ⟨⟨session, issued⟩, ⟨opens_of_mint minted, timely, rfl⟩, free, within⟩

/-- Whatever the session is called and whenever the token is issued, a token is minted, and it is
accepted everywhere in its window as long as it has no record and the new one has an end that the
clock reaches. -/
theorem ofSecret_check_mint
    {secret : List UInt8}
    {window : Seconds}
    (sized : secret.length ∈ Cipher.secretSizes)
    (bounded : window < Int64.maxValue) :
    ∃ engine : Engine,
      ofSecret secret window = .ok engine ∧
      engine.schedule = .ofKey secret ∧
      engine.window = window ∧
      ∀ session issued (source : Entropy),
        12 ≤ source.ready →
        (Payload.encode ⟨session, issued⟩).length ≤ Cipher.Envelope.payloadLimit →
        ∃ token,
          engine.mint session issued source = (.ok token, source.drop 12) ∧
          ∀ now table clock,
            -60 ≤ now.toInt - issued.toInt →
            now.toInt - issued.toInt ≤ window.toInt →
            table.isLive (Store.spentKey token) clock = false →
            clock / 1000 + engine.claimLifetime issued now ≤ Store.lastSecond →
            (engine.check session token now ⟨.sound, table, clock⟩).1 = .ok true := by
  obtain ⟨engine, made, schedule, rfl⟩ : ∃ engine : Engine,
      ofSecret secret window = .ok engine ∧
      engine.schedule = .ofKey secret ∧
      engine.window = window :=
    ⟨_, ofSecret_of_size sized window, rfl, rfl⟩
  refine ⟨engine, made, schedule, rfl, ?_⟩
  intro session issued source enough short
  have minted := engine.mint_of_ready short enough
  refine ⟨_, minted, ?_⟩
  intro now table clock notEarly notLate free within
  exact check_of_mint bounded (congrArg Prod.fst minted) ⟨notEarly, notLate⟩ rfl free within

/-- A token for a session whose name has a quote, a backslash, a line break and letters outside of
ASCII, stamped with the first second that there is, is accepted by an empty store. -/
theorem ofSecret_check_mint_quoted :
    (List.replicate 32 0 : List UInt8).length ∈ Cipher.secretSizes ∧
    (3600 : Seconds) < Int64.maxValue ∧
    ∃ engine : Engine,
      ofSecret (List.replicate 32 0) 3600 = .ok engine ∧
      ∃ token,
        engine.mint "a\"b\\c\nü漢" Int64.minValue (.ofList (List.replicate 12 7)) =
          (.ok token, Entropy.drop 12 (.ofList (List.replicate 12 7))) ∧
        (engine.check "a\"b\\c\nü漢" token (Int64.minValue + 3600) ⟨.sound, .empty, 0⟩).1 =
          .ok true := by
  have sized : (List.replicate 32 0 : List UInt8).length ∈ Cipher.secretSizes := by decide
  have bounded : (3600 : Seconds) < Int64.maxValue := by decide
  obtain ⟨engine, made, _, window, mints⟩ := ofSecret_check_mint sized bounded
  obtain ⟨token, minted, checks⟩ :=
    mints "a\"b\\c\nü漢" Int64.minValue (.ofList (List.replicate 12 7)) (by decide)
      (by decide +kernel)
  refine ⟨sized, bounded, engine, made, token, minted, ?_⟩
  have lifetime : engine.claimLifetime Int64.minValue (Int64.minValue + 3600) = 1 := by
    rw [claimLifetime, window]
    decide
  refine checks _ .empty 0 (by decide) (by decide) rfl ?_
  rw [lifetime]
  decide

end Engine
end Token
end AntiForgery
