import AntiForgery.Proofs.Token.Window

/-!
# What is known of a token before the store is asked

A token opens to a payload if it was sealed under the secret of the engine.  Its time of issue and its
session then decide whether it may be claimed; the first condition that fails decides the answer.
-/

namespace AntiForgery
namespace Token
namespace Engine

/-- The token is the Base64 text of a nonce and a text sealed under it, and the text spells the
payload. -/
def Opens (engine : Engine) (token : String) (payload : Payload) : Prop :=
  ∃ nonce text : List UInt8,
    nonce.length = Cipher.Gcm.nonceSize ∧
    text.length ≤ Cipher.Envelope.encryptedLimit ∧
    Text.utf8 token = Base64.encode (nonce ++ Cipher.Gcm.encrypt engine.schedule nonce text) ∧
    Payload.decode? text = some payload

/-- All that a token has to fulfil before the store is asked. -/
structure Admits
    (engine : Engine)
    (session token : String)
    (now : Seconds)
    (payload : Payload) : Prop where
  opens : engine.Opens token payload
  timely : engine.Timely payload.issued now
  own : Text.utf8 payload.session = Text.utf8 session

/-- The answers that are given before the store is asked, each with the first condition that
fails. -/
inductive Rejects
    (engine : Engine)
    (session token : String)
    (now : Seconds) : Except Error Bool → Prop
  | unopened
      (none : ∀ payload, ¬ engine.Opens token payload) :
      Rejects engine session token now (.error .malformed)
  | early
      (payload : Payload)
      (opens : engine.Opens token payload)
      (early : now.toInt - payload.issued.toInt < -60) :
      Rejects engine session token now (.error .malformed)
  | late
      (payload : Payload)
      (opens : engine.Opens token payload)
      (notEarly : -60 ≤ now.toInt - payload.issued.toInt)
      (late : engine.window.toInt < now.toInt - payload.issued.toInt) :
      Rejects engine session token now (.error .expired)
  | foreign
      (payload : Payload)
      (opens : engine.Opens token payload)
      (timely : engine.Timely payload.issued now)
      (foreign : Text.utf8 payload.session ≠ Text.utf8 session) :
      Rejects engine session token now (.ok false)

/-! ## Reading a token -/

theorem read_eq_ok_iff
    {engine : Engine}
    {token : String}
    {payload : Payload} :
    engine.read token = .ok payload ↔ engine.Opens token payload := by
  constructor
  · intro read
    simp only [Engine.read] at read
    cases decoded : Base64.decode? (Text.utf8 token) with
    | none => simp [decoded] at read
    | some envelope =>
        simp only [decoded, disclose] at read
        cases opened : Cipher.Envelope.unseal? engine.schedule envelope with
        | none => simp [opened, bind, Except.bind] at read
        | some text =>
            simp only [opened, bind, Except.bind] at read
            cases spelt : Payload.decode? text with
            | none => simp [spelt] at read
            | some found =>
                simp only [spelt, Except.ok.injEq] at read
                subst read
                obtain ⟨nonce, size, short, rfl⟩ :=
                  Cipher.Envelope.unseal?_eq_some_iff.mp opened
                exact ⟨nonce, text, size, short, Base64.decode?_eq_some_iff.mp decoded, spelt⟩
  · rintro ⟨nonce, text, size, short, written, spelt⟩
    have decoded := Base64.decode?_eq_some_iff.mpr written
    have opened := Cipher.Envelope.unseal?_join engine.schedule size short
    simp only [Cipher.Envelope.join] at opened
    simp only [Engine.read, decoded, disclose, opened, bind, Except.bind, spelt]

/-- A token that cannot be read is malformed, whatever is wrong with it. -/
theorem read_error
    {engine : Engine}
    {token : String}
    {error : Error}
    (failed : engine.read token = .error error) :
    error = .malformed := by
  simp only [Engine.read, disclose, bind, Except.bind] at failed
  grind

/-- What is sealed and written as the engine does it opens to the payload that it spells. -/
theorem opens_join
    (engine : Engine)
    {nonce text : List UInt8}
    (size : nonce.length = Cipher.Gcm.nonceSize)
    (short : text.length ≤ Cipher.Envelope.encryptedLimit)
    {payload : Payload}
    (spelt : Payload.decode? text = some payload) :
    engine.Opens
      (Text.ofAscii (Base64.encode (Cipher.Envelope.join engine.schedule nonce text))) payload :=
  ⟨nonce, text, size, short, Text.utf8_ofAscii Base64.encode_lt, spelt⟩

/-- For every payload that can be spelt there is a token. -/
theorem exists_opens
    (engine : Engine)
    {text : List UInt8}
    (short : text.length ≤ Cipher.Envelope.encryptedLimit)
    {payload : Payload}
    (spelt : Payload.decode? text = some payload) :
    ∃ token, engine.Opens token payload := by
  have size : (List.replicate Cipher.Gcm.nonceSize (0 : UInt8)).length = Cipher.Gcm.nonceSize :=
    List.length_replicate
  exact ⟨_, engine.opens_join size short spelt⟩

/-- A token opens to one payload. -/
theorem Opens.unique
    {engine : Engine}
    {token : String}
    {first second : Payload}
    (opensFirst : engine.Opens token first)
    (opensSecond : engine.Opens token second) :
    first = second := by
  rw [← read_eq_ok_iff] at opensFirst opensSecond
  exact Except.ok.inj (opensFirst.symm.trans opensSecond)

/-! ## Judging a token -/

/-- A token that opens is judged by its time, and then by its session. -/
theorem judge_of_opens
    {engine : Engine}
    {token : String}
    {payload : Payload}
    (opens : engine.Opens token payload)
    (session : String)
    (now : Seconds) :
    engine.judge session token now =
      match engine.judgeTime payload.issued now with
      | .error error => .error error
      | .ok () =>
          if payload.session = session then
            .ok (.claim (engine.claimLifetime payload.issued now))
          else .ok .foreign := by
  have read := read_eq_ok_iff.mpr opens
  simp only [judge, read, bind, Except.bind]
  cases engine.judgeTime payload.issued now with
  | error error => rfl
  | ok _ => rfl

theorem judge_eq_claim_iff
    {engine : Engine}
    (bounded : engine.window < Int64.maxValue)
    {session token : String}
    {now : Seconds}
    {lifetime : Nat} :
    engine.judge session token now = .ok (.claim lifetime) ↔
      ∃ payload, engine.Admits session token now payload ∧
        lifetime = engine.claimLifetime payload.issued now := by
  constructor
  · intro judged
    cases read : engine.read token with
    | error error => simp [judge, read, bind, Except.bind] at judged
    | ok payload =>
        have opens := read_eq_ok_iff.mp read
        rw [judge_of_opens opens] at judged
        cases passed : engine.judgeTime payload.issued now with
        | error error => simp [passed] at judged
        | ok _ =>
            simp only [passed] at judged
            split at judged
            · next own =>
                simp only [Except.ok.injEq, Verdict.claim.injEq] at judged
                have timely := (judgeTime_eq_ok_iff bounded).mp passed
                exact ⟨payload, ⟨opens, timely, by rw [own]⟩, judged.symm⟩
            · simp at judged
  · rintro ⟨payload, ⟨opens, timely, own⟩, rfl⟩
    rw [judge_of_opens opens, (judgeTime_eq_ok_iff bounded).mpr timely]
    simp only [if_pos (Text.utf8_inj.mp own)]

/-- A token that has to be claimed has a payload, whose time of issue says for how long. -/
theorem exists_opens_of_judge
    {engine : Engine}
    {session token : String}
    {now : Seconds}
    {lifetime : Nat}
    (judged : engine.judge session token now = .ok (.claim lifetime)) :
    ∃ payload, engine.Opens token payload ∧ lifetime = engine.claimLifetime payload.issued now := by
  cases read : engine.read token with
  | error error => simp [judge, read, bind, Except.bind] at judged
  | ok payload =>
      have opens := read_eq_ok_iff.mp read
      refine ⟨payload, opens, ?_⟩
      rw [judge_of_opens opens] at judged
      split at judged
      · cases judged
      · split at judged
        · cases judged
          rfl
        · cases judged

/-- A token that has to be claimed belongs to the session. -/
theorem session_eq_of_judge
    {engine : Engine}
    {session token : String}
    {now : Seconds}
    {lifetime : Nat}
    (judged : engine.judge session token now = .ok (.claim lifetime))
    {payload : Payload}
    (opens : engine.Opens token payload) :
    payload.session = session := by
  rw [judge_of_opens opens] at judged
  split at judged
  · cases judged
  · split at judged
    · next own => exact own
    · cases judged

/-- Whatever is left of its window, a token is remembered for a second at least. -/
theorem one_le_of_judge
    {engine : Engine}
    {session token : String}
    {now : Seconds}
    {lifetime : Nat}
    (judged : engine.judge session token now = .ok (.claim lifetime)) :
    1 ≤ lifetime := by
  obtain ⟨payload, _, rfl⟩ := exists_opens_of_judge judged
  exact Nat.le_max_left _ _

/-- A token either fails before the store is asked or is one that the store is asked about. -/
theorem rejects_or_admits
    (engine : Engine)
    (session token : String)
    (now : Seconds) :
    (∃ answer, engine.Rejects session token now answer) ∨
      ∃ payload, engine.Admits session token now payload := by
  by_cases opened : ∃ payload, engine.Opens token payload
  · obtain ⟨payload, opens⟩ := opened
    by_cases notEarly : -60 ≤ now.toInt - payload.issued.toInt
    · by_cases notLate : now.toInt - payload.issued.toInt ≤ engine.window.toInt
      · by_cases own : Text.utf8 payload.session = Text.utf8 session
        · exact .inr ⟨payload, opens, ⟨notEarly, notLate⟩, own⟩
        · exact .inl ⟨_, .foreign payload opens ⟨notEarly, notLate⟩ own⟩
      · exact .inl ⟨_, .late payload opens notEarly (by omega)⟩
    · exact .inl ⟨_, .early payload opens (by omega)⟩
  · exact .inl ⟨_, .unopened (by simpa using opened)⟩

end Engine
end Token
end AntiForgery
