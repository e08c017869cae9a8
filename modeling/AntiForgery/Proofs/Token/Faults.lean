import AntiForgery.Proofs.Token.Desk
import AntiForgery.Proofs.Token.Minting

/-!
# What can go wrong with a token

A check fails for the store's sake or because the token is no good, and for no other reason: the cipher
never fails where a token is opened.  A minting fails when too few random bytes are ready for a nonce,
or when the payload is too long for one.
-/

namespace AntiForgery

namespace Token

/-! ## Checks -/

/-- The calls that a check makes to the store: a token that is good by itself has its record looked up,
and if there is none, the token is claimed. -/
inductive Attempt.Asks (engine : Engine) (attempt : Attempt) (store : Store) :
    {α : Type} → Store.Call α → Prop
  | lookUp
      (lifetime : Nat)
      (judged : attempt.judge engine = .ok (.claim lifetime)) :
      Asks engine attempt store (.lookUp (Store.spentKey attempt.token))
  | claim
      (lifetime : Nat)
      (judged : attempt.judge engine = .ok (.claim lifetime))
      (free : (store.perform (.lookUp (Store.spentKey attempt.token))).1 = .ok .absent) :
      Asks engine attempt store (.claim (Store.spentKey attempt.token) lifetime)

/-- A call fails that a check makes. -/
def Attempt.Fails
    (engine : Engine)
    (attempt : Attempt)
    (store : Store)
    (failure : Store.Failure) : Prop :=
  ∃ (α : Type) (call : Store.Call α),
    attempt.Asks engine store call ∧ (store.perform call).1 = .error failure

namespace Engine

/-- What is wrong with a token by itself. -/
theorem error_of_judge
    {engine : Engine}
    {session token : String}
    {now : Seconds}
    {error : Error}
    (judged : engine.judge session token now = .error error) :
    error = .malformed ∨ error = .expired := by
  cases read : engine.read token with
  | error fault =>
      obtain rfl := read_error read
      simp only [judge, read, bind, Except.bind, Except.error.injEq] at judged
      exact .inl judged.symm
  | ok payload =>
      rw [judge_of_opens (read_eq_ok_iff.mp read), judgeTime] at judged
      split at judged
      · next failed =>
          split at failed
          · cases failed
            cases judged
            exact .inl rfl
          · split at failed
            · cases failed
              cases judged
              exact .inr rfl
            · cases failed
      · split at judged <;> cases judged

end Engine

namespace Attempt

variable {engine : Engine} {attempt : Attempt} {store : Store}

theorem absent_of_lookUp_eq_cleared
    {lifetime : Nat}
    (cleared : attempt.lookUp engine store = .cleared lifetime) :
    (store.perform (.lookUp (Store.spentKey attempt.token))).1 = .ok .absent := by
  simp only [lookUp] at cleared
  grind

/-- The first step of a check finds the token to be no good, or the store fails. -/
theorem error_of_lookUp
    {error : Error}
    {reading : Nat}
    (failed : attempt.lookUp engine store = .done (.error error) reading) :
    error = .malformed ∨ error = .expired ∨
      ∃ failure, error = .store failure ∧ attempt.Fails engine store failure := by
  rw [lookUp] at failed
  cases judged : attempt.judge engine with
  | error fault =>
      rw [judged] at failed
      cases failed
      exact (Engine.error_of_judge judged).imp_right .inl
  | ok verdict =>
      rw [judged] at failed
      cases verdict with
      | foreign => cases failed
      | claim lifetime =>
          dsimp only at failed
          split at failed
          · next failure found =>
              cases failed
              exact .inr (.inr ⟨failure, rfl, _, _, .lookUp lifetime judged, found⟩)
          · cases failed
          · cases failed

/-- The second step fails only when the store does. -/
theorem error_of_claim
    {lifetime : Nat}
    (cleared : attempt.lookUp engine store = .cleared lifetime)
    {error : Error}
    (failed : (attempt.claim lifetime store).1 = .error error) :
    ∃ failure, error = .store failure ∧ attempt.Fails engine store failure := by
  have asks : attempt.Asks engine store (.claim (Store.spentKey attempt.token) lifetime) :=
    .claim lifetime (judge_of_lookUp_eq_cleared cleared) (absent_of_lookUp_eq_cleared cleared)
  rw [claim] at failed
  split at failed
  · next failure _ claimed =>
      cases failed
      exact ⟨failure, rfl, _, _, asks, congrArg Prod.fst claimed⟩
  · cases failed

/-- A check answers, or the token is no good, or the store fails. -/
theorem error_of_check
    {error : Error}
    (failed : (attempt.check engine store).1 = .error error) :
    error = .malformed ∨ error = .expired ∨
      ∃ failure, error = .store failure ∧ attempt.Fails engine store failure := by
  rcases attempt.check_eq_lookUp_claim engine store with
    ⟨answer, looked, checked⟩ | ⟨lifetime, cleared, checked⟩
  · rw [checked] at failed
    dsimp only at failed
    subst failed
    exact error_of_lookUp looked
  · rw [checked] at failed
    exact .inr (.inr (error_of_claim cleared failed))

/-- A check reports the failure of the store. -/
theorem check_of_fails
    {failure : Store.Failure}
    (fails : attempt.Fails engine store failure) :
    (attempt.check engine store).1 = .error (.store failure) := by
  obtain ⟨_, _, asks, failed⟩ := fails
  cases asks with
  | lookUp lifetime judged =>
      have looked : attempt.lookUp engine store =
          .done (.error (.store failure)) store.clock := by
        simp only [lookUp, judged, failed]
      rcases attempt.check_eq_lookUp_claim engine store with
        ⟨_, other, checked⟩ | ⟨_, other, _⟩
      · rw [looked] at other
        cases other
        rw [checked]
      · rw [looked] at other
        cases other
  | claim lifetime judged free =>
      have cleared : attempt.lookUp engine store = .cleared lifetime := by
        simp only [lookUp, judged, free]
      rcases attempt.check_eq_lookUp_claim engine store with
        ⟨_, other, _⟩ | ⟨_, other, checked⟩
      · rw [cleared] at other
        cases other
      · rw [cleared] at other
        cases other
        rw [checked, claim]
        generalize store.perform (.claim (Store.spentKey attempt.token) lifetime) = claimed at failed
        obtain ⟨answer, after⟩ := claimed
        subst failed
        rfl

/-- The record of a spent token lasts for a second at least, and for no longer than the window and the
tolerance for clocks together if that is more. -/
theorem Asks.lifetime_bounds
    (short : engine.window.toInt ≤ 2 ^ 62)
    {α : Type}
    {call : Store.Call α}
    (asks : attempt.Asks engine store call)
    {lifetime : Nat}
    (own : call.lifetime? = some lifetime) :
    1 ≤ lifetime ∧ (lifetime : Int) ≤ max 1 (engine.window.toInt + 60) := by
  cases asks with
  | lookUp => cases own
  | claim claimed judged free =>
      cases own
      refine ⟨Engine.one_le_of_judge judged, ?_⟩
      obtain ⟨payload, admits, rfl⟩ :=
        (Engine.judge_eq_claim_iff (Engine.bounded_of_short short)).mp judged
      have notEarly := admits.timely.notEarly
      rw [Engine.claimLifetime_eq short admits.timely, Engine.lastReading]
      omega

end Attempt

/-! ## Minting -/

/-- A payload that is not too long is sealed unless too few random bytes are ready for a nonce. -/
theorem Engine.mint_eq_error_iff
    {engine : Engine}
    {session : String}
    {issued : Seconds}
    (short : (Payload.encode ⟨session, issued⟩).length ≤ Cipher.Envelope.payloadLimit)
    {source : Entropy}
    {error : Error} :
    (engine.mint session issued source).1 = .error error ↔
      error = .sealFailed .noEntropy ∧ source.ready < 12 := by
  by_cases enough : 12 ≤ source.ready
  · obtain ⟨token, minted⟩ := engine.exists_mint short enough
    simp only [minted, reduceCtorEq, false_iff, not_and]
    omega
  · have starved : source.draw? Cipher.Gcm.nonceSize = none :=
      Entropy.draw?_eq_none_iff.mpr (Nat.lt_of_not_le enough)
    simp only [mint, enclose, starved, Except.error.injEq, Nat.lt_of_not_le enough, and_true]
    exact eq_comm

/-! ## The desk -/

/-- The desk refuses to judge a token only when the store fails. -/
theorem redeem_eq_error_iff
    {engine : Engine}
    {session token : String}
    {world : World}
    {refusal : Refusal} :
    (redeem engine session token world).1 = .error refusal ↔
      ∃ failure, refusal = .store failure ∧
        Attempt.Fails engine ⟨session, token, world.wall⟩ world.store failure := by
  have cases := @Attempt.error_of_check engine ⟨session, token, world.wall⟩ world.store
  have reports := @Attempt.check_of_fails engine ⟨session, token, world.wall⟩ world.store
  rw [Attempt.check] at cases reports
  rw [redeem, Action.bind_apply, Engine.checkNow_apply]
  dsimp only at cases reports ⊢
  generalize (engine.check session token world.wall world.store).1 = answer at cases reports ⊢
  constructor
  · intro refused
    cases answer with
    | ok valid => cases valid <;> cases refused
    | error error =>
        rcases cases rfl with rfl | rfl | ⟨failure, rfl, fails⟩
        · cases refused
        · cases refused
        · cases refused
          exact ⟨failure, rfl, fails⟩
  · rintro ⟨failure, rfl, fails⟩
    obtain rfl := reports fails
    rfl

/-- The desk judges a token unless the store fails. -/
theorem redeem_cases (engine : Engine) (session token : String) (world : World) :
    (∃ failure, Attempt.Fails engine ⟨session, token, world.wall⟩ world.store failure ∧
      (redeem engine session token world).1 = .error (.store failure)) ∨
    (∀ failure, ¬ Attempt.Fails engine ⟨session, token, world.wall⟩ world.store failure) ∧
      ∃ valid, (redeem engine session token world).1 = .ok valid := by
  have refuses := @redeem_eq_error_iff engine session token world
  cases answer : (redeem engine session token world).1 with
  | error refusal =>
      obtain ⟨failure, rfl, fails⟩ := refuses.mp answer
      exact .inl ⟨failure, fails, rfl⟩
  | ok valid =>
      refine .inr ⟨fun failure fails => ?_, valid, rfl⟩
      rw [refuses.mpr ⟨failure, rfl, fails⟩] at answer
      cases answer

/-- The desk issues a token for a payload that is not too long unless too few random bytes are ready. -/
theorem issue_cases
    (engine : Engine)
    {session : String}
    {issued : Seconds}
    (short : (Payload.encode ⟨session, issued⟩).length ≤ Cipher.Envelope.payloadLimit)
    (world : World) :
    (world.entropy.ready < 12 ∧
      ∃ report, (issue engine session issued world).1 = .error (.encryption report)) ∨
    12 ≤ world.entropy.ready ∧
      ∃ token, (engine.mint session issued world.entropy).1 = .ok token ∧
        (issue engine session issued world).1 = .ok token := by
  rw [issue_fst]
  by_cases enough : 12 ≤ world.entropy.ready
  · obtain ⟨token, minted⟩ := engine.exists_mint short enough
    exact .inr ⟨enough, token, minted, by rw [minted]; rfl⟩
  · have few := Nat.lt_of_not_le enough
    have starved : (engine.mint session issued world.entropy).1 = .error (.sealFailed .noEntropy) :=
      (Engine.mint_eq_error_iff short).mpr ⟨rfl, few⟩
    exact .inl ⟨few, _, by rw [starved]; rfl⟩

end Token
end AntiForgery
