import AntiForgery.Proofs.Store.Records
import AntiForgery.Token.Engine

/-!
# The two steps of a check

A check reaches the store twice: it looks the record of its token up, and then it claims the record.
Between the two steps anything may happen to the store, so each of them is a function of its own here.
-/

namespace AntiForgery
namespace Token

/-- A check that somebody asks for. -/
structure Attempt where
  session : String
  token : String
  now : Seconds

/-- How far a check has come: not started, about to claim for so many seconds, or answered at a
reading of the store's clock. -/
inductive Stage where
  | begun
  | cleared (lifetime : Nat)
  | done (answer : Except Error Bool) (reading : Nat)

namespace Attempt

/-- What the engine says of a check before the store is asked. -/
def judge (engine : Engine) (attempt : Attempt) : Except Error Verdict :=
  engine.judge attempt.session attempt.token attempt.now

/-- The check without an interruption. -/
def check (engine : Engine) (attempt : Attempt) (store : Store) : Except Error Bool × Store :=
  engine.check attempt.session attempt.token attempt.now store

/-- The first step of a check: the token is judged, and its record looked up. -/
def lookUp (engine : Engine) (attempt : Attempt) (store : Store) : Stage :=
  match attempt.judge engine with
  | .error error => .done (.error error) store.clock
  | .ok .foreign => .done (.ok false) store.clock
  | .ok (.claim lifetime) =>
      match (store.perform (.lookUp (Store.spentKey attempt.token))).1 with
      | .error failure => .done (.error (.store failure)) store.clock
      | .ok .present => .done (.ok false) store.clock
      | .ok .absent => .cleared lifetime

/-- The second step of a check: the record is claimed. -/
def claim (attempt : Attempt) (lifetime : Nat) (store : Store) : Except Error Bool × Store :=
  match store.perform (.claim (Store.spentKey attempt.token) lifetime) with
  | (.error failure, store) => (.error (.store failure), store)
  | (.ok claimed, store) => (.ok claimed, store)

/-- A check that is not interrupted takes the first step and, unless that answers, the second. -/
theorem check_eq_lookUp_claim (engine : Engine) (attempt : Attempt) (store : Store) :
    (∃ answer, attempt.lookUp engine store = .done answer store.clock ∧
      attempt.check engine store = (answer, store)) ∨
    ∃ lifetime, attempt.lookUp engine store = .cleared lifetime ∧
      attempt.check engine store = attempt.claim lifetime store := by
  simp only [check, Engine.check, lookUp, judge]
  cases engine.judge attempt.session attempt.token attempt.now with
  | error error => exact .inl ⟨_, rfl, rfl⟩
  | ok verdict =>
      cases verdict with
      | foreign => exact .inl ⟨_, rfl, rfl⟩
      | claim lifetime =>
          have same := Store.perform_lookUp_store store (Store.spentKey attempt.token)
          simp only [Engine.claim, Attempt.claim]
          generalize store.perform (.lookUp (Store.spentKey attempt.token)) = found at same
          obtain ⟨answer, left⟩ := found
          subst same
          cases answer with
          | error failure => exact .inl ⟨_, rfl, rfl⟩
          | ok presence =>
              cases presence with
              | present => exact .inl ⟨_, rfl, rfl⟩
              | absent => exact .inr ⟨lifetime, rfl, rfl⟩

/-- A token is cleared only if the engine would claim it. -/
theorem judge_of_lookUp_eq_cleared
    {engine : Engine}
    {attempt : Attempt}
    {store : Store}
    {lifetime : Nat}
    (cleared : attempt.lookUp engine store = .cleared lifetime) :
    attempt.judge engine = .ok (.claim lifetime) := by
  simp only [lookUp] at cleared
  grind

/-- Looking a record up accepts nothing. -/
theorem lookUp_ne_accepted
    (engine : Engine)
    (attempt : Attempt)
    (store : Store)
    (reading : Nat) :
    attempt.lookUp engine store ≠ .done (.ok true) reading := by
  simp only [lookUp]
  grind

/-- A sound store clears a token exactly if its key is free. -/
theorem lookUp_of_sound
    {engine : Engine}
    {attempt : Attempt}
    {lifetime : Nat}
    (judged : attempt.judge engine = .ok (.claim lifetime))
    {store : Store}
    (sound : store.condition = .sound) :
    attempt.lookUp engine store =
      if store.table.isLive (Store.spentKey attempt.token) store.clock then
        .done (.ok false) store.clock
      else .cleared lifetime := by
  simp only [lookUp, judged, Store.perform_lookUp_of_sound sound]
  cases store.table.isLive (Store.spentKey attempt.token) store.clock <;> rfl

/-- A sound store grants a claim exactly if the key is still free and there is a deadline. -/
theorem claim_of_sound
    (attempt : Attempt)
    (lifetime : Nat)
    {store : Store}
    (sound : store.condition = .sound) :
    attempt.claim lifetime store =
      if store.table.isLive (Store.spentKey attempt.token) store.clock then (.ok false, store)
      else
        match Store.deadline? store.clock lifetime with
        | none => (.error (.store (.lifetimeOutOfRange lifetime)), store)
        | some deadline =>
            (.ok true, store.write (Store.spentKey attempt.token) deadline) := by
  simp only [claim, Store.perform_claim_of_sound sound]
  cases store.table.isLive (Store.spentKey attempt.token) store.clock with
  | true => rfl
  | false =>
      simp only [Bool.false_eq_true, if_false]
      cases Store.deadline? store.clock lifetime <;> rfl

/-- A claim either succeeds, and then records a key that was free, or changes nothing. -/
theorem claim_cases (attempt : Attempt) (lifetime : Nat) (store : Store) :
    ((attempt.claim lifetime store).1 ≠ .ok true ∧ (attempt.claim lifetime store).2 = store) ∨
    ∃ deadline,
      Store.deadline? store.clock lifetime = some deadline ∧
      store.table.isLive (Store.spentKey attempt.token) store.clock = false ∧
      attempt.claim lifetime store =
        (.ok true, store.write (Store.spentKey attempt.token) deadline) := by
  simp only [claim]
  rcases Store.perform_claim_cases store (Store.spentKey attempt.token) lifetime with
    ⟨refused, kept⟩ | ⟨deadline, range, free, claimed⟩
  · left
    generalize store.perform (.claim (Store.spentKey attempt.token) lifetime) = result
      at refused kept
    obtain ⟨answer, after⟩ := result
    cases answer <;> simp_all
  · exact .inr ⟨deadline, range, free, by rw [claimed]⟩

/-- A claim leaves the records of all other tokens as they are. -/
theorem claim_keeps
    {attempt : Attempt}
    {token : String}
    (foreign : attempt.token ≠ token)
    (lifetime : Nat)
    (store : Store) :
    Store.Keeps (Store.spentKey token) store (attempt.claim lifetime store).2 := by
  rcases attempt.claim_cases lifetime store with ⟨_, kept⟩ | ⟨deadline, _, _, won⟩
  · rw [kept]
    exact .refl _ store
  · have different := (Store.spentKey_ne_spentKey foreign).symm
    rw [won]
    exact .write different deadline store

end Attempt

/-- A record stays guarded when a token is claimed: its own succeeds only after the deadline. -/
theorem guards_claim
    {token : String}
    {deadline : Nat}
    {store : Store}
    (guards : store.Guards (Store.spentKey token) deadline)
    (attempt : Attempt)
    (lifetime : Nat) :
    (attempt.claim lifetime store).2.Guards (Store.spentKey token) deadline := by
  by_cases own : attempt.token = token
  · rcases attempt.claim_cases lifetime store with ⟨_, kept⟩ | ⟨_, _, free, won⟩
    · rw [kept]
      exact guards
    · rw [own] at free
      rw [won]
      exact Store.guards_of_le _ (guards.le_clock free)
  · exact guards.keeps (Attempt.claim_keeps own lifetime store)

end Token
end AntiForgery
