import AntiForgery.Proofs.Token.Acceptance
import Mathlib.Data.List.Basic
import Mathlib.Data.List.Pairwise
import Mathlib.Logic.Function.Basic
import Mathlib.Logic.Relation

/-!
# Checks that run at the same time

A race is any number of checks that take their two steps in any order, among calls under other keys
and movements of the clock.  Every claim that succeeds keeps the record live until its end, so a
second claim of the same token can succeed only after that end.
-/

namespace AntiForgery
namespace Token

/-- A claim that was made: by whom, for how long, at which reading, and with what answer. -/
structure Claim (Caller : Type) where
  caller : Caller
  lifetime : Nat
  reading : Nat
  answer : Except Error Bool

/-- Checks on their way: the store, how far each of them has come, and the claims so far in order. -/
structure Race (Caller : Type) where
  store : Store
  stage : Caller → Stage
  claims : List (Claim Caller)

namespace Race

variable {Caller : Type} [DecidableEq Caller]
variable {engine : Engine} {attempts : Caller → Attempt} {token : String}

/-- Nobody has started. -/
def start (store : Store) : Race Caller := ⟨store, fun _ => .begun, []⟩

/-- A check takes its first step. -/
def lookUp
    (engine : Engine)
    (attempts : Caller → Attempt)
    (caller : Caller)
    (race : Race Caller) : Race Caller :=
  { race with
    stage := Function.update race.stage caller ((attempts caller).lookUp engine race.store) }

@[simp] theorem lookUp_stage_self (caller : Caller) (race : Race Caller) :
    (race.lookUp engine attempts caller).stage caller =
      (attempts caller).lookUp engine race.store :=
  Function.update_self ..

/-- The look of a caller moves nobody else. -/
theorem lookUp_stage_of_ne {caller other : Caller} (different : other ≠ caller)
    (race : Race Caller) :
    (race.lookUp engine attempts caller).stage other = race.stage other :=
  Function.update_of_ne different ..

/-- A check takes its second step. -/
def claim
    (attempts : Caller → Attempt)
    (caller : Caller)
    (lifetime : Nat)
    (race : Race Caller) : Race Caller :=
  let result := (attempts caller).claim lifetime race.store
  { store := result.2
    stage := Function.update race.stage caller (.done result.1 race.store.clock)
    claims := race.claims ++ [⟨caller, lifetime, race.store.clock, result.1⟩] }

@[simp] theorem claim_stage_self (caller : Caller) (lifetime : Nat) (race : Race Caller) :
    (race.claim attempts caller lifetime).stage caller =
      .done ((attempts caller).claim lifetime race.store).1 race.store.clock :=
  Function.update_self ..

theorem claim_stage_of_ne {caller other : Caller} (different : other ≠ caller)
    (lifetime : Nat) (race : Race Caller) :
    (race.claim attempts caller lifetime).stage other = race.stage other :=
  Function.update_of_ne different ..

/-- A claim is added behind the ones that were made before it. -/
@[simp] theorem claim_claims (caller : Caller) (lifetime : Nat) (race : Race Caller) :
    (race.claim attempts caller lifetime).claims =
      race.claims ++ [⟨caller, lifetime, race.store.clock,
        ((attempts caller).claim lifetime race.store).1⟩] := rfl

@[simp] theorem claim_store (caller : Caller) (lifetime : Nat) (race : Race Caller) :
    (race.claim attempts caller lifetime).store =
      ((attempts caller).claim lifetime race.store).2 := rfl

/-- What may happen next, when nothing but the checks reaches the record of the token. -/
inductive Step (engine : Engine) (attempts : Caller → Attempt) (token : String) :
    Race Caller → Race Caller → Prop
  | lookUp (race : Race Caller) (caller : Caller)
      (begun : race.stage caller = .begun) :
      Step engine attempts token race (race.lookUp engine attempts caller)
  | claim (race : Race Caller) (caller : Caller) (lifetime : Nat)
      (cleared : race.stage caller = .cleared lifetime) :
      Step engine attempts token race (race.claim attempts caller lifetime)
  | outside (race : Race Caller) {α : Type} (call : Store.Call α)
      (elsewhere : call.key ≠ Store.spentKey token) :
      Step engine attempts token race { race with store := (race.store.perform call).2 }
  | pass (race : Race Caller) (milliseconds : Nat) :
      Step engine attempts token race
        { race with store := race.store.advance milliseconds }

/-- The race that is reached by any number of steps. -/
abbrev Run (engine : Engine) (attempts : Caller → Attempt) (token : String) :
    Race Caller → Race Caller → Prop :=
  Relation.ReflTransGen (Step engine attempts token)

theorem Step.sound
    {before after : Race Caller}
    (step : Step engine attempts token before after)
    (sound : before.store.condition = .sound) :
    after.store.condition = .sound := by
  cases step with
  | lookUp => exact sound
  | claim caller lifetime cleared =>
      rw [claim_store]
      rcases Attempt.claim_cases (attempts caller) lifetime before.store with
        ⟨_, kept⟩ | ⟨deadline, _, _, claimed⟩
      · rw [kept]
        exact sound
      · rw [claimed]
        exact sound
  | outside call elsewhere =>
      rw [Store.perform_condition]
      exact sound
  | pass milliseconds => exact sound

theorem Run.sound
    {before after : Race Caller}
    (run : Run engine attempts token before after)
    (sound : before.store.condition = .sound) :
    after.store.condition = .sound := by
  induction run with
  | refl => exact sound
  | tail _ step ih => exact step.sound ih

/-! ## Claims that succeed exclude each other -/

/-- If both claims are of the token and succeeded, the later one came after the end of the other. -/
def Spaced
    (attempts : Caller → Attempt)
    (token : String)
    (earlier later : Claim Caller) : Prop :=
  (attempts earlier.caller).token = token → (attempts later.caller).token = token →
    earlier.answer = .ok true → later.answer = .ok true →
    earlier.reading + 1000 * earlier.lifetime ≤ later.reading

/-- What holds in every race: a check that is about to claim was judged good, one that was accepted
has made a claim, and the claims of the token that succeeded guard its record and lie apart. -/
structure Exclusive
    (engine : Engine)
    (attempts : Caller → Attempt)
    (token : String)
    (race : Race Caller) : Prop where
  judged : ∀ caller lifetime, race.stage caller = .cleared lifetime →
    (attempts caller).judge engine = .ok (.claim lifetime)
  claimed : ∀ caller reading, race.stage caller = .done (.ok true) reading →
    ∃ claim ∈ race.claims, claim.caller = caller ∧ claim.reading = reading ∧
      claim.answer = .ok true ∧
      (attempts caller).judge engine = .ok (.claim claim.lifetime)
  guarded : ∀ claim ∈ race.claims, (attempts claim.caller).token = token →
    claim.answer = .ok true →
    race.store.Guards (Store.spentKey token) (claim.reading + 1000 * claim.lifetime)
  spaced : race.claims.Pairwise (Spaced attempts token)

omit [DecidableEq Caller] in
theorem exclusive_start (store : Store) :
    Exclusive engine attempts token (start store) where
  judged _ _ cleared := by simp [start] at cleared
  claimed _ _ accepted := by simp [start] at accepted
  guarded _ member := by simp [start] at member
  spaced := List.Pairwise.nil

omit [DecidableEq Caller] in
/-- A step that makes no claim and leaves the record of the token alone keeps what holds. -/
theorem Exclusive.of_keeps
    {before after : Race Caller}
    (exclusive : Exclusive engine attempts token before)
    (keeps : Store.Keeps (Store.spentKey token) before.store after.store)
    (stage : after.stage = before.stage)
    (claims : after.claims = before.claims) :
    Exclusive engine attempts token after where
  judged := by rw [stage]; exact exclusive.judged
  claimed := by rw [stage, claims]; exact exclusive.claimed
  guarded := by
    rw [claims]
    intro claim member own accepted
    exact (exclusive.guarded claim member own accepted).keeps keeps
  spaced := by rw [claims]; exact exclusive.spaced

/-- A look keeps the race exclusive: it clears a caller only while the key is free. -/
theorem Exclusive.lookUp
    {race : Race Caller}
    (exclusive : Exclusive engine attempts token race)
    (caller : Caller) :
    Exclusive engine attempts token (race.lookUp engine attempts caller) where
  judged other lifetime cleared := by
    by_cases same : other = caller
    · subst same
      rw [lookUp_stage_self] at cleared
      exact Attempt.judge_of_lookUp_eq_cleared cleared
    · rw [lookUp_stage_of_ne same] at cleared
      exact exclusive.judged other lifetime cleared
  claimed other reading accepted := by
    by_cases same : other = caller
    · subst same
      rw [lookUp_stage_self] at accepted
      exact absurd accepted (Attempt.lookUp_ne_accepted engine _ _ reading)
    · rw [lookUp_stage_of_ne same] at accepted
      exact exclusive.claimed other reading accepted
  guarded := exclusive.guarded
  spaced := exclusive.spaced

/-- A claim that succeeds finds every earlier deadline passed, and sets its own. -/
theorem Exclusive.guarded_claim
    {race : Race Caller}
    (exclusive : Exclusive engine attempts token race)
    (caller : Caller)
    (lifetime : Nat) :
    ∀ claim ∈ (race.claim attempts caller lifetime).claims,
      (attempts claim.caller).token = token → claim.answer = .ok true →
      (race.claim attempts caller lifetime).store.Guards (Store.spentKey token)
        (claim.reading + 1000 * claim.lifetime) := by
  intro claim member own accepted
  rw [claim_claims, List.mem_append, List.mem_singleton] at member
  rw [claim_store]
  rcases member with old | rfl
  · exact guards_claim (exclusive.guarded claim old own accepted) (attempts caller) lifetime
  · rcases Attempt.claim_cases (attempts caller) lifetime race.store with
      ⟨refused, _⟩ | ⟨deadline, range, _, won⟩
    · exact absurd accepted refused
    · simp only at own
      rw [won, own, ← (Store.deadline?_eq_some_iff.mp range).2]
      exact Store.guards_write _ _ _

/-- A claim keeps the race exclusive: whoever wins it guards the key from then on. -/
theorem Exclusive.claim
    {race : Race Caller}
    (exclusive : Exclusive engine attempts token race)
    (caller : Caller)
    (lifetime : Nat)
    (cleared : race.stage caller = .cleared lifetime) :
    Exclusive engine attempts token (race.claim attempts caller lifetime) where
  judged other length waiting := by
    by_cases same : other = caller
    · subst same
      rw [claim_stage_self] at waiting
      cases waiting
    · rw [claim_stage_of_ne same] at waiting
      exact exclusive.judged other length waiting
  claimed other reading accepted := by
    rw [claim_claims]
    by_cases same : other = caller
    · subst same
      rw [claim_stage_self, Stage.done.injEq] at accepted
      exact ⟨_, List.mem_append_right _ (List.mem_singleton_self _), rfl, accepted.2,
        accepted.1, exclusive.judged other lifetime cleared⟩
    · rw [claim_stage_of_ne same] at accepted
      obtain ⟨claim, member, facts⟩ := exclusive.claimed other reading accepted
      exact ⟨claim, List.mem_append_left _ member, facts⟩
  guarded := exclusive.guarded_claim caller lifetime
  spaced := by
    rw [claim_claims]
    refine List.pairwise_append.mpr ⟨exclusive.spaced, List.pairwise_singleton _ _, ?_⟩
    intro earlier old later new
    rw [List.mem_singleton.mp new]
    intro ownEarlier ownLater acceptedEarlier acceptedLater
    rcases Attempt.claim_cases (attempts caller) lifetime race.store with
      ⟨refused, _⟩ | ⟨deadline, _, free, _⟩
    · exact absurd acceptedLater refused
    · simp only at ownLater
      rw [ownLater] at free
      exact (exclusive.guarded earlier old ownEarlier acceptedEarlier).le_clock free

/-- Every step keeps the race exclusive. -/
theorem Exclusive.step
    {before after : Race Caller}
    (exclusive : Exclusive engine attempts token before)
    (step : Step engine attempts token before after) :
    Exclusive engine attempts token after := by
  cases step with
  | lookUp caller begun => exact exclusive.lookUp caller
  | claim caller lifetime cleared => exact exclusive.claim caller lifetime cleared
  | outside call elsewhere =>
      exact exclusive.of_keeps (.perform elsewhere.symm before.store) rfl rfl
  | pass milliseconds =>
      exact exclusive.of_keeps (.advance _ before.store milliseconds) rfl rfl

theorem Run.exclusive
    {store : Store}
    {race : Race Caller}
    (run : Run engine attempts token (start store) race) :
    Exclusive engine attempts token race := by
  induction run with
  | refl => exact exclusive_start store
  | tail _ step ih => exact ih.step step

omit [DecidableEq Caller] in
/-- Two checks of the token that are both accepted are a lifetime apart. -/
theorem Exclusive.apart
    {race : Race Caller}
    (exclusive : Exclusive engine attempts token race)
    {first second : Caller}
    (different : first ≠ second)
    (ownFirst : (attempts first).token = token)
    (ownSecond : (attempts second).token = token)
    {firstReading secondReading : Nat}
    (acceptedFirst : race.stage first = .done (.ok true) firstReading)
    (acceptedSecond : race.stage second = .done (.ok true) secondReading)
    (order : firstReading ≤ secondReading) :
    ∃ lifetime, (attempts first).judge engine = .ok (.claim lifetime) ∧
      firstReading + 1000 * lifetime ≤ secondReading := by
  obtain ⟨claim, member, rfl, rfl, won, judged⟩ := exclusive.claimed first _ acceptedFirst
  obtain ⟨later, memberLater, rfl, rfl, wonLater, judgedLater⟩ :=
    exclusive.claimed second _ acceptedSecond
  refine ⟨claim.lifetime, judged, ?_⟩
  have distinct : claim ≠ later := fun same => different (by rw [same])
  have symmetric : Std.Symm fun one other : Claim Caller =>
      Spaced attempts token one other ∨ Spaced attempts token other one :=
    ⟨fun _ _ => Or.symm⟩
  have either : race.claims.Pairwise fun one other =>
      Spaced attempts token one other ∨ Spaced attempts token other one :=
    exclusive.spaced.imp Or.inl
  rcases either.forall member memberLater distinct with spaced | spaced
  · exact spaced ownFirst ownSecond won wonLater
  · -- The other order would end a lifetime of a second or more before it began.
    have after := spaced ownSecond ownFirst wonLater won
    have positive := Engine.one_le_of_judge judgedLater
    omega

end Race
end Token
end AntiForgery
