import AntiForgery.Proofs.Session.Register
import AntiForgery.Proofs.Store.Likeness
import AntiForgery.Proofs.Token.Desk

/-!
# Actions that do not tell alike worlds apart

Worlds are alike if their stores are and everything else in them is the same.  An action that asks the
store about keys under which they are alike gives one answer in both and leaves them alike.  An action
that asks about other keys leaves a world as one alike.  Whatever the desk and the register do is of
the first kind for the one key that it is about, and of the second kind for all others.
-/

namespace AntiForgery

/-- The stores are alike under the keys, and the wall clock and the entropy are the same. -/
structure World.Alike (keys : String → Prop) (first second : World) : Prop where
  store : first.store.Alike keys second.store
  wall : first.wall = second.wall
  entropy : first.entropy = second.entropy

namespace World.Alike

variable {keys : String → Prop} {first second third : World}

theorem refl (keys : String → Prop) (world : World) : world.Alike keys world :=
  ⟨.refl keys world.store, rfl, rfl⟩

theorem symm (alike : first.Alike keys second) : second.Alike keys first :=
  ⟨alike.store.symm, alike.wall.symm, alike.entropy.symm⟩

theorem trans (alike : first.Alike keys second) (next : second.Alike keys third) :
    first.Alike keys third :=
  ⟨alike.store.trans next.store, alike.wall.trans next.wall, alike.entropy.trans next.entropy⟩

/-- Alike under some keys and under all others is alike under every key. -/
theorem of_split
    (inside : first.Alike keys second)
    (outside : first.Alike (fun key => ¬ keys key) second) :
    first.Alike (fun _ => True) second where
  store :=
    { condition := inside.store.condition
      clock := inside.store.clock
      same := by
        intro key _
        by_cases among : keys key
        · exact inside.store.same key among
        · exact outside.store.same key among }
  wall := inside.wall
  entropy := inside.entropy

end World.Alike

namespace Action

variable {keys : String → Prop}

/-- The action gives one answer in worlds that are alike under the keys, writes the same lines, and
leaves the worlds alike. -/
def Oblivious (keys : String → Prop) (action : Action α) : Prop :=
  ∀ first second : World, first.Alike keys second → first.journal = second.journal →
    (action first).1 = (action second).1 ∧
      (action first).2.Alike keys (action second).2 ∧
      (action first).2.journal = (action second).2.journal

theorem oblivious_pure (value : α) : (pure value : Action α).Oblivious keys :=
  fun _ _ alike lines => ⟨rfl, alike, lines⟩

/-- Oblivious actions one after the other are oblivious: the first leaves like worlds to the second. -/
theorem Oblivious.bind
    {action : Action α}
    {next : α → Action β}
    (oblivious : action.Oblivious keys)
    (obliviousNext : ∀ value, (next value).Oblivious keys) :
    Action.Oblivious keys (action >>= next) := by
  intro first second alike lines
  obtain ⟨same, alike, lines⟩ := oblivious first second alike lines
  rw [bind_apply, bind_apply, ← same]
  exact obliviousNext _ _ _ alike lines

theorem oblivious_log (level : Journal.Level) (message : String) :
    (log level message).Oblivious keys := by
  intro first second alike lines
  refine ⟨rfl, ⟨alike.store, alike.wall, alike.entropy⟩, ?_⟩
  rw [log, log, lines]

theorem oblivious_now : now.Oblivious keys :=
  fun _ _ alike lines => ⟨alike.wall, alike, lines⟩

/-- What is drawn depends on no key, since worlds that are alike have the same random bytes ahead. -/
theorem oblivious_onEntropy (step : Entropy → α × Entropy) : (onEntropy step).Oblivious keys := by
  intro first second alike lines
  simp only [onEntropy, ← alike.entropy]
  exact ⟨trivial, ⟨alike.store, alike.wall, rfl⟩, lines⟩

/-- A step on the store has to treat alike stores alike, at the reading of the wall clock. -/
theorem oblivious_onStore
    {step : Store → α × Store}
    (oblivious : ∀ first second : Store, first.Alike keys second →
      (step first).1 = (step second).1 ∧ (step first).2.Alike keys (step second).2) :
    (onStore step).Oblivious keys := by
  intro first second alike lines
  obtain ⟨same, stores⟩ := oblivious first.store second.store alike.store
  exact ⟨same, ⟨stores, alike.wall, alike.entropy⟩, lines⟩

/-- A call reads and writes under its own key only. -/
theorem oblivious_ask (call : Store.Call α) (inside : keys call.key) :
    (ask call).Oblivious keys :=
  oblivious_onStore fun _ _ alike => alike.perform call inside

theorem closed_oblivious : Closed (Oblivious keys) where
  pure := oblivious_pure
  bind := Oblivious.bind
  log := oblivious_log
  now := oblivious_now

/-- Whoever looks on cannot tell the worlds apart, even if other lines were written before. -/
theorem Oblivious.observe
    {action : Action α}
    (oblivious : action.Oblivious keys)
    {first second : World}
    (alike : first.Alike keys second) :
    (action.observe first).1 = (action.observe second).1 ∧
      (action.observe first).2.Alike keys (action.observe second).2 := by
  have fresh : ({ first with journal := [] } : World).Alike keys { second with journal := [] } :=
    ⟨alike.store, alike.wall, alike.entropy⟩
  obtain ⟨same, after, lines⟩ := oblivious _ _ fresh rfl
  exact ⟨Prod.ext same lines, after.store, after.wall, after.entropy⟩

/-- The action leaves the world as one that is alike under the keys. -/
def Spares (keys : String → Prop) (action : Action α) : Prop :=
  ∀ world : World, world.Alike keys (action world).2

theorem spares_pure (value : α) : (pure value : Action α).Spares keys :=
  fun world => .refl keys world

theorem Spares.bind
    {action : Action α}
    {next : α → Action β}
    (spares : action.Spares keys)
    (sparesNext : ∀ value, (next value).Spares keys) :
    Action.Spares keys (action >>= next) :=
  fun world => (spares world).trans (sparesNext _ _)

theorem spares_log (level : Journal.Level) (message : String) : (log level message).Spares keys :=
  fun world => ⟨.refl keys world.store, rfl, rfl⟩

theorem spares_now : now.Spares keys :=
  fun world => .refl keys world

theorem spares_onStore
    {step : Store → α × Store}
    (spares : ∀ store : Store, store.Alike keys (step store).2) :
    (onStore step).Spares keys :=
  fun world => ⟨spares world.store, rfl, rfl⟩

theorem spares_ask (call : Store.Call α) (outside : ¬ keys call.key) : (ask call).Spares keys :=
  spares_onStore fun store =>
    .of_keeps (Store.perform_condition store call).symm (Store.perform_clock store call).symm
      fun _ inside => .perform (fun same => outside (same ▸ inside)) store

theorem closed_spares : Closed (Spares keys) where
  pure := spares_pure
  bind := Spares.bind
  log := spares_log
  now := spares_now

theorem Spares.observe {action : Action α} (spares : action.Spares keys) (world : World) :
    world.Alike keys (action.observe world).2 := by
  obtain ⟨store, wall, entropy⟩ := spares { world with journal := [] }
  exact ⟨store, wall, entropy⟩

end Action

/-! ## The desk -/

namespace Token

variable {keys : String → Prop}

/-- A claim does not tell stores apart that are alike under its key. -/
theorem Engine.claim_of_alike
    {token : String}
    (inside : keys (Store.spentKey token))
    (lifetime : Nat)
    {first second : Store}
    (alike : first.Alike keys second) :
    (claim token lifetime first).1 = (claim token lifetime second).1 ∧
      (claim token lifetime first).2.Alike keys (claim token lifetime second).2 := by
  rw [claim, claim]
  obtain ⟨found, alike⟩ := alike.perform (.lookUp (Store.spentKey token)) inside
  generalize first.perform (.lookUp (Store.spentKey token)) = looked at found alike ⊢
  generalize second.perform (.lookUp (Store.spentKey token)) = otherLooked at found alike ⊢
  obtain ⟨answer, first⟩ := looked
  obtain ⟨_, second⟩ := otherLooked
  subst found
  cases answer with
  | error failure => exact ⟨rfl, alike⟩
  | ok presence =>
      cases presence with
      | present => exact ⟨rfl, alike⟩
      | absent =>
          obtain ⟨won, alike⟩ := alike.perform (.claim (Store.spentKey token) lifetime) inside
          dsimp only at won alike ⊢
          generalize first.perform (.claim (Store.spentKey token) lifetime) = claimed at won alike ⊢
          generalize second.perform (.claim (Store.spentKey token) lifetime) = otherClaimed
            at won alike ⊢
          obtain ⟨answer, first⟩ := claimed
          obtain ⟨_, second⟩ := otherClaimed
          subst won
          cases answer with
          | error failure => exact ⟨rfl, alike⟩
          | ok claimed => exact ⟨rfl, alike⟩

/-- A check does not tell alike stores apart, if they are alike under the key that it claims. -/
theorem Engine.check_of_alike
    {engine : Engine}
    {session token : String}
    {now : Seconds}
    (inside : ∀ lifetime, engine.judge session token now = .ok (.claim lifetime) →
      keys (Store.spentKey token))
    {first second : Store}
    (alike : first.Alike keys second) :
    (engine.check session token now first).1 = (engine.check session token now second).1 ∧
      (engine.check session token now first).2.Alike keys
        (engine.check session token now second).2 := by
  rw [check, check]
  cases judged : engine.judge session token now with
  | error error => exact ⟨rfl, alike⟩
  | ok verdict =>
      cases verdict with
      | foreign => exact ⟨rfl, alike⟩
      | claim lifetime => exact claim_of_alike (inside lifetime judged) lifetime alike

/-- A check leaves the store as one alike, unless it claims one of the keys. -/
theorem Engine.alike_check
    {engine : Engine}
    {session token : String}
    {now : Seconds}
    (outside : ∀ lifetime, engine.judge session token now = .ok (.claim lifetime) →
      ¬ keys (Store.spentKey token))
    (store : Store) :
    store.Alike keys (engine.check session token now store).2 := by
  refine .of_keeps (engine.check_condition session token now store).symm
    (engine.check_clock session token now store).symm fun key inside => ?_
  by_cases accepted : (engine.check session token now store).1 = .ok true
  · obtain ⟨lifetime, _, judged, _, _, _⟩ := write_of_accepted accepted
    have different : key ≠ Store.spentKey token := by
      rintro rfl
      exact outside lifetime judged inside
    exact engine.check_keeps session now store different
  · rw [check_store_of_ne accepted]
    exact .refl key store

section Desk

variable {engine : Engine} {session token : String}

/-- A check asks about the key of the token if it claims it, and about no other. -/
theorem oblivious_check
    {now : Seconds}
    (inside : ∀ lifetime, engine.judge session token now = .ok (.claim lifetime) →
      keys (Store.spentKey token)) :
    (Action.onStore (engine.check session token now)).Oblivious keys :=
  Action.oblivious_onStore fun _ _ alike => Engine.check_of_alike inside alike

/-- A check spares every key but the one of the token, and that one as well if it does not claim it. -/
theorem spares_check
    {now : Seconds}
    (outside : ∀ lifetime, engine.judge session token now = .ok (.claim lifetime) →
      ¬ keys (Store.spentKey token)) :
    (Action.onStore (engine.check session token now)).Spares keys :=
  Action.spares_onStore (Engine.alike_check outside)

theorem oblivious_redeem (inside : keys (Store.spentKey token)) :
    (redeem engine session token).Oblivious keys :=
  redeem_of_closed Action.closed_oblivious fun _ => oblivious_check fun _ _ => inside

theorem oblivious_issue (engine : Engine) (session : String) (issued : Seconds) :
    (issue engine session issued).Oblivious keys :=
  issue_of_closed Action.closed_oblivious (Action.oblivious_onEntropy _)

end Desk
end Token

/-! ## The register -/

namespace Session

variable {keys : String → Prop} {id : Id}

theorem oblivious_isLive (inside : keys id.storageKey) : (isLive id).Oblivious keys :=
  isLive_of_closed Action.closed_oblivious (Action.oblivious_ask _ inside)

theorem oblivious_finish (inside : keys id.storageKey) : (finish id).Oblivious keys :=
  finish_of_closed Action.closed_oblivious (Action.oblivious_ask _ inside)

/-- The key of a new session is not known in advance. -/
theorem oblivious_start (inside : ∀ id : Id, keys id.storageKey) (lifetime : Nat) :
    (start lifetime).Oblivious keys := by
  refine (Action.oblivious_onEntropy _).bind fun id => ?_
  refine (Action.oblivious_ask (.record id.storageKey lifetime) (inside id)).bind fun answer => ?_
  cases answer with
  | error failure => exact Action.oblivious_pure _
  | ok _ => exact (Action.oblivious_log _ _).bind fun _ => Action.oblivious_pure _

end Session
end AntiForgery
