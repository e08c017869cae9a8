import AntiForgery.Proofs.Session.Keys
import AntiForgery.Proofs.Store.Records
import AntiForgery.Proofs.World
import AntiForgery.Session.Register

/-!
# What the register does to the store
-/

namespace AntiForgery
namespace Session

/-- Whether the store says that a session is there, which a blind store never does. -/
def isFound (id : Id) (store : Store) : Bool :=
  match (store.perform (.lookUp id.storageKey)).1 with
  | .ok .present => true
  | _ => false

/-- A sound store finds a session exactly while its entry is live. -/
theorem isFound_of_sound
    (id : Id)
    {store : Store}
    (sound : store.condition = .sound) :
    isFound id store = store.table.isLive id.storageKey store.clock := by
  rw [isFound, Store.perform_lookUp_of_sound sound]
  cases store.table.isLive id.storageKey store.clock <;> rfl

/-- A blind store finds no session. -/
theorem condition_ne_blind_of_isFound {id : Id} {store : Store} (found : isFound id store = true) :
    store.condition ≠ .blind := by
  intro blind
  rw [isFound, Store.perform, blind] at found
  cases found

section Closed

variable {property : ∀ {α : Type}, Action α → Prop} {id : Id}

/-- To look a session up, the register does no more than ask for its key. -/
theorem isLive_of_closed
    (closed : Action.Closed property)
    (asked : property (Action.ask (.lookUp id.storageKey))) :
    property (isLive id) := by
  refine closed.bind asked fun answer => ?_
  cases answer <;> exact closed.pure _

/-- To end a session, the register does no more than remove its key. -/
theorem finish_of_closed
    (closed : Action.Closed property)
    (asked : property (Action.ask (.remove id.storageKey))) :
    property (finish id) := by
  refine closed.bind asked fun answer => ?_
  cases answer with
  | error failure => exact closed.pure _
  | ok _ => exact closed.bind (closed.log _ _) fun _ => closed.pure _

end Closed

theorem quiet_isLive (id : Id) : (isLive id).Quiet :=
  isLive_of_closed Action.closed_quiet fun world =>
    ⟨Store.perform_lookUp_store world.store id.storageKey, rfl⟩

theorem isLive_eq_ok_true_iff {id : Id} {world : World} :
    (isLive id world).1 = .ok true ↔ isFound id world.store = true := by
  rw [isLive, Action.bind_apply, Action.ask, isFound]
  cases (world.store.perform (.lookUp id.storageKey)).1 with
  | error failure => simp
  | ok presence => cases presence <;> simp

@[simp] theorem finish_store (id : Id) (world : World) :
    (finish id world).2.store = (world.store.perform (.remove id.storageKey)).2 := by
  rw [finish, Action.bind_apply, Action.ask]
  cases (world.store.perform (.remove id.storageKey)).1 with
  | error failure => rfl
  | ok _ => rfl

theorem finish_of_sound (id : Id) {world : World} (sound : world.store.condition = .sound) :
    (finish id world).1 = .ok () := by
  rw [finish, Action.bind_apply, Action.ask, Store.perform_of_sound sound]
  rfl

/-- A session is started under the next id, whether it is recorded or not. -/
theorem start_entropy (lifetime : Nat) (world : World) :
    (start lifetime world).2.entropy = world.entropy.drop 16 := by
  simp only [start, Action.bind_apply, Action.onEntropy_apply, Action.ask_apply, Id.draw]
  cases (world.store.perform (.record (Id.next world.entropy).storageKey lifetime)).1 with
  | error failure => rfl
  | ok _ => rfl

/-- Starting a session either records the next id, or the store fails and nothing is changed. -/
theorem start_cases (lifetime : Nat) (world : World) :
    (∃ failure,
      (world.store.perform (.record (Id.next world.entropy).storageKey lifetime)).1 =
        .error failure ∧
      (start lifetime world).1 = .error (.store failure) ∧
      (start lifetime world).2.store = world.store) ∨
    ∃ deadline,
      Store.deadline? world.store.clock lifetime = some deadline ∧
      (world.store.perform (.record (Id.next world.entropy).storageKey lifetime)).1 = .ok () ∧
      (start lifetime world).1 = .ok (Id.next world.entropy) ∧
      (start lifetime world).2.store =
        world.store.write (Id.next world.entropy).storageKey deadline := by
  simp only [start, Action.bind_apply, Action.onEntropy_apply, Action.ask_apply, Id.draw]
  rcases Store.perform_record_cases world.store (Id.next world.entropy).storageKey lifetime with
    ⟨failed, kept⟩ | ⟨deadline, range, recorded⟩
  · left
    cases answer :
        (world.store.perform (.record (Id.next world.entropy).storageKey lifetime)).1 with
    | error failure => exact ⟨failure, rfl, rfl, kept⟩
    | ok _ => exact absurd answer failed
  · right
    rw [recorded]
    exact ⟨deadline, range, rfl, rfl, rfl⟩

end Session
end AntiForgery
