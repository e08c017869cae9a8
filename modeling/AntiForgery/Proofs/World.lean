import AntiForgery.World

/-!
# What actions leave alone

Most of what the service does besides asking the store touches neither the store nor the wall clock:
it writes into the journal, reads the clock, or takes entropy.  What an action leaves alone, it leaves
alone if its parts do, so each action is taken apart once, for all such properties.
-/

namespace AntiForgery
namespace Action

@[simp] theorem pure_apply (value : α) (world : World) :
    (pure value : Action α) world = (value, world) := rfl

/-- Actions run one after the other, and the second one sees the world that the first one leaves. -/
@[simp] theorem bind_apply (action : Action α) (next : α → Action β) (world : World) :
    (action >>= next) world = next (action world).1 (action world).2 := rfl

/-- A call to the store touches nothing but the store. -/
@[simp] theorem ask_apply (call : Store.Call α) (world : World) :
    ask call world =
      ((world.store.perform call).1, { world with store := (world.store.perform call).2 }) := rfl

/-- A draw touches nothing but the random bytes. -/
@[simp] theorem onEntropy_apply (step : Entropy → α × Entropy) (world : World) :
    onEntropy step world =
      ((step world.entropy).1, { world with entropy := (step world.entropy).2 }) := rfl

/-! ## Properties that pass to longer actions -/

/-- A property of actions that is passed on from one action after the other to both of them together,
and that whoever only answers, writes a line or looks at the clock has.  What an action of the service
has to be asked for is then what it does besides. -/
structure Closed (property : ∀ {α : Type}, Action α → Prop) : Prop where
  pure : ∀ {α : Type} (value : α), property (pure value : Action α)
  bind : ∀ {α β : Type} {action : Action α} {next : α → Action β},
    property action → (∀ value, property (next value)) → property (action >>= next)
  log : ∀ (level : Journal.Level) (message : String), property (log level message)
  now : property now

/-! ## Actions that leave the store alone -/

/-- The action leaves the store and the wall clock as they are. -/
def Quiet (action : Action α) : Prop :=
  ∀ world, (action world).2.store = world.store ∧ (action world).2.wall = world.wall

/-- A quiet action leaves the store as it finds it. -/
theorem Quiet.store {action : Action α} (quiet : action.Quiet) (world : World) :
    (action world).2.store = world.store :=
  (quiet world).1

theorem Quiet.wall {action : Action α} (quiet : action.Quiet) (world : World) :
    (action world).2.wall = world.wall :=
  (quiet world).2

theorem quiet_pure (value : α) : (pure value : Action α).Quiet := fun _ => ⟨rfl, rfl⟩

/-- Quiet actions one after the other are quiet. -/
theorem Quiet.bind
    {action : Action α}
    {next : α → Action β}
    (quiet : action.Quiet)
    (quietNext : ∀ value, (next value).Quiet) :
    Action.Quiet (action >>= next) := by
  intro world
  rw [bind_apply, (quietNext _).store, (quietNext _).wall]
  exact quiet world

theorem quiet_log (level : Journal.Level) (message : String) : (log level message).Quiet :=
  fun _ => ⟨rfl, rfl⟩

theorem quiet_now : now.Quiet := fun _ => ⟨rfl, rfl⟩

theorem closed_quiet : Closed Quiet where
  pure := quiet_pure
  bind := Quiet.bind
  log := quiet_log
  now := quiet_now

/-- A draw is no change of the store. -/
theorem quiet_onEntropy (step : Entropy → α × Entropy) : (onEntropy step).Quiet :=
  fun _ => ⟨rfl, rfl⟩

@[simp] theorem log_store (level : Journal.Level) (message : String) (world : World) :
    (log level message world).2.store = world.store := rfl

@[simp] theorem log_wall (level : Journal.Level) (message : String) (world : World) :
    (log level message world).2.wall = world.wall := rfl

@[simp] theorem log_journal (level : Journal.Level) (message : String) (world : World) :
    (log level message world).2.journal = world.journal ++ [⟨level, message⟩] := rfl

end Action
end AntiForgery
