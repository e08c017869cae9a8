import AntiForgery.Proofs.Token.Acceptance
import AntiForgery.Proofs.World
import AntiForgery.Token.Desk

/-!
# What the desk leaves as the engine has it

The desk tells the tokens that the engine mints and words the errors in its own way.  It changes what is
said about a check, and nothing of what the check does to the store.
-/

namespace AntiForgery
namespace Token

section Closed

variable {property : ∀ {α : Type}, Action α → Prop} {engine : Engine} {session token : String}

/-- To issue a token, the desk does no more than have it minted. -/
theorem issue_of_closed
    (closed : Action.Closed property)
    {issued : Seconds}
    (minted : property (Action.onEntropy (engine.mint session issued))) :
    property (issue engine session issued) := by
  refine closed.bind minted fun result => ?_
  cases result with
  | error error => exact closed.pure _
  | ok token => exact closed.bind (closed.log _ _) fun _ => closed.pure _

/-- To redeem a token, the desk does no more than have it checked at the wall clock. -/
theorem redeem_of_closed
    (closed : Action.Closed property)
    (checked : ∀ now, property (Action.onStore (engine.check session token now))) :
    property (redeem engine session token) := by
  refine closed.bind (closed.bind closed.now checked) fun answer => ?_
  cases answer with
  | ok valid => cases valid <;> exact closed.bind (closed.log _ _) fun _ => closed.pure _
  | error error =>
      cases error with
      | expired => exact closed.bind (closed.log _ _) fun _ => closed.pure _
      | malformed => exact closed.bind (closed.log _ _) fun _ => closed.pure _
      | _ => exact closed.pure _

end Closed

theorem quiet_issue (engine : Engine) (session : String) (issued : Seconds) :
    (issue engine session issued).Quiet :=
  issue_of_closed Action.closed_quiet (Action.quiet_onEntropy _)

/-- The desk tells what was minted, and words an error in its own way. -/
theorem issue_fst
    (engine : Engine)
    (session : String)
    (issued : Seconds)
    (world : World) :
    (issue engine session issued world).1 =
      (engine.mint session issued world.entropy).1.mapError fun error =>
        .encryption error.message := by
  rw [issue, Action.bind_apply, Action.onEntropy]
  cases (engine.mint session issued world.entropy).1 with
  | error error => rfl
  | ok token => rfl

theorem issue_eq_ok_iff
    {engine : Engine}
    {session token : String}
    {issued : Seconds}
    {world : World} :
    (issue engine session issued world).1 = .ok token ↔
      (engine.mint session issued world.entropy).1 = .ok token := by
  rw [issue_fst]
  cases (engine.mint session issued world.entropy).1 with
  | error error => simp [Except.mapError]
  | ok minted => simp [Except.mapError]

@[simp] theorem Engine.checkNow_apply
    (engine : Engine)
    (session token : String)
    (world : World) :
    engine.checkNow session token world =
      ((engine.check session token world.wall world.store).1,
        { world with store := (engine.check session token world.wall world.store).2 }) := rfl

@[simp] theorem redeem_store
    (engine : Engine)
    (session token : String)
    (world : World) :
    (redeem engine session token world).2.store =
      (engine.check session token world.wall world.store).2 := by
  rw [redeem, Action.bind_apply, Engine.checkNow_apply]
  cases (engine.check session token world.wall world.store).1 with
  | ok valid => cases valid <;> rfl
  | error error => cases error <;> rfl

/-- The desk says that a token is good exactly when the engine does. -/
theorem redeem_eq_ok_true_iff
    {engine : Engine}
    {session token : String}
    {world : World} :
    (redeem engine session token world).1 = .ok true ↔
      (engine.check session token world.wall world.store).1 = .ok true := by
  rw [redeem, Action.bind_apply, Engine.checkNow_apply]
  cases (engine.check session token world.wall world.store).1 with
  | ok valid => cases valid <;> simp
  | error error => cases error <;> simp

/-- The answers to a check that say nothing but that the token is not good. -/
inductive Dismissed : Except Error Bool → Prop
  | foreign : Dismissed (.ok false)
  | malformed : Dismissed (.error .malformed)
  | expired : Dismissed (.error .expired)

/-- The desk tells none of them from the others. -/
theorem redeem_of_dismissed
    {engine : Engine}
    {session token : String}
    {world : World}
    (dismissed : Dismissed (engine.check session token world.wall world.store).1) :
    (redeem engine session token world).1 = .ok false := by
  rw [redeem, Action.bind_apply, Engine.checkNow_apply]
  generalize (engine.check session token world.wall world.store).1 = answer at dismissed
  cases dismissed <;> rfl

/-- A sound store dismisses every token that it does not accept, unless the record of the token would
have no end. -/
theorem dismissed_of_ne
    {engine : Engine}
    (bounded : engine.window < Int64.maxValue)
    {session token : String}
    {now : Seconds}
    {store : Store}
    (sound : store.condition = .sound)
    (within : ∀ payload, engine.Admits session token now payload →
      store.clock / 1000 + engine.claimLifetime payload.issued now ≤ Store.lastSecond)
    (refused : (engine.check session token now store).1 ≠ .ok true) :
    Dismissed (engine.check session token now store).1 := by
  have decided := (Engine.check_eq_iff bounded session token now sound _).mp rfl
  generalize (engine.check session token now store).1 = answer at decided refused ⊢
  rcases decided with rejects | settles
  · cases rejects with
    | unopened none => exact .malformed
    | early payload opens early => exact .malformed
    | late payload opens notEarly late => exact .expired
    | foreign payload opens timely foreign => exact .foreign
  · cases settles with
    | spent payload admits live => exact .foreign
    | endless payload admits free beyond => exact absurd (within payload admits) (by omega)
    | accepted payload admits free within => exact absurd rfl refused

end Token
end AntiForgery
