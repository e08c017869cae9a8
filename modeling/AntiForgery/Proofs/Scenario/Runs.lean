import AntiForgery.Proofs.Http.Tenure
import AntiForgery.Proofs.Scenario.SingleUse
import Mathlib.Data.List.Induction

/-!
# Open runs

Clients send requests, and time moves the two clocks: a run of such steps is open.  What holds in the
world that a run ends in is shown by taking its last step off, which is the last event of its history.
-/

namespace AntiForgery
namespace Scenario

/-- A step that clients or time take: a request, or a movement of a clock. -/
def Step.isOpen : Step → Bool
  | .request _ => true
  | .advance _ => true
  | .setWall _ => true
  | _ => false

theorem Step.isDirect_of_isOpen {step : Step} (isOpen : step.isOpen = true) :
    step.isDirect = false := by
  cases step <;> first | rfl | cases isOpen

/-- To claim many keys is to claim one after the other. -/
theorem claimMany_of_closed
    {property : ∀ {α : Type}, Action α → Prop}
    (closed : Action.Closed property)
    {beginning : String}
    {lifetime : Nat}
    (claimed : ∀ key, property (Action.ask (.claim key lifetime)))
    (start count created failed : Nat) :
    property (claimMany beginning lifetime start count created failed) := by
  induction count generalizing start created failed with
  | zero => exact closed.pure _
  | succ count ih =>
      refine closed.bind (claimed _) fun answer => ?_
      cases answer with
      | error failure => exact ih _ _ _
      | ok fresh => cases fresh <;> exact ih _ _ _

/-- What happens when a step finds a world. -/
def Step.event (service : Service) (step : Step) (world : World) : Event :=
  ⟨world, step, (Action.observe (step.perform service) world).1.1⟩

/-- A request is answered in the world that it finds, with a journal of its own. -/
theorem Step.event_request (service : Service) (sent : Http.Request) (world : World) :
    (Step.request sent).event service world =
      ⟨world, .request sent,
        .answered (Http.handle service sent { world with journal := [] }).1⟩ := by
  unfold Step.event Action.observe
  simp only [Step.perform, Action.bind_apply, Action.pure_apply]

theorem Step.after_request_store (service : Service) (sent : Http.Request) (world : World) :
    ((Step.request sent).after service world).store =
      (Http.handle service sent { world with journal := [] }).2.store := by
  unfold Step.after Action.observe
  simp only [Step.perform, Action.bind_apply, Action.pure_apply]

section Concatenation

variable (service : Service)

theorem run_nil (world : World) : (run service [] world).2 = world := rfl

theorem run_cons (step : Step) (steps : List Step) (world : World) :
    (run service (step :: steps) world).2 = (run service steps (step.after service world)).2 := by
  simp only [run, List.mapM_cons]
  rfl

/-- The outcomes of a run are that of its first step and those of the run from there. -/
theorem run_cons_outcomes (step : Step) (steps : List Step) (world : World) :
    (run service (step :: steps) world).1 =
      (Action.observe (step.perform service) world).1 ::
        (run service steps (step.after service world)).1 := by
  simp only [run, List.mapM_cons]
  rfl

theorem run_concat (steps : List Step) (step : Step) (world : World) :
    (run service (steps ++ [step]) world).2 = step.after service (run service steps world).2 := by
  induction steps generalizing world with
  | nil => rw [List.nil_append, run_cons, run_nil, run_nil]
  | cons first steps ih => rw [List.cons_append, run_cons, run_cons, ih]

theorem history_concat (steps : List Step) (step : Step) (world : World) :
    history service (steps ++ [step]) world =
      history service steps world ++ [step.event service (run service steps world).2] := by
  induction steps generalizing world with
  | nil => rfl
  | cons first steps ih => rw [List.cons_append, history, ih, run_cons, history, List.cons_append]

/-- An event of a history is what its step does in the world that it meets. -/
theorem eq_event_of_mem_history
    {steps : List Step}
    {world : World}
    {event : Event}
    (member : event ∈ history service steps world) :
    event = event.step.event service event.before := by
  induction steps generalizing world with
  | nil => cases member
  | cons step steps ih =>
      rw [history, List.mem_cons] at member
      rcases member with rfl | member
      · rfl
      · exact ih member

/-- Every event of an open history is a request or a movement of a clock. -/
theorem isOpen_of_mem_history
    {steps : List Step}
    (isOpen : ∀ step ∈ steps, step.isOpen = true)
    {world : World}
    {event : Event}
    (member : event ∈ history service steps world) :
    event.step.isOpen = true := by
  induction steps generalizing world with
  | nil => cases member
  | cons step steps ih =>
      rw [history, List.mem_cons] at member
      rcases member with rfl | member
      · exact isOpen step List.mem_cons_self
      · exact ih (fun step member => isOpen step (List.mem_cons_of_mem _ member)) member

end Concatenation

/-- An open run leaves the condition of the store as it is. -/
theorem condition_run
    {service : Service}
    {steps : List Step}
    (isOpen : ∀ step ∈ steps, step.isOpen = true)
    (world : World) :
    (run service steps world).2.store.condition = world.store.condition := by
  induction steps using List.reverseRecOn with
  | nil => rfl
  | append_singleton steps step ih =>
      have indirect := Step.isDirect_of_isOpen (isOpen step (by simp))
      rw [run_concat, (spends_after service indirect _).condition]
      exact ih fun step member => isOpen step (List.mem_append_left _ member)

namespace Event

/-- The session that an event has started, as its answer says. -/
def startedSession? (event : Event) : Option Session.Id :=
  match event.step, event.outcome with
  | .request sent, .answered response => Http.startedSession? sent event.before response
  | _, _ => none

/-- The session that an event has ended, as its answer says. -/
def endedSession? (event : Event) : Option Session.Id :=
  match event.step, event.outcome with
  | .request sent, .answered response => Http.endedSession? sent response
  | _, _ => none

end Event

/-- In a sound store the record of a session does what the outcomes tell. -/
theorem Step.accounts
    (service : Service)
    {step : Step}
    (isOpen : step.isOpen = true)
    {world : World}
    (sound : world.store.condition = .sound)
    (id : Session.Id) :
    Session.Accounts (step.event service world).startedSession?
      (step.event service world).endedSession? service.session.lifetime world.store
      (step.after service world).store id := by
  cases step with
  | request sent =>
      have fresh : ({ world with journal := [] } : World).store.condition = .sound := sound
      have accounts := @Http.handle_accounts service sent _ id fresh
      rw [event_request, after_request_store]
      generalize Http.handle service sent { world with journal := [] } = answered at accounts ⊢
      exact accounts
  | advance milliseconds => exact Session.accounts_of_keeps (.advance _ _ _)
  | setWall reading => exact Session.accounts_of_keeps (.refl _ _)
  | _ => cases isOpen

end Scenario
end AntiForgery
