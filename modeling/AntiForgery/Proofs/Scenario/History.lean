import AntiForgery.Proofs.Http.Sessions
import AntiForgery.Scenario

/-!
# Histories

What happens in a run of steps, with the world that each step finds.  For every way to have a token
checked, the history tells which check it comes down to, and the outcome alone tells which token was
accepted.  A step that does not go around the service touches the record of a token only by checking
that token.
-/

namespace AntiForgery
namespace Scenario

/-- Something that happened: the world before it, the step, and what came of it. -/
structure Event where
  before : World
  step : Step
  outcome : Outcome

/-- The world after a step. -/
def Step.after (service : Service) (step : Step) (world : World) : World :=
  (Action.observe (step.perform service) world).2

/-- What happens in a run of steps. -/
def history (service : Service) : List Step → World → List Event
  | [], _ => []
  | step :: steps, world =>
      ⟨world, step, (Action.observe (step.perform service) world).1.1⟩ ::
        history service steps (step.after service world)

/-- The outcomes in a history are those of the run. -/
theorem map_outcome_history (service : Service) (steps : List Step) (world : World) :
    (history service steps world).map (·.outcome) = (run service steps world).1.map (·.1) := by
  induction steps generalizing world with
  | nil => rfl
  | cons step steps ih =>
      rw [history, List.map_cons, ih]
      simp only [run, List.mapM_cons]
      rfl

/-- The check that a step asks for, if it does. -/
def Step.attempt? (world : World) : Step → Option Token.Attempt
  | .check session token now => some ⟨session, token, now⟩
  | .checkNow session token => some ⟨session, token, world.wall⟩
  | .redeem session token => some ⟨session, token, world.wall⟩
  | .request sent => Http.attempt? sent world
  | _ => none

/-- The token that an outcome says was accepted. -/
def acceptedToken? : Step → Outcome → Option String
  | .check _ token _, .checked (.ok true) => some token
  | .checkNow _ token, .checked (.ok true) => some token
  | .redeem _ token, .redeemed (.ok true) => some token
  | .request sent, .answered response => Http.acceptedToken? sent response
  | _, _ => none

/-- A step that reports a verdict on one token says that it was accepted if the verdict is good. -/
theorem acceptedToken?_of_verdict
    {error : Type}
    {step : Step}
    {report : Except error Bool → Outcome}
    {own : String}
    (good : acceptedToken? step (report (.ok true)) = some own)
    (bad : acceptedToken? step (report (.ok false)) = none)
    (failed : ∀ failure, acceptedToken? step (report (.error failure)) = none)
    (verdict : Except error Bool)
    (token : String) :
    acceptedToken? step (report verdict) = some token ↔ own = token ∧ verdict = .ok true := by
  cases verdict with
  | error failure => simp [failed]
  | ok valid => cases valid <;> simp [good, bad]

/-- Whether a step writes to the store without the service. -/
def Step.isDirect : Step → Bool
  | .record .. => true
  | .claim .. => true
  | .remove .. => true
  | .fill .. => true
  | _ => false

/-- The store as the check leaves it that a step asks for. -/
def Step.checked (service : Service) (world : World) (step : Step) : Store :=
  match step.attempt? world with
  | some attempt => (attempt.check service.engine world.store).2
  | none => world.store

/-- What a step does to the records of tokens, and what its outcome says about it. -/
structure Spends
    (service : Service)
    (world : World)
    (step : Step)
    (outcome : Outcome)
    (after : Store) : Prop where
  told : ∀ token, acceptedToken? step outcome = some token ↔
    ∃ attempt, step.attempt? world = some attempt ∧ attempt.token = token ∧
      (attempt.check service.engine world.store).1 = .ok true
  keeps : ∀ token, Store.Keeps (Store.spentKey token) (step.checked service world) after
  condition : after.condition = world.store.condition

/-- A step that tries no token, tells of none and leaves the keys of tokens alone spends nothing. -/
theorem spends_of_idle
    {service : Service}
    {world : World}
    {step : Step}
    {outcome : Outcome}
    {after : Store}
    (unasked : step.attempt? world = none)
    (silent : acceptedToken? step outcome = none)
    (keeps : ∀ token, Store.Keeps (Store.spentKey token) world.store after)
    (condition : after.condition = world.store.condition) :
    Spends service world step outcome after where
  told token := by simp [unasked, silent]
  keeps token := by
    rw [Step.checked, unasked]
    exact keeps token
  condition := condition

/-- A step that asks for a check and does nothing else. -/
theorem spends_of_check
    {service : Service}
    {world : World}
    {step : Step}
    {outcome : Outcome}
    {attempt : Token.Attempt}
    (asked : step.attempt? world = some attempt)
    (told : ∀ token, acceptedToken? step outcome = some token ↔
      attempt.token = token ∧ (attempt.check service.engine world.store).1 = .ok true) :
    Spends service world step outcome (attempt.check service.engine world.store).2 where
  told token := by simp [asked, told]
  keeps token := by
    rw [Step.checked, asked]
    exact .refl _ _
  condition := Token.Engine.check_condition ..

/-- A request spends the token that it tries, if that is accepted, and no other. -/
theorem spends_of_request
    (service : Service)
    (world : World)
    (sent : Http.Request) :
    Spends service world (.request sent) (.answered (Http.handle service sent world).1)
      (Http.handle service sent world).2.store := by
  have effect := Http.handle_effect service sent world
  generalize (Http.handle service sent world).1 = response at effect ⊢
  generalize (Http.handle service sent world).2.store = after at effect ⊢
  cases effect with
  | idle silent refused =>
      refine ⟨fun token => ?_, fun token => ?_, rfl⟩
      · simp only [acceptedToken?, silent, reduceCtorEq, false_iff]
        rintro ⟨attempt, asked, _, accepted⟩
        exact refused attempt asked accepted
      · cases asked : Http.attempt? sent world with
        | none =>
            simp only [Step.checked, Step.attempt?, asked]
            exact .refl _ _
        | some attempt =>
            simp only [Step.checked, Step.attempt?, asked]
            rw [Token.Attempt.check, Token.Engine.check_store_of_ne (refused attempt asked)]
            exact .refl _ _
  | started id deadline route post range =>
      refine spends_of_idle ?_ ?_ (fun token => ?_) rfl
      · simp only [Step.attempt?, Http.attempt?, route]
      · simp only [acceptedToken?, Http.acceptedToken?, route]
      · exact .write (Session.Id.spentKey_ne_storageKey token id) deadline world.store
  | accepted attempt attempted told accepted =>
      refine spends_of_check attempted fun token => ?_
      simp [acceptedToken?, told, accepted]
  | ended id token route post found shown accepted status =>
      have changes := Http.Gate.isSafe_of_post post
      have passed : Http.Gate.isPassed response = true := by
        rw [Http.Gate.isPassed, status]
        rfl
      have asked : (Step.request sent).attempt? world = some ⟨id.text, token, world.wall⟩ :=
        Http.attempt?_of_found route changes found shown
      have said := (Http.acceptedToken?_of_passed route changes passed).trans shown
      refine ⟨fun other => ?_, fun other => ?_, ?_⟩
      · simp [acceptedToken?, said, asked, Token.Attempt.check, accepted]
      · rw [Step.checked, asked]
        exact .perform (Session.Id.spentKey_ne_storageKey other id) _
      · rw [Store.perform_condition, Token.Engine.check_condition]

/-- A step that does not go around the service. -/
theorem spends_of_indirect
    (service : Service)
    {step : Step}
    (indirect : step.isDirect = false)
    (world : World) :
    Spends service world step (step.perform service world).1
      (step.perform service world).2.store := by
  cases step with
  | mint session issued => exact spends_of_idle rfl rfl (fun _ => .refl _ _) rfl
  | check session token now =>
      have asked : (Step.check session token now).attempt? world =
          some ⟨session, token, now⟩ := rfl
      refine spends_of_check asked fun other => ?_
      exact acceptedToken?_of_verdict rfl rfl (fun _ => rfl) _ _
  | checkNow session token =>
      have asked : (Step.checkNow session token).attempt? world =
          some ⟨session, token, world.wall⟩ := rfl
      refine spends_of_check asked fun other => ?_
      exact acceptedToken?_of_verdict rfl rfl (fun _ => rfl) _ _
  | issue session issued =>
      have kept : ((Step.issue session issued).perform service world).2.store = world.store :=
        (Token.quiet_issue service.engine session issued).store world
      rw [kept]
      exact spends_of_idle rfl rfl (fun _ => .refl _ _) rfl
  | redeem session token =>
      have asked : (Step.redeem session token).attempt? world =
          some ⟨session, token, world.wall⟩ := rfl
      have spent : ((Step.redeem session token).perform service world).2.store =
          (service.engine.check session token world.wall world.store).2 :=
        Token.redeem_store service.engine session token world
      rw [spent]
      refine spends_of_check asked fun other => ?_
      rw [Token.Attempt.check, ← Token.redeem_eq_ok_true_iff]
      exact acceptedToken?_of_verdict rfl rfl (fun _ => rfl) _ _
  | startSession lifetime =>
      rcases Session.start_cases lifetime world with
        ⟨_, _, _, kept⟩ | ⟨deadline, _, _, _, written⟩
      · have kept : ((Step.startSession lifetime).perform service world).2.store = world.store :=
          kept
        rw [kept]
        exact spends_of_idle rfl rfl (fun _ => .refl _ _) rfl
      · have written : ((Step.startSession lifetime).perform service world).2.store =
            world.store.write (Session.Id.next world.entropy).storageKey deadline :=
          written
        rw [written]
        refine spends_of_idle rfl rfl (fun token => ?_) rfl
        exact .write (Session.Id.spentKey_ne_storageKey token _) deadline world.store
  | askSession id =>
      have kept : ((Step.askSession id).perform service world).2.store = world.store :=
        (Session.quiet_isLive id).store world
      rw [kept]
      exact spends_of_idle rfl rfl (fun _ => .refl _ _) rfl
  | endSession id =>
      have removed : ((Step.endSession id).perform service world).2.store =
          (world.store.perform (.remove id.storageKey)).2 :=
        Session.finish_store id world
      rw [removed]
      refine spends_of_idle rfl rfl (fun token => ?_) (Store.perform_condition _ _)
      exact .perform (Session.Id.spentKey_ne_storageKey token id) world.store
  | record key lifetime => cases indirect
  | lookUp key =>
      have kept : ((Step.lookUp key).perform service world).2.store = world.store :=
        Store.perform_lookUp_store world.store key
      rw [kept]
      exact spends_of_idle rfl rfl (fun _ => .refl _ _) rfl
  | claim key lifetime => cases indirect
  | remove key => cases indirect
  | fill beginning start count lifetime => cases indirect
  | countLive => exact spends_of_idle rfl rfl (fun _ => .refl _ _) rfl
  | advance milliseconds =>
      exact spends_of_idle rfl rfl (fun _ => .advance _ _ milliseconds) rfl
  | setWall reading => exact spends_of_idle rfl rfl (fun _ => .refl _ _) rfl
  | askLifetime => exact spends_of_idle rfl rfl (fun _ => .refl _ _) rfl
  | request sent => exact spends_of_request service world sent

theorem Step.attempt?_journal (step : Step) (world : World) (lines : List Journal.Line) :
    step.attempt? { world with journal := lines } = step.attempt? world := by
  cases step <;> rfl

theorem spends_after
    (service : Service)
    {step : Step}
    (indirect : step.isDirect = false)
    (world : World) :
    Spends service world step (Action.observe (step.perform service) world).1.1
      (step.after service world).store := by
  have spends := spends_of_indirect service indirect { world with journal := [] }
  refine ⟨fun token => ?_, fun token => ?_, spends.condition⟩
  · have told := spends.told token
    rwa [Step.attempt?_journal] at told
  · have keeps := spends.keeps token
    rwa [Step.checked, Step.attempt?_journal] at keeps

namespace Spends

variable {service : Service} {world : World} {step : Step} {outcome : Outcome} {after : Store}

/-- A record that guards a token goes on guarding it. -/
theorem guards
    (spends : Spends service world step outcome after)
    {token : String}
    {deadline : Nat}
    (guards : world.store.Guards (Store.spentKey token) deadline) :
    after.Guards (Store.spentKey token) deadline := by
  have checked : (step.checked service world).Guards (Store.spentKey token) deadline := by
    rw [Step.checked]
    cases step.attempt? world with
    | none => exact guards
    | some attempt => exact Token.Engine.check_guards _ _ _ _ guards
  exact checked.keeps (spends.keeps token)

/-- A step that does not accept a token leaves its record as it is. -/
theorem keeps_of_ne
    (spends : Spends service world step outcome after)
    {token : String}
    (silent : acceptedToken? step outcome ≠ some token) :
    Store.Keeps (Store.spentKey token) world.store after := by
  refine Store.Keeps.trans ?_ (spends.keeps token)
  rw [Step.checked]
  cases asked : step.attempt? world with
  | none => exact .refl _ _
  | some attempt =>
      dsimp only
      by_cases own : attempt.token = token
      · have refused : (attempt.check service.engine world.store).1 ≠ .ok true :=
          fun accepted => silent ((spends.told token).mpr ⟨attempt, asked, own, accepted⟩)
        rw [Token.Attempt.check, Token.Engine.check_store_of_ne refused]
        exact .refl _ _
      · have different := (Store.spentKey_ne_spentKey own).symm
        exact Token.Engine.check_keeps _ _ _ _ different

end Spends

end Scenario
end AntiForgery
