import AntiForgery.Http.Gate
import AntiForgery.Proofs.Session.Register
import AntiForgery.Proofs.Token.Desk

/-!
# What the gates let pass

A request passes the first gate exactly when the store finds the session of its cookie, and the
second one exactly when the engine accepts the token that it shows.  A request that is stopped leaves
the store as it is, and its answer says so.
-/

namespace AntiForgery
namespace Http

section Closed

variable {property : ∀ {α : Type}, Action α → Prop}

/-- To refuse is to write a line and to answer. -/
theorem refuse_of_closed (closed : Action.Closed property) (refusal : Refusal) :
    property (refuse refusal) :=
  closed.bind (closed.log _ _) fun _ => closed.pure _

/-- To add a token, the gate does no more than have it minted. -/
theorem Gate.attachToken_of_closed
    (closed : Action.Closed property)
    {service : Service}
    {id : Session.Id}
    (minted : ∀ issued, property (Action.onEntropy (service.engine.mint id.text issued)))
    (response : Response) :
    property (attachToken service id response) := by
  refine closed.bind closed.now fun now =>
    closed.bind (Token.issue_of_closed closed (minted now)) fun issued => ?_
  cases issued with
  | error refusal => exact refuse_of_closed closed refusal
  | ok token =>
      dsimp only
      split
      · exact closed.pure _
      · exact refuse_of_closed closed _

/-- To read the token that is shown, the gate does no more than write a line. -/
theorem Gate.presentedToken_of_closed (closed : Action.Closed property) (request : Request) :
    property (presentedToken request) := by
  rw [presentedToken]
  cases request.value? tokenHeader with
  | none => exact closed.bind (closed.log _ _) fun _ => closed.pure _
  | some value =>
      dsimp only
      cases visibleText? value with
      | none => exact closed.bind (closed.log _ _) fun _ => closed.pure _
      | some token => exact closed.pure _

end Closed

theorem quiet_refuse (refusal : Refusal) : (refuse refusal).Quiet :=
  refuse_of_closed Action.closed_quiet refusal

@[simp] theorem refuse_fst (refusal : Refusal) (world : World) :
    (refuse refusal world).1 = refusalResponse refusal := rfl

namespace Gate

/-- The session of a request, if the store finds it. -/
def foundSession? (request : Request) (store : Store) : Option Session.Id :=
  (Cookie.session? request).filter fun id => Session.isFound id store

theorem foundSession?_eq_some_iff {request : Request} {store : Store} {id : Session.Id} :
    foundSession? request store = some id ↔
      Cookie.session? request = some id ∧ Session.isFound id store = true := by
  simp [foundSession?, Option.filter_eq_some_iff]

/-- The token that a request shows, if it may reach the engine. -/
def shownToken? (request : Request) : Option String :=
  ((request.value? tokenHeader).bind visibleText?).filter fun token =>
    (Admission.token token).isOk

/-- A token is shown if the header spells it and its size is admitted. -/
theorem shownToken?_eq_some_iff {request : Request} {token : String} :
    shownToken? request = some token ↔
      (request.value? tokenHeader).bind visibleText? = some token ∧
        (Admission.token token).isOk = true :=
  Option.filter_eq_some_iff

/-- Whether the answer to a request that has to show a token says that it passed: what is behind the
gates did its work, or does not take the method. -/
def isPassed (response : Response) : Bool :=
  response.status == 200 || response.status == 405

@[simp] theorem isPassed_refusalResponse (refusal : Refusal) :
    isPassed (refusalResponse refusal) = false := by
  cases refusal <;> rfl

theorem isSafe_of_post {method : String} (post : method = "POST") : isSafe method = false := by
  rw [post]
  rfl

/-! ## The gate for sessions -/

/-- A request without a session that the store finds is stopped; any other goes on to what is behind
the gate. -/
theorem session_cases
    (request : Request)
    (inner : Session.Id → Action Response)
    (world : World) :
    (foundSession? request world.store = none ∧
      isPassed (session request inner world).1 = false ∧
      (session request inner world).2.store = world.store) ∨
    ∃ id after,
      foundSession? request world.store = some id ∧
      after.store = world.store ∧
      after.wall = world.wall ∧
      session request inner world = inner id after := by
  rw [session, Action.bind_apply]
  cases cookie : Cookie.session? request with
  | none => exact .inl ⟨by rw [foundSession?, cookie]; rfl, rfl, rfl⟩
  | some id =>
      dsimp only
      rw [Action.bind_apply]
      have store := Action.log_store .debug "🔐 Checking session..." world
      have wall := Action.log_wall .debug "🔐 Checking session..." world
      generalize (Action.log .debug "🔐 Checking session..." world).2 = logged at store wall ⊢
      have quiet := Session.quiet_isLive id logged
      have found := @Session.isLive_eq_ok_true_iff id logged
      rw [store, wall] at quiet
      rw [store] at found
      cases result : Session.isLive id logged with
      | mk answer after =>
          rw [result] at quiet found
          by_cases live : answer = .ok true
          · right
            subst live
            exact ⟨id, (Action.log .debug ("✅ Session valid: " ++ id.text) after).2,
              foundSession?_eq_some_iff.mpr ⟨cookie, found.mp rfl⟩, quiet.1, quiet.2, rfl⟩
          · left
            have missing : foundSession? request world.store = none := by
              rw [foundSession?, cookie, Option.filter_some,
                if_neg fun there => live (found.mpr there)]
            refine ⟨missing, ?_⟩
            cases answer with
            | error refusal => exact ⟨rfl, quiet.1⟩
            | ok valid =>
                cases valid with
                | false => exact ⟨rfl, quiet.1⟩
                | true => exact absurd rfl live

/-- A request of a live session passes the first gate, and nothing is changed but the journal. -/
theorem session_of_live
    {request : Request}
    {id : Session.Id}
    (cookie : Cookie.session? request = some id)
    {world : World}
    (sound : world.store.condition = .sound)
    (live : world.store.table.isLive id.storageKey world.store.clock = true)
    (inner : Session.Id → Action Response) :
    ∃ journal, session request inner world = inner id { world with journal } := by
  have found := Store.perform_lookUp_of_sound sound id.storageKey
  rw [if_pos live] at found
  rw [session, Action.bind_apply, cookie]
  simp only [Session.isLive, Action.bind_apply, Action.ask, Action.log, found]
  exact ⟨_, rfl⟩

/-- A request whose session is not live is stopped at the first gate, and nothing is changed but the
journal. -/
theorem session_of_dead
    {request : Request}
    {id : Session.Id}
    (cookie : Cookie.session? request = some id)
    {world : World}
    (sound : world.store.condition = .sound)
    (dead : world.store.table.isLive id.storageKey world.store.clock = false)
    (inner : Session.Id → Action Response) :
    ∃ journal, session request inner world = (.bare 403, { world with journal }) := by
  have found := Store.perform_lookUp_of_sound sound id.storageKey
  rw [if_neg (by simp [dead])] at found
  rw [session, Action.bind_apply, cookie]
  simp only [Session.isLive, Action.bind_apply, Action.ask, Action.log, found]
  exact ⟨_, rfl⟩

/-! ## The gate for tokens -/

theorem quiet_attachToken (service : Service) (id : Session.Id) (response : Response) :
    (attachToken service id response).Quiet :=
  attachToken_of_closed Action.closed_quiet (fun _ => Action.quiet_onEntropy _) response

theorem quiet_presentedToken (request : Request) : (presentedToken request).Quiet :=
  presentedToken_of_closed Action.closed_quiet request

/-- The gate takes the token from the header exactly if the header spells it. -/
theorem presentedToken_eq_ok_iff {request : Request} {world : World} {token : String} :
    (presentedToken request world).1 = .ok token ↔
      (request.value? tokenHeader).bind visibleText? = some token := by
  rw [presentedToken]
  cases request.value? tokenHeader with
  | none => simp
  | some value => cases visible : visibleText? value <;> simp [visible]

/-- A request that shows no token is stopped. -/
theorem demandToken_of_unshown
    (service : Service)
    (id : Session.Id)
    {request : Request}
    (unshown : shownToken? request = none)
    (inner : Action Response)
    (world : World) :
    isPassed (demandToken service id request inner world).1 = false ∧
      (demandToken service id request inner world).2.store = world.store := by
  rw [demandToken, Action.bind_apply]
  have quiet := quiet_presentedToken request world
  have presented := @presentedToken_eq_ok_iff request world
  generalize presentedToken request world = result at quiet presented ⊢
  obtain ⟨answer, middle⟩ := result
  obtain ⟨store, _⟩ := quiet
  dsimp only at store presented ⊢
  rw [← store]
  cases answer with
  | error refusal => exact ⟨isPassed_refusalResponse refusal, (quiet_refuse refusal).store middle⟩
  | ok token =>
      dsimp only
      cases admitted : Admission.token token with
      | error refusal => exact ⟨rfl, rfl⟩
      | ok _ =>
          have shown : shownToken? request = some token :=
            shownToken?_eq_some_iff.mpr ⟨presented.mp rfl, by rw [admitted]; rfl⟩
          rw [unshown] at shown
          cases shown

/-- What becomes of a request whose token reaches the engine. -/
def redeemToken (service : Service) (id : Session.Id) (token : String) (inner : Action Response) :
    Action Response := do
  match ← Token.redeem service.engine id.text token with
  | .error refusal => refuse refusal
  | .ok false => refuse .forbidden
  | .ok true => inner

/-- A token that a request shows reaches the engine. -/
theorem demandToken_of_shown
    (service : Service)
    (id : Session.Id)
    {request : Request}
    {token : String}
    (shown : shownToken? request = some token)
    (inner : Action Response)
    (world : World) :
    ∃ middle : World,
      middle.store = world.store ∧
      middle.wall = world.wall ∧
      demandToken service id request inner world = redeemToken service id token inner middle := by
  obtain ⟨header, admitted⟩ := shownToken?_eq_some_iff.mp shown
  obtain ⟨store, wall⟩ := quiet_presentedToken request world
  have presented := (@presentedToken_eq_ok_iff request world token).mpr header
  refine ⟨(presentedToken request world).2, store, wall, ?_⟩
  rw [demandToken, Action.bind_apply, presented]
  dsimp only
  cases admission : Admission.token token with
  | error refusal =>
      rw [admission] at admitted
      cases admitted
  | ok _ => rfl

/-- A token that the engine does not accept stops the request. -/
theorem redeemToken_cases
    (service : Service)
    (id : Session.Id)
    (token : String)
    (inner : Action Response)
    (world : World) :
    ((service.engine.check id.text token world.wall world.store).1 ≠ .ok true ∧
      isPassed (redeemToken service id token inner world).1 = false ∧
      (redeemToken service id token inner world).2.store = world.store) ∨
    ∃ after : World,
      (service.engine.check id.text token world.wall world.store).1 = .ok true ∧
      after.store = (service.engine.check id.text token world.wall world.store).2 ∧
      redeemToken service id token inner world = inner after := by
  rw [redeemToken, Action.bind_apply]
  have spent := Token.redeem_store service.engine id.text token world
  have accepted := @Token.redeem_eq_ok_true_iff service.engine id.text token world
  generalize Token.redeem service.engine id.text token world = redeemed at spent accepted ⊢
  obtain ⟨answer, after⟩ := redeemed
  by_cases valid : answer = .ok true
  · subst valid
    exact .inr ⟨after, accepted.mp rfl, spent, rfl⟩
  · left
    have refused : (service.engine.check id.text token world.wall world.store).1 ≠ .ok true :=
      fun ok => valid (accepted.mpr ok)
    have kept : after.store = world.store := by
      rw [spent]
      exact Token.Engine.check_store_of_ne refused
    refine ⟨refused, ?_⟩
    cases answer with
    | error refusal => exact ⟨isPassed_refusalResponse refusal, kept⟩
    | ok good =>
        cases good with
        | false => exact ⟨rfl, kept⟩
        | true => exact absurd rfl valid

/-- A request whose token the engine does not accept is stopped; any other goes on to what is behind
the gate, with its token spent. -/
theorem demandToken_cases
    (service : Service)
    (id : Session.Id)
    (request : Request)
    (inner : Action Response)
    (world : World) :
    ((∀ token, shownToken? request = some token →
        (service.engine.check id.text token world.wall world.store).1 ≠ .ok true) ∧
      isPassed (demandToken service id request inner world).1 = false ∧
      (demandToken service id request inner world).2.store = world.store) ∨
    ∃ token after,
      shownToken? request = some token ∧
      (service.engine.check id.text token world.wall world.store).1 = .ok true ∧
      after.store = (service.engine.check id.text token world.wall world.store).2 ∧
      demandToken service id request inner world = inner after := by
  cases shown : shownToken? request with
  | none => exact .inl ⟨nofun, demandToken_of_unshown service id shown inner world⟩
  | some token =>
      obtain ⟨middle, store, wall, reached⟩ := demandToken_of_shown service id shown inner world
      rw [reached, ← store, ← wall]
      rcases redeemToken_cases service id token inner middle with
        ⟨refused, stopped⟩ | ⟨after, accepted, spent, passed⟩
      · left
        refine ⟨?_, stopped⟩
        rintro _ ⟨⟩
        exact refused
      · exact .inr ⟨token, after, rfl, accepted, spent, passed⟩

end Gate
end Http
end AntiForgery
