import AntiForgery.Http.Router
import AntiForgery.Proofs.Http.Gate

/-!
# What a request does to the store

A request either leaves the store as it is, or starts a session, or has a token checked.  Only a
request to end a session that has its token accepted goes on to remove a record.  Who may ask for a
check, and what the answers say about it, is read off the request and the answer alone.
-/

namespace AntiForgery
namespace Http

/-- The session id and the token in the body of a request, if they may reach the engine. -/
def statedCheck? (request : Request) : Option (String × String) :=
  (Body.read Body.sessionField Body.tokenField request).toOption.filter fun stated =>
    isAdmitted stated.1 stated.2

/-- The check that a request asks for: of the token in its body, or of the one that it shows for its
session at the gate. -/
def attempt? (request : Request) (world : World) : Option Token.Attempt :=
  match Route.ofPath? request.path with
  | some (.free .check) =>
      if request.method = "POST" then
        (statedCheck? request).map fun stated => ⟨stated.1, stated.2, world.wall⟩
      else none
  | some (.guarded _) =>
      if Gate.isSafe request.method then none
      else
        match Gate.foundSession? request world.store, Gate.shownToken? request with
        | some id, some token => some ⟨id.text, token, world.wall⟩
        | _, _ => none
  | _ => none

/-- Who asks for a check. -/
theorem attempt?_cases
    {request : Request}
    {world : World}
    {attempt : Token.Attempt}
    (asked : attempt? request world = some attempt) :
    (∃ session token,
      Route.ofPath? request.path = some (.free .check) ∧
      request.method = "POST" ∧
      statedCheck? request = some (session, token) ∧
      attempt = ⟨session, token, world.wall⟩) ∨
    ∃ endpoint id token,
      Route.ofPath? request.path = some (.guarded endpoint) ∧
      Gate.isSafe request.method = false ∧
      Gate.foundSession? request world.store = some id ∧
      Gate.shownToken? request = some token ∧
      attempt = ⟨id.text, token, world.wall⟩ := by
  rw [attempt?] at asked
  split at asked
  · next known =>
      split at asked
      · next post =>
          obtain ⟨⟨session, token⟩, stated, rfl⟩ := Option.map_eq_some_iff.mp asked
          exact .inl ⟨session, token, known, post, stated, rfl⟩
      · cases asked
  · next endpoint known =>
      split at asked
      · cases asked
      · next changes =>
          split at asked
          · next id token found shown =>
              cases asked
              exact .inr ⟨endpoint, id, token, known, by simpa using changes, found, shown, rfl⟩
          · cases asked
  · cases asked

/-- A token is tried at the reading of the wall clock. -/
theorem attempt?_now
    {request : Request}
    {world : World}
    {attempt : Token.Attempt}
    (asked : attempt? request world = some attempt) :
    attempt.now = world.wall := by
  rcases attempt?_cases asked with ⟨_, _, _, _, _, rfl⟩ | ⟨_, _, _, _, _, _, _, rfl⟩
  · rfl
  · rfl

/-- The token that an answer says was accepted. -/
def acceptedToken? (request : Request) (response : Response) : Option String :=
  match Route.ofPath? request.path with
  | some (.free .check) =>
      if response = verdict true then (statedCheck? request).map (·.2) else none
  | some (.guarded _) =>
      if !Gate.isSafe request.method && Gate.isPassed response then Gate.shownToken? request
      else none
  | _ => none

/-- What a request does to the store, with its answer. -/
inductive Effect
    (service : Service)
    (request : Request)
    (world : World) : Response → Store → Prop
  | idle
      (response : Response)
      (silent : acceptedToken? request response = none)
      (refused : ∀ attempt, attempt? request world = some attempt →
        (attempt.check service.engine world.store).1 ≠ .ok true) :
      Effect service request world response world.store
  | started
      (response : Response)
      (id : Session.Id)
      (deadline : Nat)
      (route : Route.ofPath? request.path = some (.free .start))
      (post : request.method = "POST")
      (range : Store.deadline? world.store.clock service.session.lifetime = some deadline) :
      Effect service request world response (world.store.write id.storageKey deadline)
  | accepted
      (response : Response)
      (attempt : Token.Attempt)
      (attempted : attempt? request world = some attempt)
      (told : acceptedToken? request response = some attempt.token)
      (accepted : (attempt.check service.engine world.store).1 = .ok true) :
      Effect service request world response (attempt.check service.engine world.store).2
  | ended
      (response : Response)
      (id : Session.Id)
      (token : String)
      (route : Route.ofPath? request.path = some (.guarded .finish))
      (post : request.method = "POST")
      (found : Gate.foundSession? request world.store = some id)
      (shown : Gate.shownToken? request = some token)
      (accepted : (service.engine.check id.text token world.wall world.store).1 = .ok true)
      (status : response.status = 200) :
      Effect service request world response
        ((service.engine.check id.text token world.wall world.store).2.perform
          (.remove id.storageKey)).2

/-! ## Open endpoints -/

/-- To answer a request for a token, the endpoint does no more than have it minted. -/
theorem createToken_of_closed
    {property : ∀ {α : Type}, Action α → Prop}
    (closed : Action.Closed property)
    {service : Service}
    (minted : ∀ session issued, property (Action.onEntropy (service.engine.mint session issued)))
    (request : Request) :
    property (createToken service request) := by
  rw [createToken]
  cases Body.read Body.sessionField Body.issuedField request with
  | error fault => exact closed.pure _
  | ok stated =>
      dsimp only
      cases Admission.sessionId stated.1 with
      | error refusal => exact refuse_of_closed closed refusal
      | ok _ =>
          refine closed.bind closed.now fun now =>
            closed.bind (Token.issue_of_closed closed (minted _ _)) fun issued => ?_
          cases issued with
          | error refusal => exact refuse_of_closed closed refusal
          | ok token => exact closed.pure _

theorem quiet_createToken (service : Service) (request : Request) :
    (createToken service request).Quiet :=
  createToken_of_closed Action.closed_quiet (fun _ _ => Action.quiet_onEntropy _) request

theorem verdict_false_ne_verdict_true : verdict false ≠ verdict true := by
  simp only [verdict, Response.json, Response.member, ne_eq, Response.mk.injEq, true_and,
    List.append_cancel_left_eq, List.append_cancel_right_eq]
  decide

theorem ne_verdict_true {response : Response} (status : response.status ≠ 200) :
    response ≠ verdict true := by
  rintro rfl
  exact status rfl

/-- Every refusal is answered with a status of an error. -/
theorem le_status_refusalResponse (refusal : Refusal) :
    400 ≤ (refusalResponse refusal).status := by
  cases refusal <;> simp [refusalResponse, Response.json, refusalStatus]

theorem status_refusalResponse (refusal : Refusal) : (refusalResponse refusal).status ≠ 200 := by
  have error := le_status_refusalResponse refusal
  omega

theorem status_faultResponse (fault : Body.Fault) : fault.response.status ≠ 200 := by
  cases fault with
  | mediaType => decide
  | size => decide
  | content fault => cases fault <;> decide

/-- A check of something that is not admitted finds nothing good and changes nothing. -/
theorem checkToken_of_none
    {service : Service}
    {request : Request}
    (none : statedCheck? request = none)
    (world : World) :
    (checkToken service request world).1 ≠ verdict true ∧
      (checkToken service request world).2.store = world.store := by
  rw [checkToken]
  cases read : Body.read Body.sessionField Body.tokenField request with
  | error fault => exact ⟨ne_verdict_true (status_faultResponse fault), rfl⟩
  | ok stated =>
      have outside : isAdmitted stated.1 stated.2 = false := by
        rw [statedCheck?, read] at none
        simpa [Except.toOption, Option.filter] using none
      dsimp only
      rw [if_neg (by simp [outside])]
      exact ⟨verdict_false_ne_verdict_true, rfl⟩

/-- A check that is admitted is the check of the engine. -/
theorem checkToken_of_some
    {service : Service}
    {request : Request}
    {session token : String}
    (stated : statedCheck? request = some (session, token))
    (world : World) :
    ((checkToken service request world).1 = verdict true ↔
        (service.engine.check session token world.wall world.store).1 = .ok true) ∧
      (checkToken service request world).2.store =
        (service.engine.check session token world.wall world.store).2 := by
  have admitted : Body.read Body.sessionField Body.tokenField request = .ok (session, token) ∧
      isAdmitted session token = true := by
    obtain ⟨read, inside⟩ := Option.filter_eq_some_iff.mp stated
    refine ⟨?_, inside⟩
    cases whole : Body.read Body.sessionField Body.tokenField request with
    | error fault =>
        rw [whole] at read
        cases read
    | ok found =>
        rw [whole] at read
        cases read
        rfl
  obtain ⟨read, inside⟩ := admitted
  have spent := Token.redeem_store service.engine session token world
  have accepted := @Token.redeem_eq_ok_true_iff service.engine session token world
  rw [checkToken, read]
  dsimp only
  rw [if_pos inside, Action.bind_apply, ← spent, ← accepted]
  generalize Token.redeem service.engine session token world = redeemed
  obtain ⟨answer, after⟩ := redeemed
  cases answer with
  | error refusal =>
      exact ⟨iff_of_false (ne_verdict_true (status_refusalResponse refusal)) (by simp), rfl⟩
  | ok valid =>
      cases valid with
      | false => exact ⟨iff_of_false verdict_false_ne_verdict_true (by simp), rfl⟩
      | true => exact ⟨iff_of_true rfl rfl, rfl⟩

/-- A request to start a session is either answered with another status than 201 and changes nothing,
or records the id that was drawn and hands it out in a cookie. -/
theorem startSession_cases (service : Service) (world : World) :
    ((startSession service world).1.status ≠ 201 ∧
      (startSession service world).2.store = world.store) ∨
    ∃ deadline,
      Store.deadline? world.store.clock service.session.lifetime = some deadline ∧
      (startSession service world).1 =
        (Response.json 201 (Response.success "Session started")).withHeader "set-cookie"
          (Cookie.grant (.next world.entropy) service.session) ∧
      (startSession service world).2.store =
        world.store.write (Session.Id.next world.entropy).storageKey deadline := by
  rw [startSession, Action.bind_apply]
  rcases Session.start_cases service.session.lifetime world with
    ⟨failure, _, refused, kept⟩ | ⟨deadline, range, _, started, written⟩
  · rw [refused]
    have error := le_status_refusalResponse (.store failure)
    refine .inl ⟨?_, ((quiet_refuse (.store failure)).store _).trans kept⟩
    dsimp only
    rw [refuse_fst]
    omega
  · rw [started]
    exact .inr ⟨deadline, range, rfl, written⟩

/-! ## Guarded endpoints -/

namespace Route

/-- A request that changes nothing gets an answer at once, and the answer has no token yet. -/
theorem exists_serveGuarded_eq_pure
    {request : Request}
    (safe : Gate.isSafe request.method = true)
    (endpoint : GuardedEndpoint)
    (id : Session.Id) :
    ∃ response, serveGuarded request endpoint id = pure response ∧
      ∀ token, (Gate.tokenHeader, token) ∉ response.headers := by
  have bare : ∀ token, (Gate.tokenHeader, token) ∉ (Response.bare 405).headers := by
    simp [Response.bare]
  rw [serveGuarded]
  cases endpoint with
  | issue =>
      split
      · refine ⟨_, rfl, ?_⟩
        simp [Response.json, Gate.tokenHeader]
      · exact ⟨_, rfl, bare⟩
  | finish =>
      rw [if_neg]
      · exact ⟨_, rfl, bare⟩
      · intro post
        simp only [GuardedEndpoint.methods, List.contains_cons, List.contains_nil, Bool.or_false,
          beq_iff_eq] at post
        rw [post] at safe
        cases safe

theorem quiet_serveGuarded
    {request : Request}
    (safe : Gate.isSafe request.method = true)
    (endpoint : GuardedEndpoint)
    (id : Session.Id) :
    (serveGuarded request endpoint id).Quiet := by
  obtain ⟨response, served, _⟩ := exists_serveGuarded_eq_pure safe endpoint id
  rw [served]
  exact Action.quiet_pure response

/-- With a method that changes something, only the end of a session is there to ask for. -/
theorem serveGuarded_of_changing
    {request : Request}
    (changes : Gate.isSafe request.method = false)
    {endpoint : GuardedEndpoint}
    (other : ¬ (endpoint = .finish ∧ request.method = "POST"))
    (id : Session.Id) :
    serveGuarded request endpoint id = pure (.bare 405) := by
  rw [serveGuarded, if_neg]
  intro taken
  cases endpoint with
  | issue =>
      simp only [GuardedEndpoint.methods, List.contains_cons, List.contains_nil, Bool.or_false,
        Bool.or_eq_true, beq_iff_eq] at taken
      rcases taken with get | head
      · rw [get] at changes
        cases changes
      · rw [head] at changes
        cases changes
  | finish =>
      simp only [GuardedEndpoint.methods, List.contains_cons, List.contains_nil, Bool.or_false,
        beq_iff_eq] at taken
      exact other ⟨rfl, taken⟩

theorem serveGuarded_finish
    {request : Request}
    (post : request.method = "POST")
    (id : Session.Id) :
    serveGuarded request .finish id = endSession id := by
  rw [serveGuarded, post]
  rfl

end Route

/-- A sound store ends a session and says so. -/
theorem endSession_of_sound
    (id : Session.Id)
    {world : World}
    (sound : world.store.condition = .sound) :
    (endSession id world).1.status = 200 ∧
      (endSession id world).2.store = (world.store.perform (.remove id.storageKey)).2 := by
  have ended := Session.finish_of_sound id sound
  have removed := Session.finish_store id world
  rw [endSession, Action.bind_apply]
  generalize Session.finish id world = result at ended removed ⊢
  obtain ⟨answer, after⟩ := result
  dsimp only at ended removed
  subst ended
  exact ⟨rfl, removed⟩

/-! ## The whole service -/

theorem status_noteMethods (route : Route) (method : String) (response : Response) :
    (route.noteMethods method response).status = response.status := by
  rw [Route.noteMethods]
  split <;> rfl

theorem handle_of_none
    (service : Service)
    {request : Request}
    (none : Route.ofPath? request.path = none)
    (world : World) :
    (handle service request world).2.store = world.store := by
  rw [handle, none]
  rfl

/-- What happens after an endpoint has answered changes the headers and the body only. -/
theorem handle_of_some
    (service : Service)
    {request : Request}
    {route : Route}
    (known : Route.ofPath? request.path = some route)
    (world : World) :
    (handle service request world).2.store = (route.serve service request world).2.store ∧
      (handle service request world).1.status = (route.serve service request world).1.status := by
  rw [handle, known]
  refine ⟨rfl, ?_⟩
  simp only [Action.bind_apply, Action.pure_apply]
  split
  · exact status_noteMethods ..
  · exact status_noteMethods ..

/-- The answer of an endpoint that takes only `POST` reaches the client as it is. -/
theorem handle_of_post
    (service : Service)
    {request : Request}
    {endpoint : PublicEndpoint}
    (known : Route.ofPath? request.path = some (.free endpoint))
    (post : request.method = "POST")
    (world : World) :
    handle service request world = endpoint.serve service request world := by
  have taken : endpoint.methods.contains request.method = true := by
    rw [post]
    rfl
  have get : (request.method == "HEAD") = false := by
    rw [post]
    rfl
  have serve : (Route.free endpoint).serve service request = endpoint.serve service request :=
    if_pos taken
  have note : ∀ response, (Route.free endpoint).noteMethods request.method response = response :=
    fun response => if_pos taken
  rw [handle, known]
  simp only [Action.bind_apply, Action.pure_apply, get, serve, note, Bool.false_eq_true, if_false]
  rfl

/-- An open path takes one method; another is told so and changes nothing. -/
theorem handle_of_ne_post
    (service : Service)
    {request : Request}
    {endpoint : PublicEndpoint}
    (known : Route.ofPath? request.path = some (.free endpoint))
    (other : request.method ≠ "POST")
    (world : World) :
    (handle service request world).2.store = world.store ∧
      (handle service request world).1.status = 405 := by
  have taken : endpoint.methods.contains request.method = false := by
    simpa [PublicEndpoint.methods] using other
  obtain ⟨store, status⟩ := handle_of_some service known world
  rw [store, status, Route.serve, taken]
  exact ⟨rfl, rfl⟩

/-- Only a store in sound condition finds a session and then accepts a token. -/
theorem sound_of_found_of_accepted
    {engine : Token.Engine}
    {id : Session.Id}
    {session token : String}
    {now : Seconds}
    {store : Store}
    (found : Session.isFound id store = true)
    (accepted : (engine.check session token now store).1 = .ok true) :
    store.condition = .sound :=
  (Token.Engine.condition_of_accepted accepted).resolve_right
    (Session.condition_ne_blind_of_isFound found)

theorem effect_of_check
    {service : Service}
    {request : Request}
    (known : Route.ofPath? request.path = some (.free .check))
    (world : World) :
    Effect service request world (handle service request world).1
      (handle service request world).2.store := by
  by_cases post : request.method = "POST"
  · rw [handle_of_post service known post]
    cases stated : statedCheck? request with
    | none =>
        obtain ⟨silent, kept⟩ := @checkToken_of_none service _ stated world
        rw [show PublicEndpoint.check.serve service request world = checkToken service request world
          from rfl, kept]
        refine .idle _ ?_ ?_
        · rw [acceptedToken?, known]
          exact if_neg silent
        · intro attempt asked
          rw [attempt?, known] at asked
          simp [stated] at asked
    | some pair =>
        obtain ⟨session, token⟩ := pair
        obtain ⟨told, spent⟩ := @checkToken_of_some service _ _ _ stated world
        rw [show PublicEndpoint.check.serve service request world = checkToken service request world
          from rfl, spent]
        have attempted : attempt? request world = some ⟨session, token, world.wall⟩ := by
          rw [attempt?, known]
          simp [stated, post]
        by_cases accepted :
            (service.engine.check session token world.wall world.store).1 = .ok true
        · refine .accepted _ ⟨session, token, world.wall⟩ attempted ?_ accepted
          rw [acceptedToken?, known]
          simp [told.mpr accepted, stated]
        · rw [Token.Engine.check_store_of_ne accepted]
          refine .idle _ ?_ ?_
          · rw [acceptedToken?, known]
            exact if_neg fun said => accepted (told.mp said)
          · rw [attempted]
            rintro _ ⟨⟩
            exact accepted
  · obtain ⟨kept, status⟩ := handle_of_ne_post service known post world
    rw [kept]
    refine .idle _ ?_ ?_
    · rw [acceptedToken?, known]
      exact if_neg (ne_verdict_true (by rw [status]; decide))
    · intro attempt asked
      rw [attempt?, known] at asked
      simp [post] at asked

theorem acceptedToken?_of_stopped
    {request : Request}
    {endpoint : GuardedEndpoint}
    (known : Route.ofPath? request.path = some (.guarded endpoint))
    {response : Response}
    (stopped : Gate.isPassed response = false) :
    acceptedToken? request response = none := by
  rw [acceptedToken?, known]
  simp [stopped]

/-- A gate that lets a changing request pass has accepted the token that it shows. -/
theorem acceptedToken?_of_passed
    {request : Request}
    {endpoint : GuardedEndpoint}
    (known : Route.ofPath? request.path = some (.guarded endpoint))
    (changes : Gate.isSafe request.method = false)
    {response : Response}
    (passed : Gate.isPassed response = true) :
    acceptedToken? request response = Gate.shownToken? request := by
  rw [acceptedToken?, known]
  simp [changes, passed]

/-- A changing request of a session that is found tries the token that it shows. -/
theorem attempt?_of_found
    {request : Request}
    {endpoint : GuardedEndpoint}
    (known : Route.ofPath? request.path = some (.guarded endpoint))
    (changes : Gate.isSafe request.method = false)
    {world : World}
    {id : Session.Id}
    (found : Gate.foundSession? request world.store = some id)
    {token : String}
    (shown : Gate.shownToken? request = some token) :
    attempt? request world = some ⟨id.text, token, world.wall⟩ := by
  rw [attempt?, known]
  simp [changes, found, shown]

theorem effect_of_safe
    {service : Service}
    {request : Request}
    {endpoint : GuardedEndpoint}
    (known : Route.ofPath? request.path = some (.guarded endpoint))
    (safe : Gate.isSafe request.method = true)
    (world : World) :
    Effect service request world (handle service request world).1
      (handle service request world).2.store := by
  have quiet : ∀ id, (Gate.token service id request
      (Route.serveGuarded request endpoint id)).Quiet := by
    intro id
    rw [Gate.token, if_pos safe]
    exact (Route.quiet_serveGuarded safe endpoint id).bind fun response =>
      Gate.quiet_attachToken service id response
  have kept : (handle service request world).2.store = world.store := by
    rw [(handle_of_some service known world).1, Route.serve]
    rcases Gate.session_cases request _ world with ⟨_, _, same⟩ | ⟨id, after, _, store, _, passed⟩
    · exact same
    · rw [passed, (quiet id).store, store]
  rw [kept]
  refine .idle _ ?_ ?_
  · rw [acceptedToken?, known]
    simp [safe]
  · intro attempt asked
    rw [attempt?, known] at asked
    simp [safe] at asked

/-- A request that may change something is stopped at a gate, or goes on to the endpoint with the token
of its session spent. -/
theorem handle_changing_cases
    (service : Service)
    {request : Request}
    {endpoint : GuardedEndpoint}
    (known : Route.ofPath? request.path = some (.guarded endpoint))
    (changes : Gate.isSafe request.method = false)
    (world : World) :
    (Gate.isPassed (handle service request world).1 = false ∧
      (handle service request world).2.store = world.store ∧
      ∀ attempt, attempt? request world = some attempt →
        (attempt.check service.engine world.store).1 ≠ .ok true) ∨
    ∃ id token after,
      Gate.foundSession? request world.store = some id ∧
      Gate.shownToken? request = some token ∧
      (service.engine.check id.text token world.wall world.store).1 = .ok true ∧
      after.store = (service.engine.check id.text token world.wall world.store).2 ∧
      (handle service request world).1.status =
        (Route.serveGuarded request endpoint id after).1.status ∧
      (handle service request world).2.store =
        (Route.serveGuarded request endpoint id after).2.store := by
  obtain ⟨store, status⟩ := handle_of_some service known world
  rw [store, status, Gate.isPassed, status, ← Gate.isPassed, Route.serve]
  rcases Gate.session_cases request
      (fun id => Gate.token service id request (Route.serveGuarded request endpoint id)) world with
    ⟨missing, stopped, kept⟩ | ⟨id, after, found, afterStore, afterWall, passed⟩
  · refine .inl ⟨stopped, kept, ?_⟩
    intro attempt asked
    rw [attempt?, known] at asked
    simp [changes, missing] at asked
  · rw [passed, Gate.token, if_neg (by simp [changes])]
    rcases Gate.demandToken_cases service id request (Route.serveGuarded request endpoint id) after
      with ⟨refused, stopped, kept⟩ | ⟨token, spent, shown, accepted, spentStore, passed⟩
    · refine .inl ⟨stopped, kept.trans afterStore, ?_⟩
      intro attempt asked
      cases shown : Gate.shownToken? request with
      | none =>
          rw [attempt?, known] at asked
          simp [changes, found, shown] at asked
      | some token =>
          rw [attempt?_of_found known changes found shown] at asked
          cases asked
          have stopped := refused token shown
          rwa [afterStore, afterWall] at stopped
    · rw [afterStore, afterWall] at accepted spentStore
      rw [passed]
      exact .inr ⟨id, token, spent, found, shown, accepted, spentStore, rfl, rfl⟩

/-- A request to end a session is stopped at a gate, or spends its token, ends its session and is
answered with 200. -/
theorem handle_finish_cases
    (service : Service)
    {request : Request}
    (known : Route.ofPath? request.path = some (.guarded .finish))
    (post : request.method = "POST")
    (world : World) :
    (Gate.isPassed (handle service request world).1 = false ∧
      (handle service request world).2.store = world.store ∧
      ∀ attempt, attempt? request world = some attempt →
        (attempt.check service.engine world.store).1 ≠ .ok true) ∨
    ∃ id token,
      Gate.foundSession? request world.store = some id ∧
      Gate.shownToken? request = some token ∧
      (service.engine.check id.text token world.wall world.store).1 = .ok true ∧
      (handle service request world).1.status = 200 ∧
      (handle service request world).2.store =
        ((service.engine.check id.text token world.wall world.store).2.perform
          (.remove id.storageKey)).2 := by
  rcases handle_changing_cases service known (Gate.isSafe_of_post post) world with
    stopped | ⟨id, token, after, found, shown, accepted, spent, status, store⟩
  · exact .inl stopped
  · have sound : after.store.condition = .sound := by
      rw [spent, Token.Engine.check_condition]
      exact sound_of_found_of_accepted (Gate.foundSession?_eq_some_iff.mp found).2 accepted
    obtain ⟨ok, removed⟩ := endSession_of_sound id sound
    rw [Route.serveGuarded_finish post] at status store
    rw [status, store, removed, spent]
    exact .inr ⟨id, token, found, shown, accepted, ok, rfl⟩

/-- A guarded request that changes something spends its token and may end its session. -/
theorem effect_of_changing
    {service : Service}
    {request : Request}
    {endpoint : GuardedEndpoint}
    (known : Route.ofPath? request.path = some (.guarded endpoint))
    (changes : Gate.isSafe request.method = false)
    (world : World) :
    Effect service request world (handle service request world).1
      (handle service request world).2.store := by
  by_cases ends : endpoint = .finish ∧ request.method = "POST"
  · obtain ⟨rfl, post⟩ := ends
    rcases handle_finish_cases service known post world with
      ⟨stopped, kept, refused⟩ | ⟨id, token, found, shown, accepted, ok, removed⟩
    · rw [kept]
      exact .idle _ (acceptedToken?_of_stopped known stopped) refused
    · rw [removed]
      exact .ended _ id token known post found shown accepted ok
  · rcases handle_changing_cases service known changes world with
      ⟨stopped, kept, refused⟩ | ⟨id, token, after, found, shown, accepted, spent, status, store⟩
    · rw [kept]
      exact .idle _ (acceptedToken?_of_stopped known stopped) refused
    · rw [Route.serveGuarded_of_changing changes ends] at status store
      have passed : Gate.isPassed (handle service request world).1 = true := by
        rw [Gate.isPassed, status]
        rfl
      have told := (acceptedToken?_of_passed known changes passed).trans shown
      rw [show (handle service request world).2.store = _ from store.trans spent]
      exact .accepted _ ⟨id.text, token, world.wall⟩ (attempt?_of_found known changes found shown)
        told accepted

theorem effect_of_free
    {service : Service}
    {request : Request}
    {endpoint : PublicEndpoint}
    (known : Route.ofPath? request.path = some (.free endpoint))
    (other : endpoint ≠ .check)
    (world : World) :
    Effect service request world (handle service request world).1
      (handle service request world).2.store := by
  have idle : ∀ response, Effect service request world response world.store := by
    intro response
    refine .idle response ?_ ?_
    · cases endpoint with
      | check => exact absurd rfl other
      | create => rw [acceptedToken?, known]
      | start => rw [acceptedToken?, known]
    · intro attempt asked
      rw [attempt?, known] at asked
      cases endpoint with
      | check => exact absurd rfl other
      | create => cases asked
      | start => cases asked
  by_cases post : request.method = "POST"
  · rw [handle_of_post service known post]
    cases endpoint with
    | check => exact absurd rfl other
    | create =>
        have kept : (PublicEndpoint.create.serve service request world).2.store = world.store :=
          (quiet_createToken service request).store world
        rw [kept]
        exact idle _
    | start =>
        rcases startSession_cases service world with
          ⟨_, kept⟩ | ⟨deadline, range, _, written⟩
        · have kept : (PublicEndpoint.start.serve service request world).2.store = world.store :=
            kept
          rw [kept]
          exact idle _
        · have written : (PublicEndpoint.start.serve service request world).2.store =
              world.store.write (Session.Id.next world.entropy).storageKey deadline :=
            written
          rw [written]
          exact .started _ _ deadline known post range
  · rw [(handle_of_ne_post service known post world).1]
    exact idle _

/-- Every request has one of the effects. -/
theorem handle_effect (service : Service) (request : Request) (world : World) :
    Effect service request world (handle service request world).1
      (handle service request world).2.store := by
  cases known : Route.ofPath? request.path with
  | none =>
      rw [handle_of_none service known]
      refine .idle _ (by rw [acceptedToken?, known]) ?_
      intro attempt asked
      rw [attempt?, known] at asked
      cases asked
  | some route =>
      cases route with
      | guarded endpoint =>
          cases method : Gate.isSafe request.method with
          | true => exact effect_of_safe known method world
          | false => exact effect_of_changing known method world
      | free endpoint =>
          by_cases check : endpoint = .check
          · subst check
            exact effect_of_check known world
          · exact effect_of_free known check world

end Http
end AntiForgery
