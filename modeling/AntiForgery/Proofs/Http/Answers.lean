import AntiForgery.Proofs.Drawing
import AntiForgery.Proofs.Http.Breakdown
import AntiForgery.Proofs.Http.Effect

/-!
# What answers are made of

An endpoint or a gate that draws no random bytes gives one of a few answers.  The others are those with
a token, in the body or in a header, and the one with the cookie of a new session.  On its way out an
answer may lose its body and get a header with the methods that would have been right.
-/

namespace AntiForgery

/-- What follows the desk goes on with what was minted. -/
theorem Token.exists_bind_issue
    (engine : Engine)
    (session : String)
    (issued : Seconds)
    (next : Except Refusal String → Action α)
    (world : World) :
    ∃ after, after.entropy = (engine.mint session issued world.entropy).2 ∧
      (issue engine session issued >>= next) world =
        next ((engine.mint session issued world.entropy).1.mapError fun error =>
          .encryption error.message) after :=
  ⟨_, issue_entropy engine session issued world, by rw [Action.bind_apply, issue_fst]⟩

namespace Http

/-! ## Answers of actions that draw nothing -/

/-- The answers that are given without drawing anything. -/
inductive Routine : Response → Prop
  | bare (status : Nat) : Routine (.bare status)
  | refused (refusal : Refusal) : Routine (refusalResponse refusal)
  | faulty (fault : Body.Fault) : Routine fault.response
  | judged (valid : Bool) : Routine (verdict valid)
  | issued : Routine (.json 200 (Response.success "CSRF token issued"))
  | ended (wall : Seconds) :
      Routine ((Response.json 200 (Response.success "Session ended")).withHeader "set-cookie"
        (Cookie.revoke wall))

/-- The action draws nothing and gives one of these answers. -/
def Plain (action : Action Response) : Prop :=
  ∀ world, (action world).2.entropy = world.entropy ∧ Routine (action world).1

theorem plain_pure {response : Response} (routine : Routine response) : Plain (pure response) :=
  fun _ => ⟨rfl, routine⟩

/-- What comes after a dry action makes the answer plain. -/
theorem plain_bind
    {action : Action α}
    {next : α → Action Response}
    (dry : action.Dry)
    (plain : ∀ value, Plain (next value)) :
    Plain (action >>= next) := by
  intro world
  obtain ⟨kept, routine⟩ := plain (action world).1 (action world).2
  exact ⟨kept.trans (dry world), routine⟩

theorem plain_refuse (refusal : Refusal) : Plain (refuse refusal) :=
  plain_bind (Action.dry_log _ _) fun _ => plain_pure (.refused refusal)

theorem plain_checkToken (service : Service) (request : Request) :
    Plain (checkToken service request) := by
  rw [checkToken]
  cases Body.read Body.sessionField Body.tokenField request with
  | error fault => exact plain_pure (.faulty fault)
  | ok stated =>
      dsimp only
      split
      · refine plain_bind (Token.dry_redeem _ _ _) fun redeemed => ?_
        cases redeemed with
        | error refusal => exact plain_refuse refusal
        | ok valid => exact plain_pure (.judged valid)
      · exact plain_bind (Action.dry_log _ _) fun _ => plain_pure (.judged false)

theorem plain_endSession (id : Session.Id) : Plain (endSession id) := by
  refine plain_bind (Session.dry_finish id) fun ended => ?_
  cases ended with
  | error refusal => exact plain_refuse refusal
  | ok _ => exact plain_bind Action.dry_now fun wall => plain_pure (.ended wall)

/-- Behind both gates nothing is drawn. -/
theorem plain_serveGuarded (request : Request) (endpoint : GuardedEndpoint) (id : Session.Id) :
    Plain (Route.serveGuarded request endpoint id) := by
  rw [Route.serveGuarded]
  split
  · cases endpoint with
    | issue => exact plain_pure .issued
    | finish => exact plain_endSession id
  · exact plain_pure (.bare 405)

/-! ## The gates -/

namespace Gate

/-- The second gate draws nothing where it asks for a token. -/
theorem plain_demandToken
    (service : Service)
    (id : Session.Id)
    (request : Request)
    {inner : Action Response}
    (plain : Plain inner) :
    Plain (demandToken service id request inner) := by
  refine plain_bind (presentedToken_of_closed Action.closed_dry request) fun presented => ?_
  cases presented with
  | error refusal => exact plain_refuse refusal
  | ok token =>
      dsimp only
      cases Admission.token token with
      | error refusal => exact plain_bind (Action.dry_log _ _) fun _ => plain_refuse _
      | ok _ =>
          refine plain_bind (Token.dry_redeem _ _ _) fun redeemed => ?_
          cases redeemed with
          | error refusal => exact plain_refuse refusal
          | ok valid =>
              cases valid with
              | false => exact plain_refuse _
              | true => exact plain

theorem plain_session
    (request : Request)
    {inner : Session.Id → Action Response}
    (plain : ∀ id, Plain (inner id)) :
    Plain (session request inner) := by
  have turned : ∀ level message status,
      Plain (Action.log level message >>= fun _ => pure (Response.bare status)) :=
    fun level message status =>
      plain_bind (Action.dry_log level message) fun _ => plain_pure (.bare status)
  refine plain_bind (Action.dry_log _ _) fun _ => ?_
  cases Cookie.session? request with
  | none => exact turned _ _ _
  | some id =>
      refine plain_bind (Session.dry_isLive id) fun live => ?_
      cases live with
      | error refusal => exact turned _ _ _
      | ok valid =>
          cases valid with
          | false => exact turned _ _ _
          | true => exact plain_bind (Action.dry_log _ _) fun _ => plain id

/-- A request whose session the store does not find is stopped at the first gate, and nothing is changed
but the journal. -/
theorem session_of_missing
    {request : Request}
    {world : World}
    (missing : foundSession? request world.store = none)
    (inner : Session.Id → Action Response) :
    ∃ status journal, (status = 403 ∨ status = 500) ∧
      session request inner world = (.bare status, { world with journal }) := by
  rw [session, Action.bind_apply]
  cases cookie : Cookie.session? request with
  | none => exact ⟨403, _, .inl rfl, rfl⟩
  | some id =>
      obtain ⟨answer, looked⟩ : ∃ answer,
          world.store.perform (.lookUp id.storageKey) = (answer, world.store) :=
        ⟨_, Prod.ext rfl (Store.perform_lookUp_store world.store id.storageKey)⟩
      simp only [Session.isLive, Action.bind_apply, Action.ask, Action.log, looked]
      cases answer with
      | error failure => exact ⟨500, _, .inr rfl, rfl⟩
      | ok presence =>
          cases presence with
          | absent => exact ⟨403, _, .inl rfl, rfl⟩
          | present => simp [foundSession?, cookie, Session.isFound, looked] at missing

/-- A request whose session the store finds passes the first gate, and nothing is changed but the
journal. -/
theorem session_of_found
    {request : Request}
    {world : World}
    {id : Session.Id}
    (found : foundSession? request world.store = some id)
    (inner : Session.Id → Action Response) :
    ∃ journal, session request inner world = inner id { world with journal } := by
  obtain ⟨cookie, there⟩ := foundSession?_eq_some_iff.mp found
  obtain ⟨answer, looked⟩ : ∃ answer,
      world.store.perform (.lookUp id.storageKey) = (answer, world.store) :=
    ⟨_, Prod.ext rfl (Store.perform_lookUp_store world.store id.storageKey)⟩
  have present : answer = .ok .present := by
    rw [Session.isFound, looked] at there
    cases answer with
    | error failure => cases there
    | ok presence =>
        cases presence with
        | absent => cases there
        | present => rfl
  subst present
  rw [session, Action.bind_apply, cookie]
  simp only [Session.isLive, Action.bind_apply, Action.ask, Action.log, looked]
  exact ⟨_, rfl⟩

end Gate

/-! ## Answers with a token -/

/-- A token is told in the body of the answer unless none was minted. -/
theorem createToken_cases
    {service : Service}
    {request : Request}
    {session : String}
    {issued : Option Seconds}
    (read : Body.read Body.sessionField Body.issuedField request = .ok (session, issued))
    (admitted : Admission.sessionId session = .ok ())
    (world : World) :
    ((∃ error,
        (service.engine.mint session (issued.getD world.wall) world.entropy).1 = .error error ∧
          (createToken service request world).1 = refusalResponse (.encryption error.message)) ∨
      ∃ token, (service.engine.mint session (issued.getD world.wall) world.entropy).1 = .ok token ∧
        (createToken service request world).1 =
          .json 200 (Response.member "token" (Json.quote token))) ∧
      (createToken service request world).2.entropy =
        (service.engine.mint session (issued.getD world.wall) world.entropy).2 := by
  rw [createToken, read]
  simp only [admitted]
  rw [Action.bind_apply, Action.now]
  obtain ⟨after, left, told⟩ := Token.exists_bind_issue service.engine session
    (issued.getD world.wall) _ world
  rw [told, ← left]
  cases minted : (service.engine.mint session (issued.getD world.wall) world.entropy).1 with
  | error error => exact ⟨.inl ⟨error, rfl, rfl⟩, rfl⟩
  | ok token => exact ⟨.inr ⟨token, rfl, rfl⟩, rfl⟩

/-- A token is added to an answer unless none was minted. -/
theorem Gate.attachToken_cases
    (service : Service)
    (id : Session.Id)
    (response : Response)
    (world : World) :
    ((∃ error, (service.engine.mint id.text world.wall world.entropy).1 = .error error ∧
        (attachToken service id response world).1 = refusalResponse (.encryption error.message)) ∨
      ∃ token, (service.engine.mint id.text world.wall world.entropy).1 = .ok token ∧
        (attachToken service id response world).1 = response.withHeader tokenHeader token) ∧
      (attachToken service id response world).2.entropy =
        (service.engine.mint id.text world.wall world.entropy).2 := by
  rw [attachToken, Action.bind_apply, Action.now]
  obtain ⟨after, left, told⟩ := Token.exists_bind_issue service.engine id.text world.wall _ world
  rw [told, ← left]
  cases minted : (service.engine.mint id.text world.wall world.entropy).1 with
  | error error => exact ⟨.inl ⟨error, rfl, rfl⟩, rfl⟩
  | ok token =>
      simp only [Except.mapError]
      rw [if_pos (isHeaderValue_of_isVisible (isVisible_of_mint minted))]
      exact ⟨.inr ⟨token, rfl, rfl⟩, rfl⟩

/-- The values of the headers of a name in lower case, in order. -/
def Response.values (name : String) (response : Response) : List String :=
  (response.headers.filter fun header => header.1 == name).map (·.2)

/-! ## What happens to an answer on its way out -/

namespace Route

/-- The answer of an endpoint as it leaves the service. -/
def dress (route : Route) (method : String) (response : Response) : Response :=
  if method == "HEAD" then (route.noteMethods method response).withoutBody
  else route.noteMethods method response

theorem status_dress (route : Route) (method : String) (response : Response) :
    (route.dress method response).status = response.status := by
  rw [dress]
  split <;> exact status_noteMethods ..

/-- On its way out an answer keeps its body or loses it. -/
theorem body_dress (route : Route) (method : String) (response : Response) :
    (route.dress method response).body = response.body ∨
      (route.dress method response).body = [] := by
  rw [dress, noteMethods]
  split
  · exact .inr rfl
  · split <;> exact .inl rfl

/-- On its way out an answer keeps its headers, apart from the one that names the methods. -/
theorem mem_headers_dress
    {route : Route}
    {method : String}
    {response : Response}
    {name value : String}
    (different : name ≠ "allow") :
    (name, value) ∈ (route.dress method response).headers ↔ (name, value) ∈ response.headers := by
  have noted : (name, value) ∈ (route.noteMethods method response).headers ↔
      (name, value) ∈ response.headers := by
    rw [noteMethods]
    split
    · rfl
    · simp [Response.withHeader, different]
  rw [dress]
  split
  · exact noted
  · exact noted

end Route

/-! ## Whole requests -/

section Handle

variable (service : Service) {request : Request}

theorem handle_of_route
    {route : Route}
    (known : Route.ofPath? request.path = some route)
    (world : World) :
    handle service request world =
      (route.dress request.method (route.serve service request world).1,
        (route.serve service request world).2) := by
  rw [handle, known]
  rfl

/-- An unknown path is not found, and nothing happens. -/
theorem handle_of_unknown (unknown : Route.ofPath? request.path = none) (world : World) :
    handle service request world = (.bare 404, world) := by
  rw [handle, unknown]
  simp only [Action.bind_apply, Action.pure_apply]
  split <;> rfl

theorem plain_of_ne_post (other : request.method ≠ "POST") (endpoint : PublicEndpoint) :
    Plain ((Route.free endpoint).serve service request) := by
  rw [Route.serve, if_neg (by simpa [PublicEndpoint.methods] using other)]
  exact plain_pure (.bare 405)

theorem plain_of_changing
    (changes : Gate.isSafe request.method = false)
    (endpoint : GuardedEndpoint) :
    Plain ((Route.guarded endpoint).serve service request) := by
  refine Gate.plain_session request fun id => ?_
  rw [Gate.token, if_neg (by simp [changes])]
  exact Gate.plain_demandToken service id request (plain_serveGuarded request endpoint id)

variable {endpoint : GuardedEndpoint} (known : Route.ofPath? request.path = some (.guarded endpoint))
include known

/-- A request without a session that the store finds gets nothing from a guarded endpoint. -/
theorem handle_of_missing
    {world : World}
    (missing : Gate.foundSession? request world.store = none) :
    ∃ status journal, (status = 403 ∨ status = 500) ∧
      handle service request world =
        ((Route.guarded endpoint).dress request.method (.bare status), { world with journal }) := by
  obtain ⟨status, journal, refused, stopped⟩ := Gate.session_of_missing missing fun id =>
    Gate.token service id request (Route.serveGuarded request endpoint id)
  refine ⟨status, journal, refused, ?_⟩
  rw [handle_of_route service known, Route.serve, stopped]

/-- A request of a session that changes nothing has a token added to the answer of the endpoint. -/
theorem handle_of_found
    (safe : Gate.isSafe request.method = true)
    {world : World}
    {id : Session.Id}
    (found : Gate.foundSession? request world.store = some id)
    {response : Response}
    (served : Route.serveGuarded request endpoint id = pure response) :
    ∃ journal,
      handle service request world =
        ((Route.guarded endpoint).dress request.method
            (Gate.attachToken service id response { world with journal }).1,
          (Gate.attachToken service id response { world with journal }).2) := by
  obtain ⟨journal, passed⟩ := Gate.session_of_found found fun id =>
    Gate.token service id request (Route.serveGuarded request endpoint id)
  refine ⟨journal, ?_⟩
  rw [handle_of_route service known, Route.serve, passed, Gate.token, if_pos safe, served, pure_bind]

end Handle

/-- What a guarded endpoint answers to a request that changes nothing. -/
theorem Route.exists_routine
    {request : Request}
    (safe : Gate.isSafe request.method = true)
    (endpoint : GuardedEndpoint)
    (id : Session.Id)
    (world : World) :
    ∃ response, serveGuarded request endpoint id = pure response ∧ Routine response := by
  obtain ⟨response, served, _⟩ := exists_serveGuarded_eq_pure safe endpoint id
  have plain := (plain_serveGuarded request endpoint id world).2
  rw [served] at plain
  exact ⟨response, served, plain⟩

/-! ## Every answer -/

/-- The answers that endpoints give behind what stands in front of them. -/
inductive Given : Response → Prop
  | routine {response : Response} (routine : Routine response) : Given response
  | told (token : String) : Given (.json 200 (Response.member "token" (Json.quote token)))
  | started (cookie : String) :
      Given ((Response.json 201 (Response.success "Session started")).withHeader "set-cookie" cookie)
  | carrying
      {response : Response}
      (routine : Routine response)
      (fine : response.status ≠ 500)
      (token : String) :
      Given (response.withHeader Gate.tokenHeader token)

section Every

variable (service : Service) (request : Request) (world : World)

theorem given_createToken : Given (createToken service request world).1 := by
  cases read : Body.read Body.sessionField Body.issuedField request with
  | error fault =>
      rw [createToken, read]
      exact .routine (.faulty fault)
  | ok stated =>
      cases admitted : Admission.sessionId stated.1 with
      | error refusal =>
          rw [createToken, read]
          simp only [admitted]
          exact .routine (plain_refuse refusal world).2
      | ok _ =>
          rcases (@createToken_cases service _ _ _ read admitted world).1 with
            ⟨_, _, refused⟩ | ⟨token, _, told⟩
          · rw [refused]
            exact .routine (.refused _)
          · rw [told]
            exact .told token

theorem given_startSession : Given (startSession service world).1 := by
  rw [startSession, Action.bind_apply]
  cases (Session.start service.session.lifetime world).1 with
  | error refusal => exact .routine (plain_refuse refusal _).2
  | ok id => exact .started _

/-- An open endpoint gives one of the answers of the service. -/
theorem given_free (endpoint : PublicEndpoint) :
    Given ((Route.free endpoint).serve service request world).1 := by
  rw [Route.serve]
  split
  · cases endpoint with
    | create => exact given_createToken service request world
    | check => exact .routine (plain_checkToken service request world).2
    | start => exact given_startSession service world
  · exact .routine (.bare 405)

theorem given_guarded (endpoint : GuardedEndpoint) :
    Given ((Route.guarded endpoint).serve service request world).1 := by
  cases safe : Gate.isSafe request.method with
  | false => exact .routine (plain_of_changing service safe endpoint world).2
  | true =>
      rw [Route.serve]
      cases found : Gate.foundSession? request world.store with
      | none =>
          obtain ⟨status, _, _, stopped⟩ := Gate.session_of_missing found fun id =>
            Gate.token service id request (Route.serveGuarded request endpoint id)
          rw [stopped]
          exact .routine (.bare status)
      | some id =>
          obtain ⟨journal, passed⟩ := Gate.session_of_found found fun id =>
            Gate.token service id request (Route.serveGuarded request endpoint id)
          obtain ⟨response, served, routine⟩ := Route.exists_routine safe endpoint id world
          have fine := @Route.status_serveGuarded_of_safe request world safe endpoint id
          rw [passed, Gate.token, if_pos safe, served, pure_bind]
          rw [served] at fine
          rcases (Gate.attachToken_cases service id response { world with journal }).1 with
            ⟨_, _, refused⟩ | ⟨token, _, added⟩
          · rw [refused]
            exact .routine (.refused _)
          · rw [added]
            exact .carrying routine fine token

/-- Every request is answered with one of these answers, which may be changed on its way out. -/
theorem handle_given :
    (Route.ofPath? request.path = none ∧ (handle service request world).1 = .bare 404) ∨
    ∃ route response, Route.ofPath? request.path = some route ∧ Given response ∧
      (handle service request world).1 = route.dress request.method response := by
  cases known : Route.ofPath? request.path with
  | none =>
      rw [handle_of_unknown service known]
      exact .inl ⟨rfl, rfl⟩
  | some route =>
      rw [handle_of_route service known world]
      refine .inr ⟨route, _, rfl, ?_, rfl⟩
      cases route with
      | free endpoint => exact given_free service request world endpoint
      | guarded endpoint => exact given_guarded service request world endpoint

end Every

end Http
end AntiForgery
