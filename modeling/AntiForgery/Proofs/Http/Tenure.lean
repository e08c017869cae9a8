import AntiForgery.Proofs.Http.Sessions
import AntiForgery.Proofs.Http.Admittance

/-!
# What answers tell about sessions

An answer with status 201 tells that a session was started, and one with status 200 at the end of a
session that it was ended.  The record of a session does what the answers tell: it is written when the
session is started, it is removed when the session is ended, and no other request touches it.
-/

namespace AntiForgery

/-- What becomes of the record of a session, if at most one session is said to have been started, and
at most one to have been ended. -/
structure Session.Accounts
    (started? ended? : Option Session.Id)
    (lifetime : Nat)
    (before after : Store)
    (id : Session.Id) : Prop where
  started : started? = some id →
    after.Holds id.storageKey (some (before.clock + 1000 * lifetime))
  ended : ended? = some id → after.Holds id.storageKey none
  kept : started? ≠ some id → ended? ≠ some id → Store.Keeps id.storageKey before after

/-- A step that leaves the key of a session alone accounts for it by starting and ending nothing. -/
theorem Session.accounts_of_keeps
    {lifetime : Nat}
    {before after : Store}
    {id : Session.Id}
    (keeps : Store.Keeps id.storageKey before after) :
    Session.Accounts none none lifetime before after id :=
  ⟨nofun, nofun, fun _ _ => keeps⟩

namespace Http

/-- The session that an answer says was started, which has the id that was drawn for it. -/
def startedSession? (request : Request) (world : World) (response : Response) :
    Option Session.Id :=
  if request.method = "POST" ∧ request.path = "/api/session" ∧ response.status = 201 then
    some (.next world.entropy)
  else none

/-- The session that an answer says was ended, which is the one that the request belongs to. -/
def endedSession? (request : Request) (response : Response) : Option Session.Id :=
  if request.method = "POST" ∧ request.path = "/api/session/logout" ∧ response.status = 200 then
    Cookie.session? request
  else none

/-! ## The start of a session -/

/-- What is known of a session that an answer says was started. -/
structure Starts
    (settings : Session.Settings)
    (world : World)
    (response : Response)
    (after : Store)
    (id : Session.Id) : Prop where
  drawn : id = .next world.entropy
  within : world.store.clock / 1000 + settings.lifetime ≤ Store.lastSecond
  written : after =
    world.store.write id.storageKey (world.store.clock + 1000 * settings.lifetime)
  handed : response =
    (Response.json 201 (Response.success "Session started")).withHeader "set-cookie"
      (Cookie.grant id settings)

/-- A request to start a session either starts one and says so, or changes nothing. -/
theorem handle_start_cases
    (service : Service)
    {request : Request}
    (post : request.method = "POST")
    (path : request.path = "/api/session")
    (world : World) :
    (startedSession? request world (handle service request world).1 = none ∧
      (handle service request world).2.store = world.store) ∨
    ∃ id,
      startedSession? request world (handle service request world).1 = some id ∧
      Starts service.session world (handle service request world).1
        (handle service request world).2.store id := by
  have known : Route.ofPath? request.path = some (.free .start) := by
    rw [path]
    rfl
  rw [handle_of_post service known post]
  change (startedSession? request world (startSession service world).1 = none ∧
    (startSession service world).2.store = world.store) ∨ ∃ id,
      startedSession? request world (startSession service world).1 = some id ∧
      Starts service.session world (startSession service world).1
        (startSession service world).2.store id
  rcases startSession_cases service world with
    ⟨failed, kept⟩ | ⟨deadline, range, handed, written⟩
  · refine .inl ⟨?_, kept⟩
    rw [startedSession?, if_neg fun told => failed told.2.2]
  · obtain ⟨within, rfl⟩ := Store.deadline?_eq_some_iff.mp range
    refine .inr ⟨.next world.entropy, ?_, rfl, within, written, handed⟩
    rw [startedSession?, handed, if_pos ⟨post, path, rfl⟩]

/-- A session that an answer grants is recorded by the request. -/
theorem starts_of_started
    {service : Service}
    {request : Request}
    {world : World}
    {id : Session.Id}
    (started : startedSession? request world (handle service request world).1 = some id) :
    Starts service.session world (handle service request world).1
      (handle service request world).2.store id := by
  have told := started
  unfold startedSession? at told
  split at told
  · next asked =>
      rcases handle_start_cases service asked.1 asked.2.1 world with
        ⟨untold, _⟩ | ⟨drawn, own, starts⟩
      · rw [untold] at started
        cases started
      · rw [own] at started
        cases started
        exact starts
  · cases told

/-- The cookie that is handed out is the one that a client sends back, with its attributes behind
it. -/
theorem Cookie.grant_eq (id : Session.Id) (settings : Session.Settings) :
    ∃ attributes, Cookie.grant id settings = Cookie.ofId id ++ "; " ++ attributes := by
  refine ⟨"HttpOnly; SameSite=Lax; " ++ ((if settings.secureCookies then "Secure; " else "") ++
    ("Path=/; Max-Age=" ++ toString settings.lifetime)), ?_⟩
  unfold Cookie.grant Cookie.ofId
  simp only [String.append_assoc]
  rfl

/-! ## The end of a session -/

/-- A request to end a session either ends the one that it belongs to and says so, or changes
nothing. -/
theorem handle_logout_cases
    (service : Service)
    {request : Request}
    (post : request.method = "POST")
    (path : request.path = "/api/session/logout")
    (world : World) :
    (endedSession? request (handle service request world).1 = none ∧
      (handle service request world).2.store = world.store) ∨
    ∃ id token,
      endedSession? request (handle service request world).1 = some id ∧
      (service.engine.check id.text token world.wall world.store).1 = .ok true ∧
      (handle service request world).2.store =
        ((service.engine.check id.text token world.wall world.store).2.perform
          (.remove id.storageKey)).2 := by
  have known : Route.ofPath? request.path = some (.guarded .finish) := by
    rw [path]
    rfl
  rcases handle_finish_cases service known post world with
    ⟨stopped, kept, _⟩ | ⟨id, token, found, _, accepted, ok, removed⟩
  · refine .inl ⟨?_, kept⟩
    rw [endedSession?, if_neg]
    rintro ⟨_, _, ok⟩
    rw [Gate.isPassed, ok] at stopped
    cases stopped
  · refine .inr ⟨id, token, ?_, accepted, removed⟩
    rw [endedSession?, if_pos ⟨post, path, ok⟩]
    exact (Gate.foundSession?_eq_some_iff.mp found).1

/-! ## The record of a session -/

theorem endedSession?_of_path
    {request : Request}
    (path : request.path ≠ "/api/session/logout")
    (response : Response) :
    endedSession? request response = none := by
  rw [endedSession?, if_neg fun told => path told.2.1]

theorem startedSession?_of_path
    {request : Request}
    (path : request.path ≠ "/api/session")
    (world : World)
    (response : Response) :
    startedSession? request world response = none := by
  rw [startedSession?, if_neg fun told => path told.2.1]

section Record

variable (service : Service) {request : Request} {world : World} (id : Session.Id)

/-- The request for a session accounts for every id: it writes the one that it grants and no other. -/
theorem accounts_of_start
    (post : request.method = "POST")
    (path : request.path = "/api/session") :
    Session.Accounts
      (startedSession? request world (handle service request world).1)
      (endedSession? request (handle service request world).1)
      service.session.lifetime world.store (handle service request world).2.store id := by
  have other : request.path ≠ "/api/session/logout" := by
    rw [path]
    decide
  rw [endedSession?_of_path other]
  rcases handle_start_cases service post path world with
    ⟨untold, kept⟩ | ⟨drawn, told, starts⟩
  · rw [untold, kept]
    exact Session.accounts_of_keeps (.refl _ _)
  · rw [told, starts.written]
    refine ⟨?_, nofun, ?_⟩
    · rintro ⟨⟩
      apply Store.holds_write
    · intro different _
      apply Store.Keeps.write
      apply Session.Id.storageKey_ne
      rintro rfl
      exact different rfl

theorem accounts_of_logout
    (post : request.method = "POST")
    (path : request.path = "/api/session/logout")
    (sound : world.store.condition = .sound) :
    Session.Accounts
      (startedSession? request world (handle service request world).1)
      (endedSession? request (handle service request world).1)
      service.session.lifetime world.store (handle service request world).2.store id := by
  have other : request.path ≠ "/api/session" := by
    rw [path]
    decide
  rw [startedSession?_of_path other]
  rcases handle_logout_cases service post path world with
    ⟨untold, kept⟩ | ⟨owner, token, told, accepted, removed⟩
  · rw [untold, kept]
    exact Session.accounts_of_keeps (.refl _ _)
  · rw [told, removed]
    refine ⟨nofun, ?_, ?_⟩
    · rintro ⟨⟩
      apply Store.holds_perform_remove
      rwa [Token.Engine.check_condition]
    · intro _ different
      refine (Effect.keeps_of_check ..).trans (.perform ?_ _)
      apply Session.Id.storageKey_ne
      rintro rfl
      exact different rfl

/-- A request that neither starts nor ends a session touches none. -/
theorem accounts_of_other
    (start : ¬ (request.method = "POST" ∧ request.path = "/api/session"))
    (logout : ¬ (request.method = "POST" ∧ request.path = "/api/session/logout")) :
    Session.Accounts
      (startedSession? request world (handle service request world).1)
      (endedSession? request (handle service request world).1)
      service.session.lifetime world.store (handle service request world).2.store id := by
  rw [startedSession?, if_neg fun told => start ⟨told.1, told.2.1⟩,
    endedSession?, if_neg fun told => logout ⟨told.1, told.2.1⟩]
  apply Session.accounts_of_keeps
  have effect := handle_effect service request world
  generalize (handle service request world).1 = response at effect
  generalize (handle service request world).2.store = after at effect ⊢
  cases effect with
  | idle => exact .refl _ _
  | started drawn deadline route post range =>
      exact absurd ⟨post, Route.path_of_start route⟩ start
  | accepted attempt attempted told accepted => exact Effect.keeps_of_check ..
  | ended owner token route post found shown accepted status =>
      exact absurd ⟨post, Route.path_of_finish route⟩ logout

/-- In a sound store the record of a session does what the answers tell. -/
theorem handle_accounts (sound : world.store.condition = .sound) :
    Session.Accounts
      (startedSession? request world (handle service request world).1)
      (endedSession? request (handle service request world).1)
      service.session.lifetime world.store (handle service request world).2.store id := by
  by_cases start : request.method = "POST" ∧ request.path = "/api/session"
  · exact accounts_of_start service id start.1 start.2
  · by_cases logout : request.method = "POST" ∧ request.path = "/api/session/logout"
    · exact accounts_of_logout service id logout.1 logout.2 sound
    · exact accounts_of_other service id start logout

end Record

/-- A request that the first gate turns away is answered with 403. -/
theorem Gate.TurnsAway.status_handle
    {request : Request}
    {world : World}
    (turnsAway : TurnsAway request world)
    (service : Service)
    {endpoint : GuardedEndpoint}
    (known : Route.ofPath? request.path = some (.guarded endpoint)) :
    (handle service request world).1.status = 403 := by
  obtain ⟨journal, stopped⟩ := turnsAway fun id =>
    token service id request (Route.serveGuarded request endpoint id)
  rw [(handle_of_some service known world).2, Route.serve, stopped]
  rfl

end Http
end AntiForgery
