import AntiForgery.Proofs.Config
import AntiForgery.Proofs.Http.Sessions

/-!
# Tokens that are handed out can be handed in

A token leaves the service in the body of an answer or in a header of it, and comes back in the body
of a request or in a header of that.  Both ways it is the token that was minted, for the same
session id, so it is accepted in its window as long as it is not spent.
-/

namespace AntiForgery

namespace Http

/-! ## Tokens in bodies -/

/-- The answer has the token in its body. -/
def HandsOut (response : Response) (token : String) : Prop :=
  response = .json 200 (Response.member "token" (Json.quote token))

/-- A body that is made for a token hands out that token and no other. -/
theorem handsOut_json_iff {token other : String} :
    HandsOut (.json 200 (Response.member "token" (Json.quote token))) other ↔ token = other := by
  simp only [HandsOut, Response.json, Response.member, Response.mk.injEq, true_and,
    List.append_cancel_left_eq, List.append_cancel_right_eq, Json.quote_inj]

/-- What is handed out is what the engine mints. -/
theorem handsOut_createToken_iff
    {service : Service}
    {request : Request}
    {session : String}
    {issued : Option Seconds}
    (read : Body.read Body.sessionField Body.issuedField request = .ok (session, issued))
    (admitted : Admission.sessionId session = .ok ())
    {world : World}
    {token : String} :
    HandsOut (createToken service request world).1 token ↔
      (service.engine.mint session (issued.getD world.wall) world.entropy).1 = .ok token := by
  have minted := @Token.issue_eq_ok_iff service.engine session token (issued.getD world.wall) world
  rw [← minted, createToken, read]
  simp only [admitted]
  rw [Action.bind_apply, Action.now, Action.bind_apply]
  generalize Token.issue service.engine session (issued.getD world.wall) world = result
  obtain ⟨answer, after⟩ := result
  cases answer with
  | error refusal =>
      refine iff_of_false ?_ (by simp)
      intro handed
      exact status_refusalResponse refusal (congrArg Response.status handed)
  | ok found => simpa using handsOut_json_iff

theorem handsOut_handle_iff
    {service : Service}
    {request : Request}
    (known : Route.ofPath? request.path = some (.free .create))
    (post : request.method = "POST")
    {session : String}
    {issued : Option Seconds}
    (read : Body.read Body.sessionField Body.issuedField request = .ok (session, issued))
    (admitted : Admission.sessionId session = .ok ())
    {world : World}
    {token : String} :
    HandsOut (handle service request world).1 token ↔
      (service.engine.mint session (issued.getD world.wall) world.entropy).1 = .ok token := by
  rw [handle_of_post service known post]
  exact handsOut_createToken_iff read admitted

/-- The request of a client that has a token checked. -/
def checkRequest (session token : String) : Request where
  method := "POST"
  target := "/api/csrf/check"
  headers := [⟨"content-type", Text.utf8 "application/json"⟩]
  body := Json.object "session_id" (Json.quote session) "token" (Json.quote token)

theorem path_checkRequest (session token : String) :
    (checkRequest session token).path = "/api/csrf/check" := by
  have path : String.ofList (Request.pathOf "/api/csrf/check".toList) = "/api/csrf/check" := by
    decide +kernel
  exact path

theorem ofPath?_checkRequest (session token : String) :
    Route.ofPath? (checkRequest session token).path = some (.free .check) := by
  rw [path_checkRequest]
  rfl

/-- The token for a session id that is admitted can be stated together with it. -/
theorem read_checkRequest
    {session token : String}
    (small : Text.byteCount session ≤ 255)
    (short : Text.byteCount token ≤ 4096) :
    Body.read Body.sessionField Body.tokenField (checkRequest session token) =
      .ok (session, token) := by
  have json : Body.isJson (checkRequest session token) = true := by
    have name : ("content-type".toLower == "content-type") = true := by decide +kernel
    have type : (checkRequest session token).value? "content-type" =
        some (Text.utf8 "application/json") := by
      simp only [Request.value?, Request.values, checkRequest, List.filter_cons, name, if_true,
        List.filter_nil, List.map_cons, List.map_nil, List.head?_cons]
    rw [Body.isJson, type]
    decide +kernel
  have sessionLength := Json.length_quote_le session
  have tokenLength := Json.length_quote_le token
  have names : (Json.quote "session_id").length = 12 ∧ (Json.quote "token").length = 7 := by
    decide +kernel
  have fits : ¬ Body.limit < (checkRequest session token).body.length := by
    simp only [checkRequest, Json.object, List.length_cons, List.length_append, List.length_nil,
      names, Body.limit]
    omega
  have whole : Json.readRecord Body.sessionField Body.tokenField (checkRequest session token).body =
      .ok (session, token) :=
    Json.readRecord_object (by decide) (fun rest => Json.readText_quote session _)
      (Json.readText_quote token _)
  rw [Body.read, json, if_neg (by simp), if_neg fits, whole]

/-! ## Tokens in headers -/

/-- The answer has the token in its header. -/
def Carries (response : Response) (token : String) : Prop :=
  (Gate.tokenHeader, token) ∈ response.headers

theorem not_carries_json (status : Nat) (body : List UInt8) (token : String) :
    ¬ Carries (.json status body) token := by
  simp [Carries, Response.json, Gate.tokenHeader]

/-- What happens to an answer on its way out changes no token in its header. -/
theorem carries_handle_iff_serve
    {service : Service}
    {request : Request}
    {route : Route}
    (known : Route.ofPath? request.path = some route)
    {world : World}
    {token : String} :
    Carries (handle service request world).1 token ↔
      Carries (route.serve service request world).1 token := by
  have noted : ∀ response, Carries (route.noteMethods request.method response) token ↔
      Carries response token := by
    intro response
    rw [Route.noteMethods]
    split
    · rfl
    · simp [Carries, Response.withHeader, Gate.tokenHeader]
  rw [handle, known]
  simp only [Action.bind_apply, Action.pure_apply]
  split
  · exact noted _
  · exact noted _

namespace Gate

/-- The gate adds what the engine mints, and nothing else is the token of the answer. -/
theorem carries_attachToken_iff
    {service : Service}
    {id : Session.Id}
    {response : Response}
    (plain : ∀ token, ¬ Carries response token)
    {world : World}
    {token : String} :
    Carries (attachToken service id response world).1 token ↔
      (service.engine.mint id.text world.wall world.entropy).1 = .ok token := by
  have minted := @Token.issue_eq_ok_iff service.engine id.text token world.wall world
  have sendable : ∀ found, (Token.issue service.engine id.text world.wall world).1 = .ok found →
      isHeaderValue found = true := fun found issued =>
    isHeaderValue_of_isVisible (isVisible_of_mint (Token.issue_eq_ok_iff.mp issued))
  rw [← minted, attachToken, Action.bind_apply, Action.now, Action.bind_apply]
  generalize Token.issue service.engine id.text world.wall world = result at sendable ⊢
  obtain ⟨answer, after⟩ := result
  cases answer with
  | error refusal => exact iff_of_false (not_carries_json _ _ token) (by simp)
  | ok found =>
      dsimp only
      rw [if_pos (sendable found rfl)]
      have others := plain token
      simp only [Carries] at others
      simp [Carries, Response.withHeader, others, eq_comm]

end Gate

/-- The token in the header of an answer is what the engine mints for the session of the request. -/
theorem carries_handle_iff_of_live
    {service : Service}
    {request : Request}
    {endpoint : GuardedEndpoint}
    (known : Route.ofPath? request.path = some (.guarded endpoint))
    (safe : Gate.isSafe request.method = true)
    {id : Session.Id}
    (cookie : Cookie.session? request = some id)
    {world : World}
    (sound : world.store.condition = .sound)
    (live : world.store.table.isLive id.storageKey world.store.clock = true)
    {token : String} :
    Carries (handle service request world).1 token ↔
      (service.engine.mint id.text world.wall world.entropy).1 = .ok token := by
  obtain ⟨response, served, plain⟩ := Route.exists_serveGuarded_eq_pure safe endpoint id
  obtain ⟨journal, passed⟩ := Gate.session_of_live cookie sound live fun id =>
    Gate.token service id request (Route.serveGuarded request endpoint id)
  rw [carries_handle_iff_serve known, Route.serve, passed, Gate.token, if_pos safe, served,
    pure_bind]
  exact Gate.carries_attachToken_iff plain

/-! ## Tokens that come back -/

/-- A record of a session id and a token that are both admitted states a check. -/
theorem statedCheck?_of_read
    {request : Request}
    {session token : String}
    (read : Body.read Body.sessionField Body.tokenField request = .ok (session, token))
    (sessionAdmitted : Admission.sessionId session = .ok ())
    (tokenAdmitted : Admission.token token = .ok ()) :
    statedCheck? request = some (session, token) := by
  rw [statedCheck?, read]
  simp [Except.toOption, isAdmitted, sessionAdmitted, tokenAdmitted, Except.isOk, Except.toBool]

section Stated

variable {service : Service} {session token : String} {issued : Seconds} {source : Entropy}

theorem statedCheck?_checkRequest
    (minted : (service.engine.mint session issued source).1 = .ok token)
    (admitted : Admission.sessionId session = .ok ()) :
    statedCheck? (checkRequest session token) = some (session, token) := by
  have small := Admission.byteCount_of_sessionId admitted
  have portable := portable_of_mint minted small
  exact statedCheck?_of_read (read_checkRequest small portable.short) admitted portable.admitted

theorem attempt?_checkRequest
    (minted : (service.engine.mint session issued source).1 = .ok token)
    (admitted : Admission.sessionId session = .ok ())
    (world : World) :
    attempt? (checkRequest session token) world = some ⟨session, token, world.wall⟩ := by
  rw [attempt?, ofPath?_checkRequest, statedCheck?_checkRequest minted admitted]
  exact if_pos rfl

/-- A token that was minted reaches the engine when it is stated with its session id. -/
theorem handle_checkRequest_store
    (minted : (service.engine.mint session issued source).1 = .ok token)
    (admitted : Admission.sessionId session = .ok ())
    (world : World) :
    (handle service (checkRequest session token) world).2.store =
      (service.engine.check session token world.wall world.store).2 := by
  rw [handle_of_post service (ofPath?_checkRequest session token) rfl]
  exact (checkToken_of_some (statedCheck?_checkRequest minted admitted) world).2

end Stated

/-- A failure of the store during a check is answered as one. -/
theorem checkToken_of_failure
    {service : Service}
    {request : Request}
    {session token : String}
    (read : Body.read Body.sessionField Body.tokenField request = .ok (session, token))
    (inside : isAdmitted session token = true)
    {world : World}
    {failure : Store.Failure}
    (failed : (service.engine.check session token world.wall world.store).1 =
      .error (.store failure)) :
    (checkToken service request world).1 = refusalResponse (.store failure) := by
  rw [checkToken, read]
  dsimp only
  rw [if_pos inside, Action.bind_apply, Token.redeem, Action.bind_apply,
    Token.Engine.checkNow_apply, failed]
  rfl

/-- A session ends if its request shows a token that the engine accepts. -/
theorem status_handle_of_accepted
    {service : Service}
    {request : Request}
    (known : Route.ofPath? request.path = some (.guarded .finish))
    (post : request.method = "POST")
    {world : World}
    {id : Session.Id}
    (found : Gate.foundSession? request world.store = some id)
    {token : String}
    (shown : Gate.shownToken? request = some token)
    (accepted : (service.engine.check id.text token world.wall world.store).1 = .ok true) :
    (handle service request world).1.status = 200 := by
  rw [(handle_of_some service known world).2, Route.serve]
  rcases Gate.session_cases request
      (fun id => Gate.token service id request (Route.serveGuarded request .finish id)) world with
    ⟨missing, _⟩ | ⟨owner, after, foundOwner, store, wall, passed⟩
  · rw [missing] at found
    cases found
  · obtain rfl : id = owner := Option.some.inj (found.symm.trans foundOwner)
    have changes : ¬ Gate.isSafe request.method = true := by
      rw [post]
      decide
    rw [passed, Gate.token, if_neg changes]
    rcases Gate.demandToken_cases service id request (Route.serveGuarded request .finish id) after
      with ⟨refused, _⟩ | ⟨other, spent, _, _, spentStore, passed⟩
    · have refused := refused token shown
      rw [store, wall] at refused
      exact absurd accepted refused
    · have sound : spent.store.condition = .sound := by
        rw [spentStore, Token.Engine.check_condition, store]
        exact sound_of_found_of_accepted (Gate.foundSession?_eq_some_iff.mp found).2 accepted
      rw [passed, Route.serveGuarded_finish post]
      exact (endSession_of_sound id sound).1

/-- The circumstances in which a token that was issued at a time can be spent: the store is sound,
the wall clock stands in the window, the token has no live record, and a new one has an end that the
store's clock reaches. -/
structure Spendable
    (service : Service)
    (token : String)
    (issued : Seconds)
    (world : World) : Prop where
  sound : world.store.condition = .sound
  notEarly : -60 ≤ world.wall.toInt - issued.toInt
  notLate : world.wall.toInt - issued.toInt ≤ service.engine.window.toInt
  free : world.store.table.isLive (Store.spentKey token) world.store.clock = false
  within : world.store.clock / 1000 + service.engine.claimLifetime issued world.wall ≤
    Store.lastSecond

/-- A token that is minted and can be spent is accepted by the engine. -/
theorem Spendable.check_of_mint
    {service : Service}
    (bounded : service.engine.window < Int64.maxValue)
    {session token : String}
    {issued : Seconds}
    {source : Entropy}
    (minted : (service.engine.mint session issued source).1 = .ok token)
    {world : World}
    (spendable : Spendable service token issued world) :
    (service.engine.check session token world.wall world.store).1 = .ok true :=
  Token.Engine.check_of_mint bounded minted ⟨spendable.notEarly, spendable.notLate⟩ spendable.sound
    spendable.free spendable.within

/-- A check whose record would end beyond the store's clock is answered as a store failure. -/
theorem handle_check_of_beyond
    {service : Service}
    (bounded : service.engine.window < Int64.maxValue)
    {session token : String}
    {issued : Seconds}
    {source : Entropy}
    (minted : (service.engine.mint session issued source).1 = .ok token)
    {request : Request}
    (known : Route.ofPath? request.path = some (.free .check))
    (post : request.method = "POST")
    (read : Body.read Body.sessionField Body.tokenField request = .ok (session, token))
    (inside : isAdmitted session token = true)
    {world : World}
    (sound : world.store.condition = .sound)
    (timely : service.engine.Timely issued world.wall)
    (free : world.store.table.isLive (Store.spentKey token) world.store.clock = false)
    (beyond : Store.lastSecond <
      world.store.clock / 1000 + service.engine.claimLifetime issued world.wall) :
    (handle service request world).1 =
      refusalResponse
        (.store (.lifetimeOutOfRange (service.engine.claimLifetime issued world.wall))) := by
  rw [handle_of_post service known post]
  exact checkToken_of_failure read inside (Token.Engine.check_of_settles bounded sound
    (.endless ⟨session, issued⟩ ⟨Token.Engine.opens_of_mint minted, timely, rfl⟩ free beyond))

/-- Every token that is handed out is portable and can be handed in.  One from the body of an answer
is good for a check of its session id, and one from the header of an answer to a live session ends
that session; and there is a token whenever a nonce can be drawn. -/
theorem serviceOf_handout
    {lookup : Config.Lookup}
    {config : Config}
    (accepted : Config.ofLookup lookup = .ok config)
    (start : World) :
    ∃ service : Service,
      (Server.serviceOf config start).1 = .ok service ∧
      service.engine.window = config.tokenWindow ∧
      (∀ (request : Request) (world : World) (session : String) (issued : Option Seconds),
        request.method = "POST" →
        request.path = "/api/csrf/create" →
        Body.read Body.sessionField Body.issuedField request = .ok (session, issued) →
        Admission.sessionId session = .ok () →
        (12 ≤ world.entropy.ready →
          ∃ token, HandsOut (handle service request world).1 token) ∧
        ∀ token, HandsOut (handle service request world).1 token →
          Portable token ∧
          Body.read Body.sessionField Body.tokenField (checkRequest session token) =
            .ok (session, token) ∧
          ∀ (check : Request) (later : World),
            check.method = "POST" →
            check.path = "/api/csrf/check" →
            Body.read Body.sessionField Body.tokenField check = .ok (session, token) →
            Spendable service token (issued.getD world.wall) later →
            (handle service check later).1 = verdict true) ∧
      ∀ (request : Request) (world : World) (id : Session.Id),
        Gate.isSafe request.method = true →
        request.path = "/api/csrf" ∨ request.path = "/api/session/logout" →
        Cookie.session? request = some id →
        world.store.condition = .sound →
        world.store.table.isLive id.storageKey world.store.clock = true →
        (12 ≤ world.entropy.ready →
          ∃ token, Carries (handle service request world).1 token) ∧
        ∀ token, Carries (handle service request world).1 token →
          Portable token ∧
          ∀ (logout : Request) (later : World),
            logout.method = "POST" →
            logout.path = "/api/session/logout" →
            Cookie.session? logout = some id →
            logout.value? Gate.tokenHeader = some (Text.utf8 token) →
            later.store.table.isLive id.storageKey later.store.clock = true →
            Spendable service token world.wall later →
            (handle service logout later).1.status = 200 := by
  obtain ⟨service, made, window⟩ : ∃ service : Service,
      (Server.serviceOf config start).1 = .ok service ∧
      service.engine.window = config.tokenWindow :=
    ⟨_, Config.serviceOf_of_ofLookup accepted start, rfl⟩
  have bounded : service.engine.window < Int64.maxValue := by
    rw [window]
    exact Config.tokenWindow_lt accepted
  refine ⟨service, made, window, ?_, ?_⟩
  · intro request world session issued post path read admitted
    have known : Route.ofPath? request.path = some (.free .create) := by
      rw [path]
      decide
    have small := Admission.byteCount_of_sessionId admitted
    have handed := @handsOut_handle_iff service request known post session issued read admitted
      world
    constructor
    · intro enough
      obtain ⟨token, minted⟩ := service.engine.exists_mint
        (Token.Payload.length_encode_le_payloadLimit small) enough
      exact ⟨token, handed.mpr minted⟩
    · intro token out
      have minted := handed.mp out
      have portable := portable_of_mint minted small
      refine ⟨portable, read_checkRequest small portable.short, ?_⟩
      intro check later post path read spendable
      have known : Route.ofPath? check.path = some (.free .check) := by
        rw [path]
        decide
      have stated := statedCheck?_of_read read admitted portable.admitted
      rw [handle_of_post service known post]
      exact (checkToken_of_some stated later).1.mpr (spendable.check_of_mint bounded minted)
  · intro request world id safe path cookie sound live
    obtain ⟨endpoint, known⟩ : ∃ endpoint,
        Route.ofPath? request.path = some (.guarded endpoint) := by
      rcases path with issue | finish
      · exact ⟨.issue, by rw [issue]; decide⟩
      · exact ⟨.finish, by rw [finish]; decide⟩
    have small : Text.byteCount id.text ≤ 255 := by
      rw [id.byteCount_text]
      decide
    have carried := @carries_handle_iff_of_live service request endpoint known safe id cookie world
      sound live
    constructor
    · intro enough
      obtain ⟨token, minted⟩ := service.engine.exists_mint
        (Token.Payload.length_encode_le_payloadLimit small) enough
      exact ⟨token, carried.mpr minted⟩
    · intro token out
      have minted := carried.mp out
      have portable := portable_of_mint minted small
      refine ⟨portable, ?_⟩
      intro logout later post path cookie header live spendable
      have known : Route.ofPath? logout.path = some (.guarded .finish) := by
        rw [path]
        decide
      have found : Gate.foundSession? logout later.store = some id := by
        rw [Gate.foundSession?_eq_some_iff, Session.isFound_of_sound id spendable.sound]
        exact ⟨cookie, live⟩
      have shown : Gate.shownToken? logout = some token := by
        rw [Gate.shownToken?_eq_some_iff, header, portable.admitted]
        exact ⟨portable.shown, rfl⟩
      exact status_handle_of_accepted known post found shown
        (spendable.check_of_mint bounded minted)

/-- A token for a session id with a quote and a line break is good a minute later, and so is one
from the header of an answer to a live session. -/
theorem serviceOf_handout_minute :
    ∃ (lookup : Config.Lookup) (config : Config) (service : Service) (world later : World)
        (create page logout : Request) (token header : String),
      Config.ofLookup lookup = .ok config ∧
      (Server.serviceOf config world).1 = .ok service ∧
      HandsOut (handle service create world).1 token ∧
      (handle service (checkRequest "a\"\n" token) later).1 = verdict true ∧
      Carries (handle service page world).1 header ∧
      (handle service logout later).1.status = 200 := by
  let lookup : Config.Lookup := fun name =>
    if name = "CSRF_SECRET" then some "000102030405060708090a0b0c0d0e0f" else none
  let config : Config :=
    ⟨.four [127, 0, 0, 1] 3000, .redis, "redis://127.0.0.1:6379", 7,
      (List.range 16).map UInt8.ofNat, 3600, ["http://localhost:3000"], false⟩
  let id : Session.Id :=
    ⟨[0, 1, 2, 3, 4, 5, 0x46, 7, 0x88, 9, 0xA, 0xB, 0xC, 0xD, 0xE, 0xF], rfl⟩
  let store : Store := (Store.new .sound).write id.storageKey 604800000
  let world : World := ⟨store, 1700000000, .ofList (List.replicate 12 0), []⟩
  let later : World := ⟨store, 1700000060, .ofList [], []⟩
  let create : Request := ⟨"POST", "/api/csrf/create",
    [⟨"content-type", Text.utf8 "application/json"⟩],
    Text.utf8 "\x7b\"session_id\":\"a\\\"\\n\"\x7d"⟩
  let cookie : Header := ⟨"cookie", Text.utf8 "session_id=00010203-0405-4607-8809-0a0b0c0d0e0f"⟩
  let page : Request := ⟨"GET", "/api/csrf", [cookie], []⟩
  have accepted : Config.ofLookup lookup = .ok config := by decide +kernel
  have live : store.table.isLive id.storageKey store.clock = true := by decide +kernel
  obtain ⟨service, made, window, bodies, headers⟩ := serviceOf_handout accepted world
  have spendable : ∀ token, Spendable service token 1700000000 later := by
    intro token
    have lifetime : service.engine.claimLifetime 1700000000 1700000060 = 3540 := by
      rw [Token.Engine.claimLifetime, window]
      decide
    have other := Session.Id.spentKey_ne_storageKey token id
    have free := (Store.Keeps.write other 604800000 (.new .sound)).isLive_eq (Nat.le_refl 0)
    refine ⟨rfl, by decide, ?_, free, ?_⟩
    · rw [window]
      decide
    · rw [lifetime]
      decide
  obtain ⟨creates, checks⟩ := bodies create world "a\"\n" none rfl (by decide +kernel)
    (by decide +kernel) (by decide +kernel)
  obtain ⟨token, handed⟩ := creates (by decide)
  obtain ⟨_, stated, valid⟩ := checks token handed
  have spoken : Cookie.session? page = some id := by decide +kernel
  obtain ⟨attaches, ends⟩ := headers page world id rfl (.inl (by decide +kernel)) spoken rfl live
  obtain ⟨header, carried⟩ := attaches (by decide)
  exact ⟨lookup, config, service, world, later, create, page, logoutRequest id header, token, header,
    accepted, made, handed, valid _ later rfl (path_checkRequest _ _) stated (spendable token), carried,
    (ends header carried).2 _ later rfl (path_logoutRequest _ _) (session?_logoutRequest _ _)
      (value?_logoutRequest _ _) live (spendable header)⟩

/-- When the store's clock has but two million seconds left, a token that is good for thirty days
cannot be spent in the second in which it is handed out: the record of it would have no end. -/
theorem handle_check_at_end_of_clock :
    let lookup : Config.Lookup := fun name =>
      if name = "CSRF_SECRET" then some "000102030405060708090a0b0c0d0e0f"
      else if name = "CSRF_EXPIRE_SECONDS" then some "2592000"
      else if name = "STORE_BACKEND" then some "memory"
      else none
    let create : Request := ⟨"POST", "/api/csrf/create",
      [⟨"content-type", Text.utf8 "application/json"⟩],
      Text.utf8 "\x7b\"session_id\":\"sid-1\",\"timestamp\":1700000000\x7d"⟩
    let world : World := ⟨⟨.sound, .empty, 9223372036852775807000⟩, 1700000000,
      .ofList ((List.range 12).map UInt8.ofNat), []⟩
    ∃ (config : Config) (service : Service) (token : String),
      Config.ofLookup lookup = .ok config ∧
      (Server.serviceOf config world).1 = .ok service ∧
      Body.read Body.sessionField Body.issuedField create = .ok ("sid-1", some 1700000000) ∧
      Admission.sessionId "sid-1" = .ok () ∧
      HandsOut (handle service create world).1 token ∧
      (let later := (handle service create world).2
      later.store = world.store ∧
      -60 ≤ later.wall.toInt - (1700000000 : Seconds).toInt ∧
      later.wall.toInt - (1700000000 : Seconds).toInt ≤ config.tokenWindow.toInt ∧
      later.store.table.isLive (Store.spentKey token) later.store.clock = false ∧
      Body.read Body.sessionField Body.tokenField (checkRequest "sid-1" token) =
        .ok ("sid-1", token) ∧
      (handle service (checkRequest "sid-1" token) later).1.status = 500 ∧
      (handle service (checkRequest "sid-1" token) later).1 ≠ verdict true) := by
  intro lookup create world
  let config : Config :=
    ⟨.four [127, 0, 0, 1] 3000, .memory, "redis://127.0.0.1:6379", 7,
      (List.range 16).map UInt8.ofNat, 2592000, ["http://localhost:3000"], false⟩
  have accepted : Config.ofLookup lookup = .ok config := by decide +kernel
  obtain ⟨service, made, window⟩ : ∃ service : Service,
      (Server.serviceOf config world).1 = .ok service ∧ service.engine.window = 2592000 :=
    ⟨_, Config.serviceOf_of_ofLookup accepted world, rfl⟩
  have bounded : service.engine.window < Int64.maxValue := by
    rw [window]
    decide
  have known : Route.ofPath? create.path = some (.free .create) := by decide +kernel
  have read : Body.read Body.sessionField Body.issuedField create =
      .ok ("sid-1", some 1700000000) := by decide +kernel
  have admitted : Admission.sessionId "sid-1" = .ok () := by decide +kernel
  have small := Admission.byteCount_of_sessionId admitted
  obtain ⟨token, minted⟩ : ∃ token,
      (service.engine.mint "sid-1" 1700000000 world.entropy).1 = .ok token :=
    service.engine.exists_mint (Token.Payload.length_encode_le_payloadLimit small) (by decide)
  have handed := (@handsOut_handle_iff service create known rfl _ _ read admitted world token).mpr
    minted
  have portable := portable_of_mint minted small
  have stated := read_checkRequest small portable.short
  refine ⟨config, service, token, accepted, made, read, admitted, handed, ?_⟩
  -- Handing a token out takes entropy and a line of the journal, but no time and no record.
  obtain ⟨store, wall⟩ : (handle service create world).2.store = world.store ∧
      (handle service create world).2.wall = world.wall := by
    rw [handle_of_post service known rfl]
    exact quiet_createToken service create world
  generalize (handle service create world).2 = later at store wall
  have checks : Route.ofPath? (checkRequest "sid-1" token).path = some (.free .check) := by
    rw [path_checkRequest]
    decide
  have inside : isAdmitted "sid-1" token = true := by
    rw [isAdmitted, admitted, portable.admitted]
    rfl
  have timely : service.engine.Timely 1700000000 later.wall := by
    rw [wall]
    refine ⟨by decide, ?_⟩
    rw [window]
    decide
  have sound : later.store.condition = .sound := by rw [store]
  have free : later.store.table.isLive (Store.spentKey token) later.store.clock = false := by
    rw [store]
    rfl
  have beyond : Store.lastSecond <
      later.store.clock / 1000 + service.engine.claimLifetime 1700000000 later.wall := by
    rw [store, wall, Token.Engine.claimLifetime, window]
    decide
  have refused := handle_check_of_beyond bounded minted checks rfl stated inside sound timely free
    beyond
  refine ⟨store, timely.notEarly, by rw [wall]; decide, free, stated, ?_, ?_⟩
  · rw [refused]
    rfl
  · rw [refused]
    exact ne_verdict_true (status_refusalResponse _)

end Http
end AntiForgery
