import AntiForgery.Proofs.Http.Handout

/-!
# What a client learns from a rejection

A token that is not good is answered in one way, whatever is wrong with it: forged, too old, from the
future, spent, of another session, too long or empty.  The answer depends neither on the secret nor on
what the token or the store holds.  At the protected endpoints it depends on the path and the method,
since the answer to a method that a path does not take names the methods that it takes.
-/

namespace AntiForgery
namespace Http

/-- The service does not accept the token of a request, and not because the record of the token would
have no end. -/
structure Refuses (service : Service) (request : Request) (world : World) : Prop where
  sound : world.store.condition = .sound
  within : ∀ attempt payload, attempt? request world = some attempt →
    service.engine.Admits attempt.session attempt.token attempt.now payload →
    world.store.clock / 1000 + service.engine.claimLifetime payload.issued attempt.now ≤
      Store.lastSecond
  refused : ∀ attempt, attempt? request world = some attempt →
    (attempt.check service.engine world.store).1 ≠ .ok true

/-- Where a request is refused for its token, the check of that token dismissed it. -/
theorem Refuses.dismissed
    {service : Service}
    (bounded : service.engine.window < Int64.maxValue)
    {request : Request}
    {world : World}
    (refuses : Refuses service request world)
    {attempt : Token.Attempt}
    (asked : attempt? request world = some attempt) :
    Token.Dismissed (attempt.check service.engine world.store).1 :=
  Token.dismissed_of_ne bounded refuses.sound (fun payload => refuses.within attempt payload asked)
    (refuses.refused attempt asked)

/-! ## Checks -/

/-- A request to check a token whose body says which one, and for which session. -/
structure StatesCheck (request : Request) : Prop where
  method : request.method = "POST"
  path : request.path = "/api/csrf/check"
  stated : ∃ stated, Body.read Body.sessionField Body.tokenField request = .ok stated

/-- A check that is not accepted is answered as invalid. -/
theorem handle_of_refused_check
    {service : Service}
    (bounded : service.engine.window < Int64.maxValue)
    {request : Request}
    (states : StatesCheck request)
    {world : World}
    (refuses : Refuses service request world) :
    (handle service request world).1 = verdict false := by
  obtain ⟨⟨session, token⟩, read⟩ := states.stated
  have known : Route.ofPath? request.path = some (.free .check) := by
    rw [states.path]
    rfl
  rw [handle_of_post service known states.method]
  change (checkToken service request world).1 = verdict false
  rw [checkToken, read]
  dsimp only
  by_cases inside : isAdmitted session token = true
  · have asked : attempt? request world = some ⟨session, token, world.wall⟩ := by
      rw [attempt?, known]
      simp [states.method, statedCheck?, read, Except.toOption, Option.filter_some, inside]
    have dismissed := refuses.dismissed bounded asked
    rw [if_pos inside, Action.bind_apply, Token.redeem_of_dismissed dismissed]
    rfl
  · rw [if_neg inside]
    rfl

/-! ## The gate for tokens -/

/-- The gate refuses every visible token that is not accepted in the same way. -/
theorem Gate.demandToken_of_dismissed
    {service : Service}
    {id : Session.Id}
    {request : Request}
    {token : String}
    (header : (request.value? tokenHeader).bind visibleText? = some token)
    {world : World}
    (dismissed : (Admission.token token).isOk = true →
      Token.Dismissed (service.engine.check id.text token world.wall world.store).1)
    (inner : Action Response) :
    (demandToken service id request inner world).1 = refusalResponse .forbidden := by
  obtain ⟨store, wall⟩ := quiet_presentedToken request world
  rw [demandToken, Action.bind_apply, presentedToken_eq_ok_iff.mpr header]
  generalize (presentedToken request world).2 = middle at store wall
  dsimp only
  cases admitted : Admission.token token with
  | error refusal => rfl
  | ok _ =>
      dsimp only
      rw [admitted, ← store, ← wall] at dismissed
      rw [Action.bind_apply, Token.redeem_of_dismissed (dismissed rfl)]
      rfl

/-- A request to a protected endpoint that may change something, belongs to a live session and shows a
visible token. -/
structure ShowsToken (endpoint : GuardedEndpoint) (request : Request) (world : World) : Prop where
  known : Route.ofPath? request.path = some (.guarded endpoint)
  changes : Gate.isSafe request.method = false
  live : ∃ id, Cookie.session? request = some id ∧
    world.store.table.isLive id.storageKey world.store.clock = true
  visible : ∃ token, (request.value? Gate.tokenHeader).bind visibleText? = some token

/-- A request that may change something gets what its endpoint answers, with a note of the methods that
would be right if its own is not. -/
theorem handle_of_changing
    (service : Service)
    {request : Request}
    {route : Route}
    (known : Route.ofPath? request.path = some route)
    (changes : Gate.isSafe request.method = false)
    (world : World) :
    (handle service request world).1 =
      route.noteMethods request.method (route.serve service request world).1 := by
  have head : ¬ (request.method == "HEAD") = true := by
    intro head
    rw [Gate.isSafe, head, Bool.or_true, Bool.true_or] at changes
    cases changes
  rw [handle, known]
  simp only [Action.bind_apply, Action.pure_apply]
  rw [if_neg head]

/-- A request whose token is not accepted is forbidden. -/
theorem handle_of_refused_token
    {service : Service}
    (bounded : service.engine.window < Int64.maxValue)
    {endpoint : GuardedEndpoint}
    {request : Request}
    {world : World}
    (shows : ShowsToken endpoint request world)
    (refuses : Refuses service request world) :
    (handle service request world).1 =
      (Route.guarded endpoint).noteMethods request.method (refusalResponse .forbidden) := by
  obtain ⟨id, cookie, live⟩ := shows.live
  obtain ⟨token, header⟩ := shows.visible
  obtain ⟨journal, passed⟩ := Gate.session_of_live cookie refuses.sound live fun id =>
    Gate.token service id request (Route.serveGuarded request endpoint id)
  have found : Gate.foundSession? request world.store = some id := by
    rw [Gate.foundSession?_eq_some_iff, Session.isFound_of_sound id refuses.sound]
    exact ⟨cookie, live⟩
  rw [handle_of_changing service shows.known shows.changes, Route.serve, passed, Gate.token,
    if_neg (by simp [shows.changes]), Gate.demandToken_of_dismissed header]
  intro admitted
  have shown := Gate.shownToken?_eq_some_iff.mpr ⟨header, admitted⟩
  have asked := attempt?_of_found shows.known shows.changes found shown
  have dismissed := refuses.dismissed bounded asked
  rw [Token.Attempt.check] at dismissed
  exact dismissed

/-! ## Tokens that are refused -/

/-- A request whose token is no Base64 text is refused, and so is one whose token does not reach the
engine. -/
theorem refuses_of_unreadable
    {service : Service}
    {request : Request}
    {world : World}
    (sound : world.store.condition = .sound)
    (unreadable : ∀ attempt, attempt? request world = some attempt →
      Base64.decode? (Text.utf8 attempt.token) = none) :
    Refuses service request world := by
  have unread : ∀ attempt, attempt? request world = some attempt →
      service.engine.read attempt.token = .error .malformed := by
    intro attempt asked
    rw [Token.Engine.read, unreadable attempt asked]
  refine ⟨sound, ?_, ?_⟩
  · intro attempt payload asked admits
    have read := Token.Engine.read_eq_ok_iff.mpr admits.opens
    rw [unread attempt asked] at read
    cases read
  · intro attempt asked accepted
    obtain ⟨lifetime, _, judged, _⟩ := Token.Engine.write_of_accepted accepted
    obtain ⟨payload, opens, _⟩ := Token.Engine.exists_opens_of_judge judged
    have read := Token.Engine.read_eq_ok_iff.mpr opens
    rw [unread attempt asked] at read
    cases read

/-- A token that is stated again while its record is live is refused. -/
theorem refuses_of_spent
    {service : Service}
    (bounded : service.engine.window < Int64.maxValue)
    {session token : String}
    {issued : Seconds}
    {source : Entropy}
    (minted : (service.engine.mint session issued source).1 = .ok token)
    (admitted : Admission.sessionId session = .ok ())
    {world : World}
    (sound : world.store.condition = .sound)
    (timely : service.engine.Timely issued world.wall)
    (live : world.store.table.isLive (Store.spentKey token) world.store.clock = true)
    (within : world.store.clock / 1000 + service.engine.claimLifetime issued world.wall ≤
      Store.lastSecond) :
    Refuses service (checkRequest session token) world := by
  have asked := attempt?_checkRequest minted admitted world
  have opens := Token.Engine.opens_of_mint minted
  refine ⟨sound, ?_, ?_⟩
  · intro attempt payload attempted admits
    obtain rfl := Option.some.inj (asked.symm.trans attempted)
    obtain rfl := admits.opens.unique opens
    exact within
  · intro attempt attempted
    obtain rfl := Option.some.inj (asked.symm.trans attempted)
    have settles : service.engine.Settles session token world.wall world.store (.ok false) :=
      .spent _ ⟨opens, timely, rfl⟩ live
    rw [Token.Attempt.check, Token.Engine.check_of_settles bounded sound settles]
    simp

theorem shownToken?_of_attempt?
    {request : Request}
    {endpoint : GuardedEndpoint}
    (known : Route.ofPath? request.path = some (.guarded endpoint))
    {world : World}
    {attempt : Token.Attempt}
    (asked : attempt? request world = some attempt) :
    Gate.shownToken? request = some attempt.token := by
  rcases attempt?_cases asked with ⟨_, _, check, _⟩ | ⟨_, _, _, _, _, _, shown, rfl⟩
  · rw [known] at check
    cases check
  · exact shown

/-- At a protected endpoint a token that is shown and is no Base64 text is refused, as is none at all. -/
theorem refuses_of_illegible
    {service : Service}
    {request : Request}
    {endpoint : GuardedEndpoint}
    (known : Route.ofPath? request.path = some (.guarded endpoint))
    {world : World}
    (sound : world.store.condition = .sound)
    (illegible : (Gate.shownToken? request).all
      (fun token => (Base64.decode? (Text.utf8 token)).isNone) = true) :
    Refuses service request world := by
  refine refuses_of_unreadable sound fun attempt asked => ?_
  rw [shownToken?_of_attempt? known asked, Option.all_some] at illegible
  exact Option.isNone_iff_eq_none.mp illegible

/-! ## Two clients -/

/-- The answer without its headers of a name. -/
def Response.withoutHeader (name : String) (response : Response) : Response :=
  { response with headers := response.headers.filter fun header => header.1 != name }

/-- The note of the methods is the only thing that tells paths and methods apart. -/
theorem withoutHeader_noteMethods (route : Route) (method : String) (response : Response) :
    (route.noteMethods method response).withoutHeader "allow" =
      response.withoutHeader "allow" := by
  rw [Route.noteMethods]
  split
  · rfl
  · simp [Response.withoutHeader, Response.withHeader]

/-- The header that names the methods depends on the method only through being one of them. -/
theorem noteMethods_congr
    {route : Route}
    {method other : String}
    (alike : route.methods.contains method = route.methods.contains other)
    (response : Response) :
    route.noteMethods method response = route.noteMethods other response := by
  rw [Route.noteMethods, Route.noteMethods, alike]

/-- Two clients of two services with secrets, windows and records of their own cannot tell their
rejections apart.  Whatever is wrong with the tokens, two checks get the same answer; two requests to
protected endpoints are forbidden with answers that differ at most in the note of the methods that would
be right, and not even there if the endpoint is the same and takes both methods or neither. -/
theorem serviceOf_rejections
    {lookup otherLookup : Config.Lookup}
    {config otherConfig : Config}
    (accepted : Config.ofLookup lookup = .ok config)
    (otherAccepted : Config.ofLookup otherLookup = .ok otherConfig)
    (start otherStart : World) :
    ∃ service other,
      (Server.serviceOf config start).1 = .ok service ∧
      (Server.serviceOf otherConfig otherStart).1 = .ok other ∧
      (∀ request world otherRequest otherWorld,
        StatesCheck request → Refuses service request world →
        StatesCheck otherRequest → Refuses other otherRequest otherWorld →
        (handle service request world).1 = verdict false ∧
        (handle other otherRequest otherWorld).1 = verdict false) ∧
      ∀ endpoint request world otherEndpoint otherRequest otherWorld,
        ShowsToken endpoint request world → Refuses service request world →
        ShowsToken otherEndpoint otherRequest otherWorld → Refuses other otherRequest otherWorld →
        (handle service request world).1.status = 403 ∧
        (handle service request world).1.withoutHeader "allow" =
          (handle other otherRequest otherWorld).1.withoutHeader "allow" ∧
        (endpoint = otherEndpoint →
          endpoint.methods.contains request.method =
            endpoint.methods.contains otherRequest.method →
          (handle service request world).1 = (handle other otherRequest otherWorld).1) := by
  obtain ⟨service, made, bounded⟩ : ∃ service : Service,
      (Server.serviceOf config start).1 = .ok service ∧
        service.engine.window < Int64.maxValue :=
    ⟨_, Config.serviceOf_of_ofLookup accepted start, Config.tokenWindow_lt accepted⟩
  obtain ⟨other, otherMade, otherBounded⟩ : ∃ service : Service,
      (Server.serviceOf otherConfig otherStart).1 = .ok service ∧
        service.engine.window < Int64.maxValue :=
    ⟨_, Config.serviceOf_of_ofLookup otherAccepted otherStart,
      Config.tokenWindow_lt otherAccepted⟩
  refine ⟨service, other, made, otherMade, ?_, ?_⟩
  · intro request world otherRequest otherWorld states refuses otherStates otherRefuses
    exact ⟨handle_of_refused_check bounded states refuses,
      handle_of_refused_check otherBounded otherStates otherRefuses⟩
  · intro endpoint request world otherEndpoint otherRequest otherWorld shows refuses otherShows
      otherRefuses
    rw [handle_of_refused_token bounded shows refuses,
      handle_of_refused_token otherBounded otherShows otherRefuses]
    refine ⟨status_noteMethods _ _ _, ?_, ?_⟩
    · rw [withoutHeader_noteMethods, withoutHeader_noteMethods]
    · rintro rfl alike
      exact noteMethods_congr alike _

/-- A spent token is answered under one secret as a blank session id with no token at all is under
another; and at the end of a session a token of one letter is answered as an empty one. -/
theorem serviceOf_rejections_spent :
    ∃ (lookup otherLookup : Config.Lookup) (config otherConfig : Config) (service other : Service)
        (start world otherWorld : World) (check otherCheck visit otherVisit : Request),
      Config.ofLookup lookup = .ok config ∧
      Config.ofLookup otherLookup = .ok otherConfig ∧
      (Server.serviceOf config start).1 = .ok service ∧
      (Server.serviceOf otherConfig start).1 = .ok other ∧
      (StatesCheck check ∧ Refuses service check world) ∧
      (StatesCheck otherCheck ∧ Refuses other otherCheck otherWorld) ∧
      (ShowsToken .finish visit world ∧ Refuses service visit world) ∧
      (ShowsToken .finish otherVisit otherWorld ∧ Refuses other otherVisit otherWorld) ∧
      (handle service check world).1 = (handle other otherCheck otherWorld).1 ∧
      (handle service visit world).1 = (handle other otherVisit otherWorld).1 := by
  let lookup : Config.Lookup := fun name =>
    if name = "CSRF_SECRET" then some "000102030405060708090a0b0c0d0e0f" else none
  let otherLookup : Config.Lookup := fun name =>
    if name = "CSRF_SECRET" then some "ffffffffffffffffffffffffffffffff" else none
  let config : Config :=
    ⟨.four [127, 0, 0, 1] 3000, .redis, "redis://127.0.0.1:6379", 7,
      (List.range 16).map UInt8.ofNat, 3600, ["http://localhost:3000"], false⟩
  let otherConfig : Config := { config with secret := List.replicate 16 0xFF }
  let id : Session.Id :=
    ⟨[0, 1, 2, 3, 4, 5, 0x46, 7, 0x88, 9, 0xA, 0xB, 0xC, 0xD, 0xE, 0xF], rfl⟩
  let cookie : Header := ⟨"cookie", Text.utf8 "session_id=00010203-0405-4607-8809-0a0b0c0d0e0f"⟩
  let store : Store := (Store.new .sound).write id.storageKey 604800000
  let otherWorld : World := ⟨store, 1700000000, .ofList [], []⟩
  let otherCheck : Request := checkRequest " " ""
  let visit : Request := ⟨"POST", "/api/session/logout",
    [cookie, ⟨"x-csrf-token", Text.utf8 "x"⟩], []⟩
  let otherVisit : Request := ⟨"POST", "/api/session/logout", [cookie, ⟨"x-csrf-token", []⟩], []⟩
  have accepted : Config.ofLookup lookup = .ok config := by decide +kernel
  have otherAccepted : Config.ofLookup otherLookup = .ok otherConfig := by decide +kernel
  obtain ⟨service, other, made, otherMade, checks, visits⟩ :=
    serviceOf_rejections accepted otherAccepted otherWorld otherWorld
  have window : service.engine.window = 3600 := by
    have configured := (Config.serviceOf_of_ofLookup accepted otherWorld).symm.trans made
    rw [← Except.ok.inj configured]
  have bounded : service.engine.window < Int64.maxValue := by
    rw [window]
    decide
  have admitted : Admission.sessionId "sid-1" = .ok () := by decide +kernel
  obtain ⟨token, minted⟩ : ∃ token,
      (service.engine.mint "sid-1" 1700000000 (.ofList (List.replicate 12 0))).1 = .ok token :=
    service.engine.exists_mint (by decide +kernel) (by decide)
  let world : World := ⟨store.write (Store.spentKey token) 3600000, 1700000000, .ofList [], []⟩
  -- The record of the spent token leaves the session live.
  have live : store.table.isLive id.storageKey store.clock = true := by decide +kernel
  have stillLive : world.store.table.isLive id.storageKey world.store.clock = true := by
    have other := (Session.Id.spentKey_ne_storageKey token id).symm
    rw [(Store.Keeps.write other 3600000 store).isLive_eq (Nat.le_refl _)]
    exact live
  have timely : service.engine.Timely 1700000000 1700000000 := by
    refine ⟨by decide, ?_⟩
    rw [window]
    decide
  have within : 0 / 1000 + service.engine.claimLifetime 1700000000 1700000000 ≤
      Store.lastSecond := by
    rw [Token.Engine.claimLifetime, window]
    decide
  have recorded := Store.isLive_write_self (Store.spentKey token) 3600000 store 0
  have spent : Refuses service (checkRequest "sid-1" token) world :=
    refuses_of_spent bounded minted admitted rfl timely recorded within
  have unstated : Refuses other otherCheck otherWorld := by
    have unasked : attempt? otherCheck otherWorld = none := by decide +kernel
    exact refuses_of_unreadable rfl (by simp [unasked])
  have states : StatesCheck (checkRequest "sid-1" token) :=
    ⟨rfl, path_checkRequest _ _, _, read_checkRequest (by decide +kernel)
      (portable_of_mint minted (by decide +kernel)).short⟩
  have otherStates : StatesCheck otherCheck :=
    ⟨rfl, path_checkRequest _ _, _, read_checkRequest (by decide +kernel) (by decide +kernel)⟩
  have visitKnown : Route.ofPath? visit.path = some (.guarded .finish) := by decide +kernel
  have otherKnown : Route.ofPath? otherVisit.path = some (.guarded .finish) := by decide +kernel
  have shows : ShowsToken .finish visit world :=
    ⟨visitKnown, rfl, ⟨id, by decide +kernel, stillLive⟩, "x", by decide +kernel⟩
  have otherShows : ShowsToken .finish otherVisit otherWorld :=
    ⟨otherKnown, rfl, ⟨id, by decide +kernel, live⟩, "", by decide +kernel⟩
  have illegible : Refuses service visit world :=
    refuses_of_illegible visitKnown rfl (by decide +kernel)
  have unshown : Refuses other otherVisit otherWorld :=
    refuses_of_illegible otherKnown rfl (by decide +kernel)
  obtain ⟨invalid, otherInvalid⟩ := checks _ _ _ _ states spent otherStates unstated
  obtain ⟨_, _, same⟩ := visits _ _ _ _ _ _ shows illegible otherShows unshown
  exact ⟨lookup, otherLookup, config, otherConfig, service, other, otherWorld, world, otherWorld,
    _, otherCheck, visit, otherVisit, accepted, otherAccepted, made, otherMade, ⟨states, spent⟩,
    ⟨otherStates, unstated⟩, ⟨shows, illegible⟩, ⟨otherShows, unshown⟩,
    invalid.trans otherInvalid.symm, same rfl rfl⟩

/-- The same bad token of the same session is forbidden with two answers at the two protected paths: the
one names the methods that the path takes, since it does not take the one that was used. -/
theorem handle_refused_methods :
    let lookup : Config.Lookup := fun name =>
      if name = "CSRF_SECRET" then some "000102030405060708090a0b0c0d0e0f"
      else if name = "STORE_BACKEND" then some "memory"
      else none
    let headers : List Header :=
      [⟨"cookie", Text.utf8 "session_id=00010203-0405-4607-8809-0a0b0c0d0e0f"⟩,
        ⟨"x-csrf-token", Text.utf8 "x"⟩]
    let issue : Request := ⟨"POST", "/api/csrf", headers, []⟩
    let finish : Request := ⟨"POST", "/api/session/logout", headers, []⟩
    let start : World := ⟨.new .sound, 1700000000, .ofList ((List.range 16).map UInt8.ofNat), []⟩
    ∃ (config : Config) (service : Service),
      Config.ofLookup lookup = .ok config ∧
      (Server.serviceOf config start).1 = .ok service ∧
      (let begin : Request := ⟨"POST", "/api/session", [], []⟩
      let world : World := (handle service begin start).2
      (ShowsToken .issue issue world ∧ Refuses service issue world) ∧
      (ShowsToken .finish finish world ∧ Refuses service finish world) ∧
      (handle service issue world).1 =
        (handle service finish world).1.withHeader "allow" "GET,HEAD" ∧
      (handle service issue world).1 ≠ (handle service finish world).1) := by
  intro lookup headers issue finish start
  let id : Session.Id :=
    ⟨[0, 1, 2, 3, 4, 5, 0x46, 7, 0x88, 9, 0xA, 0xB, 0xC, 0xD, 0xE, 0xF], rfl⟩
  let config : Config :=
    ⟨.four [127, 0, 0, 1] 3000, .memory, "redis://127.0.0.1:6379", 7,
      (List.range 16).map UInt8.ofNat, 3600, ["http://localhost:3000"], false⟩
  have accepted : Config.ofLookup lookup = .ok config := by decide +kernel
  let service : Service :=
    ⟨⟨.ofKey config.secret, config.tokenWindow⟩, ⟨config.sessionDays, config.production⟩⟩
  have made : (Server.serviceOf config start).1 = .ok service :=
    Config.serviceOf_of_ofLookup accepted start
  have bounded : service.engine.window < Int64.maxValue := by decide
  refine ⟨config, service, accepted, made, ?_⟩
  intro begin world
  have sound : world.store.condition = .sound := by decide +kernel
  have live : ∃ id, Cookie.session? issue = some id ∧
      world.store.table.isLive id.storageKey world.store.clock = true :=
    ⟨id, by decide +kernel, by decide +kernel⟩
  have visible : ∃ token, (issue.value? Gate.tokenHeader).bind visibleText? = some token :=
    ⟨"x", by decide +kernel⟩
  have issueShows : ShowsToken .issue issue world := ⟨by decide +kernel, rfl, live, visible⟩
  have finishShows : ShowsToken .finish finish world := ⟨by decide +kernel, rfl, live, visible⟩
  have issueRefuses : Refuses service issue world :=
    refuses_of_illegible issueShows.known sound (by decide +kernel)
  have finishRefuses : Refuses service finish world :=
    refuses_of_illegible finishShows.known sound (by decide +kernel)
  have noted := handle_of_refused_token bounded issueShows issueRefuses
  have plain := handle_of_refused_token bounded finishShows finishRefuses
  refine ⟨⟨issueShows, issueRefuses⟩, ⟨finishShows, finishRefuses⟩, ?_, ?_⟩
  · rw [noted, plain]
    decide +kernel
  · rw [noted, plain]
    decide +kernel

end Http
end AntiForgery
