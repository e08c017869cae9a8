import AntiForgery.Proofs.Http.Admittance
import AntiForgery.Proofs.Http.Effect
import AntiForgery.Proofs.Http.Portable
import AntiForgery.Scenario

/-!
# What requests can do to sessions

Only the owner of a session can end it, with a fresh token of that session and by asking for it; and
only a request that starts a session makes one or makes one last longer.  This holds in every state,
so in every state that a run of requests reaches.
-/

namespace AntiForgery
namespace Session

/-- A session lives for a second at least. -/
theorem one_le_lifetime (settings : Settings) : 1 ≤ settings.lifetime :=
  Nat.le_max_left _ _

end Session

namespace Http

/-- A path that is known stands in the table of routes. -/
theorem Route.mem_table_of_ofPath? {path : String} {route : Route}
    (known : Route.ofPath? path = some route) : (path, route) ∈ Route.table := by
  obtain ⟨⟨name, target⟩, found, rfl⟩ := Option.map_eq_some_iff.mp known
  have same := List.find?_some found
  rw [beq_iff_eq] at same
  subst same
  exact List.mem_of_find?_eq_some found

theorem Route.path_of_start {path : String}
    (known : Route.ofPath? path = some (.free .start)) : path = "/api/session" := by
  simpa [Route.table] using Route.mem_table_of_ofPath? known

theorem Route.path_of_finish {path : String}
    (known : Route.ofPath? path = some (.guarded .finish)) : path = "/api/session/logout" := by
  simpa [Route.table] using Route.mem_table_of_ofPath? known

/-- How a session comes to an end: the request asks for it, it belongs to the session and shows a
fresh token of it, and the answer confirms it.  The token is spent, and no other session is touched. -/
structure Ends
    (service : Service)
    (request : Request)
    (world : World)
    (response : Response)
    (after : Store)
    (id : Session.Id) : Prop where
  method : request.method = "POST"
  path : request.path = "/api/session/logout"
  cookie : Cookie.session? request = some id
  token : ∃ (token : String) (payload : Token.Payload),
    (request.value? Gate.tokenHeader).bind visibleText? = some token ∧
    service.engine.Opens token payload ∧
    payload.session = id.text ∧
    -60 ≤ world.wall.toInt - payload.issued.toInt ∧
    world.wall.toInt - payload.issued.toInt ≤ service.engine.window.toInt ∧
    world.store.table.isLive (Store.spentKey token) world.store.clock = false ∧
    after.table.isLive (Store.spentKey token) world.store.clock = true
  status : response.status = 200
  others : ∀ other : Session.Id, other ≠ id →
    Store.Keeps other.storageKey world.store after

namespace Effect

variable {service : Service} {request : Request} {world : World} {response : Response}
variable {after : Store}

/-- A check touches no session. -/
theorem keeps_of_check
    (engine : Token.Engine)
    (session token : String)
    (now : Seconds)
    (store : Store)
    (id : Session.Id) :
    Store.Keeps id.storageKey store (engine.check session token now store).2 :=
  engine.check_keeps session now store (Session.Id.spentKey_ne_storageKey token id).symm

/-- Only the start of a session and its end touch its record. -/
theorem keeps
    (effect : Effect service request world response after)
    (notStart : ¬ (request.method = "POST" ∧ request.path = "/api/session"))
    (notEnd : ¬ (request.path = "/api/session/logout" ∧ response.status = 200))
    (id : Session.Id) :
    Store.Keeps id.storageKey world.store after := by
  cases effect with
  | idle => exact .refl _ _
  | started id deadline route post range =>
      exact absurd ⟨post, Route.path_of_start route⟩ notStart
  | accepted attempt attempted told accepted => exact keeps_of_check ..
  | ended id token route post found shown accepted status =>
      exact absurd ⟨Route.path_of_finish route, status⟩ notEnd

/-- A session that is ended is ended properly. -/
theorem ends
    (effect : Effect service request world response after)
    (bounded : service.engine.window < Int64.maxValue)
    {id : Session.Id}
    (live : world.store.table.isLive id.storageKey world.store.clock = true)
    (gone : after.table.isLive id.storageKey world.store.clock = false) :
    Ends service request world response after id := by
  have not_kept : ∀ {store : Store}, store.clock = world.store.clock →
      store.table.isLive id.storageKey world.store.clock = false →
      ¬ Store.Keeps id.storageKey world.store store := by
    intro store clock gone keeps
    rw [keeps.isLive_eq (Nat.le_of_eq clock), live] at gone
    cases gone
  cases effect with
  | idle => exact absurd (.refl _ _) (not_kept rfl gone)
  | started drawn deadline route post range =>
      exfalso
      by_cases same : id = drawn
      · subst same
        have ahead := Store.deadline_pos (Session.one_le_lifetime _) range
        rw [Store.isLive_write_self, decide_eq_true ahead] at gone
        cases gone
      · have different : id.storageKey ≠ drawn.storageKey := by
          rwa [ne_eq, Session.Id.storageKey_inj]
        exact not_kept (Store.write_clock ..) gone (.write different deadline world.store)
  | accepted attempt attempted told accepted =>
      exact absurd (keeps_of_check ..) (not_kept (Token.Engine.check_clock ..) gone)
  | ended owner token route post found shown accepted status =>
      have others : ∀ other : Session.Id, other ≠ owner →
          Store.Keeps other.storageKey world.store
            ((service.engine.check owner.text token world.wall world.store).2.perform
              (.remove owner.storageKey)).2 := by
        intro other different
        refine (keeps_of_check ..).trans (.perform ?_ _)
        exact fun same => different (Session.Id.storageKey_inj.mp same)
      obtain rfl : id = owner := by
        by_contra different
        exact not_kept (by simp) gone (others id different)
      have cookie := (Gate.foundSession?_eq_some_iff.mp found).1
      have header := (Gate.shownToken?_eq_some_iff.mp shown).1
      obtain ⟨lifetime, deadline, judged, range, free, written⟩ :=
        Token.Engine.write_of_accepted accepted
      obtain ⟨payload, admits, rfl⟩ := (Token.Engine.judge_eq_claim_iff bounded).mp judged
      refine ⟨post, Route.path_of_finish route, cookie, ⟨token, payload, header, admits.opens,
        Text.utf8_inj.mp admits.own, admits.timely.notEarly, admits.timely.notLate, free, ?_⟩,
        status, others⟩
      have keeps : Store.Keeps (Store.spentKey token)
          (service.engine.check id.text token world.wall world.store).2
          ((service.engine.check id.text token world.wall world.store).2.perform
            (.remove id.storageKey)).2 :=
        .perform (Session.Id.spentKey_ne_storageKey token id) _
      have ahead := Store.deadline_pos (Token.Engine.one_le_of_judge judged) range
      rw [keeps.isLive_eq (by simp), written, Store.isLive_write_self, decide_eq_true ahead]

/-- Only the start of a session makes one or makes one last longer. -/
theorem isLive_of_isLive
    (effect : Effect service request world response after)
    (notStart : ¬ (request.method = "POST" ∧ request.path = "/api/session"))
    {id : Session.Id}
    {later : Nat}
    (ahead : world.store.clock ≤ later)
    (live : after.table.isLive id.storageKey later = true) :
    world.store.table.isLive id.storageKey later = true := by
  cases effect with
  | idle => exact live
  | started drawn deadline route post range =>
      exact absurd ⟨post, Route.path_of_start route⟩ notStart
  | accepted attempt attempted told accepted =>
      rw [Token.Attempt.check] at live
      rwa [(keeps_of_check ..).isLive_eq (by simpa using ahead)] at live
  | ended owner token route post found shown accepted status =>
      have before := Store.isLive_of_perform_remove (by simpa using ahead) live
      rwa [(keeps_of_check ..).isLive_eq (by simpa using ahead)] at before

end Effect

/-! ## Requests to end a session -/

/-- The request that ends a session, with the cookie of its owner and a token. -/
def logoutRequest (id : Session.Id) (token : String) : Request where
  method := "POST"
  target := "/api/session/logout"
  headers := [⟨"cookie", Text.utf8 (Cookie.ofId id)⟩, ⟨"x-csrf-token", Text.utf8 token⟩]
  body := []

section Logout

variable (id : Session.Id) (token : String)

theorem path_logoutRequest : (logoutRequest id token).path = "/api/session/logout" := by
  show String.ofList (Request.pathOf "/api/session/logout".toList) = _
  decide +kernel

theorem ofPath?_logoutRequest :
    Route.ofPath? (logoutRequest id token).path = some (.guarded .finish) := by
  rw [path_logoutRequest]
  rfl

/-- The two headers of the request have different names, in lower case as well. -/
theorem names_logoutRequest :
    ("cookie".toLower == "cookie") = true ∧ ("x-csrf-token".toLower == "cookie") = false ∧
      ("cookie".toLower == "x-csrf-token") = false ∧
      ("x-csrf-token".toLower == "x-csrf-token") = true := by decide +kernel

theorem session?_logoutRequest : Cookie.session? (logoutRequest id token) = some id := by
  apply Cookie.session?_of_ofId
  simp only [Request.values, logoutRequest, List.filter_cons, names_logoutRequest, if_true,
    Bool.false_eq_true, if_false, List.filter_nil, List.map_cons, List.map_nil]

theorem value?_logoutRequest :
    (logoutRequest id token).value? Gate.tokenHeader = some (Text.utf8 token) := by
  simp only [Request.value?, Request.values, logoutRequest, Gate.tokenHeader, List.filter_cons,
    names_logoutRequest, if_true, Bool.false_eq_true, if_false, List.filter_nil, List.map_cons,
    List.map_nil, List.head?_cons]

variable {id token}

/-- The request ends the session if the session is live and the token is accepted. -/
theorem isLive_of_logoutRequest
    {service : Service}
    {world : World}
    (sound : world.store.condition = .sound)
    (live : world.store.table.isLive id.storageKey world.store.clock = true)
    (portable : Portable token)
    (accepted : (service.engine.check id.text token world.wall world.store).1 = .ok true) :
    (handle service (logoutRequest id token) world).2.store.table.isLive id.storageKey
      world.store.clock = false := by
  have known := ofPath?_logoutRequest id token
  have found : Gate.foundSession? (logoutRequest id token) world.store = some id := by
    rw [Gate.foundSession?_eq_some_iff, Session.isFound_of_sound id sound]
    exact ⟨session?_logoutRequest id token, live⟩
  have shown : Gate.shownToken? (logoutRequest id token) = some token := by
    rw [Gate.shownToken?_eq_some_iff, value?_logoutRequest, portable.admitted]
    exact ⟨portable.shown, rfl⟩
  rcases handle_finish_cases service known rfl world with
    ⟨_, _, refused⟩ | ⟨owner, other, foundOwner, _, _, _, removed⟩
  · have asked := attempt?_of_found known (Gate.isSafe_of_post rfl) found shown
    exact absurd accepted (refused ⟨id.text, token, world.wall⟩ asked)
  · obtain rfl := Option.some.inj (found.symm.trans foundOwner)
    have works : (service.engine.check id.text other world.wall world.store).2.condition =
        .sound := (Token.Engine.check_condition ..).trans sound
    have ended := Store.holds_perform_remove id.storageKey works
    rw [removed, Store.Table.isLive_eq_isSome, ended world.store.clock (by simp)]
    rfl

end Logout

/-! ## What every request does -/

/-- The gates cannot be bypassed: a request that ends a session ends it properly, a request to end one
that is not answered with 200 touches none, and no request but one that starts a session makes one
or makes one last longer. -/
theorem handle_sessions
    {service : Service}
    (bounded : service.engine.window < Int64.maxValue)
    (request : Request)
    (world : World) :
    let response := (handle service request world).1
    let after := (handle service request world).2.store
    (∀ id : Session.Id,
      world.store.table.isLive id.storageKey world.store.clock = true →
      after.table.isLive id.storageKey world.store.clock = false →
      Ends service request world response after id) ∧
    (request.path = "/api/session/logout" → response.status ≠ 200 →
      ∀ id : Session.Id, Store.Keeps id.storageKey world.store after) ∧
    (¬ (request.method = "POST" ∧ request.path = "/api/session") →
      ∀ (id : Session.Id) (later : Nat), world.store.clock ≤ later →
        after.table.isLive id.storageKey later = true →
        world.store.table.isLive id.storageKey later = true) := by
  have effect := handle_effect service request world
  refine ⟨fun id => effect.ends bounded, ?_, fun other id later => effect.isLive_of_isLive other⟩
  intro path status id
  refine effect.keeps ?_ (fun ended => status ended.2) id
  rintro ⟨_, start⟩
  rw [path] at start
  revert start
  decide

/-- The owner of a session ends it with a token that is a minute old, and cannot without one. -/
theorem handle_sessions_logout :
    ∃ (service : Service) (request bare : Request) (world : World) (id : Session.Id),
      service.engine.window < Int64.maxValue ∧
      Ends service request world (handle service request world).1
        (handle service request world).2.store id ∧
      Store.Keeps id.storageKey world.store (handle service bare world).2.store := by
  let service : Service := ⟨⟨.ofKey ((List.range 16).map UInt8.ofNat), 3600⟩, ⟨7, false⟩⟩
  let id : Session.Id :=
    ⟨[0, 1, 2, 3, 4, 5, 0x46, 7, 0x88, 9, 0xA, 0xB, 0xC, 0xD, 0xE, 0xF], rfl⟩
  let cookie : Header := ⟨"cookie", Text.utf8 "session_id=00010203-0405-4607-8809-0a0b0c0d0e0f"⟩
  let bare : Request := ⟨"POST", "/api/session/logout", [cookie], []⟩
  let store : Store := (Store.new .sound).write id.storageKey 604800000
  let world : World := ⟨store, 1700000060, .ofList [], []⟩
  have bounded : service.engine.window < Int64.maxValue := by decide
  have small : Text.byteCount id.text ≤ 255 := by
    rw [id.byteCount_text]
    decide
  obtain ⟨token, minted⟩ : ∃ token,
      (service.engine.mint id.text 1700000000 (.ofList (List.replicate 12 0))).1 = .ok token :=
    service.engine.exists_mint (Token.Payload.length_encode_le_payloadLimit small) (by decide)
  have live : world.store.table.isLive id.storageKey world.store.clock = true := by
    decide +kernel
  have accepted : (service.engine.check id.text token world.wall world.store).1 = .ok true := by
    have other := Session.Id.spentKey_ne_storageKey token id
    have free := (Store.Keeps.write other 604800000 (.new .sound)).isLive_eq (Nat.le_refl 0)
    exact Token.Engine.check_of_mint bounded minted ⟨by decide, by decide⟩ rfl free (by decide)
  have gone := isLive_of_logoutRequest rfl live (portable_of_mint minted small) accepted
  have path : bare.path = "/api/session/logout" := by decide +kernel
  have refused : (handle service bare world).1.status ≠ 200 := by decide +kernel
  exact ⟨service, logoutRequest id token, bare, world, id, bounded,
    (handle_sessions bounded _ world).1 id live gone,
    (handle_sessions bounded bare world).2.1 path refused id⟩

/-- With a window as long as the range of a clock no token is ever too old, since the difference of two
readings stops at the end of that range.  So the oldest token of all ends a session that was started by
a request, although it left the window long ago. -/
theorem handle_sessions_of_endless_window :
    let service : Service :=
      ⟨⟨.ofKey ((List.range 16).map UInt8.ofNat), 9223372036854775807⟩, ⟨7, false⟩⟩
    let start : World := ⟨.new .sound, 1700000000, .ofList ((List.range 16).map UInt8.ofNat), []⟩
    let id : Session.Id :=
      ⟨[0, 1, 2, 3, 4, 5, 0x46, 7, 0x88, 9, 0xA, 0xB, 0xC, 0xD, 0xE, 0xF], rfl⟩
    let world := (Scenario.run service [.request ⟨"POST", "/api/session", [], []⟩] start).2
    ∃ token,
      (service.engine.mint id.text (-9223372036854775808)
        (.ofList (List.replicate 12 0))).1 = .ok token ∧
      (let request := logoutRequest id token
      let response := (handle service request world).1
      let after := (handle service request world).2.store
      world.store.table.isLive id.storageKey world.store.clock = true ∧
      after.table.isLive id.storageKey world.store.clock = false ∧
      (∀ payload, service.engine.Opens token payload →
        service.engine.window.toInt < world.wall.toInt - payload.issued.toInt) ∧
      ¬ Ends service request world response after id) := by
  intro service start id world
  have small : Text.byteCount id.text ≤ 255 := by
    rw [id.byteCount_text]
    decide
  obtain ⟨token, minted⟩ : ∃ token,
      (service.engine.mint id.text (-9223372036854775808)
        (.ofList (List.replicate 12 0))).1 = .ok token :=
    service.engine.exists_mint (Token.Payload.length_encode_le_payloadLimit small) (by decide)
  have opens := Token.Engine.opens_of_mint minted
  have portable := portable_of_mint minted small
  have store : world.store = (Store.new .sound).write id.storageKey 604800000 := by
    decide +kernel
  have wall : world.wall = 1700000000 := by decide +kernel
  have sound : world.store.condition = .sound := by rw [store]; rfl
  have live : world.store.table.isLive id.storageKey world.store.clock = true := by
    rw [store]
    decide +kernel
  have passed : service.engine.judgeTime (-9223372036854775808) 1700000000 = .ok () := by decide
  have second : service.engine.claimLifetime (-9223372036854775808) 1700000000 = 1 := by decide
  have judged : service.engine.judge id.text token 1700000000 = .ok (.claim 1) := by
    rw [Token.Engine.judge_of_opens opens, passed]
    dsimp only
    rw [if_pos rfl, second]
  have accepted : (service.engine.check id.text token world.wall world.store).1 = .ok true := by
    have other := Session.Id.spentKey_ne_storageKey token id
    have free : world.store.table.isLive (Store.spentKey token) world.store.clock = false := by
      rw [store]
      exact (Store.Keeps.write other 604800000 (.new .sound)).isLive_eq (Nat.le_refl 0)
    have range : Store.deadline? world.store.clock 1 = some 1000 := by
      rw [store]
      decide
    rw [wall, Token.Engine.check_of_sound judged sound, if_neg (by simp [free]), range]
  have old : ∀ payload, service.engine.Opens token payload →
      service.engine.window.toInt < world.wall.toInt - payload.issued.toInt := by
    intro payload opensToo
    obtain rfl := opensToo.unique opens
    rw [wall]
    decide
  have gone : (handle service (logoutRequest id token) world).2.store.table.isLive id.storageKey
      world.store.clock = false :=
    isLive_of_logoutRequest sound live portable accepted
  refine ⟨token, minted, live, gone, old, fun ends => ?_⟩
  obtain ⟨other, payload, shown, opensOther, _, _, notLate, _⟩ := ends.token
  rw [value?_logoutRequest, Option.bind_some, portable.shown] at shown
  obtain rfl := Option.some.inj shown
  exact absurd notLate (Int.not_le.mpr (old payload opensOther))

end Http
end AntiForgery
