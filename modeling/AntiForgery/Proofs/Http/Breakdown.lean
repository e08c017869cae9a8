import AntiForgery.Http.CrossOrigin
import AntiForgery.Proofs.Http.Portable
import AntiForgery.Proofs.Http.Sessions
import AntiForgery.Proofs.Token.Faults

/-!
# When an answer is an internal error

An answer with status 500 tells that a call to the store has failed, or that too few random bytes were
ready for a nonce.  Nothing that a client sends brings one about by itself.
-/

namespace AntiForgery

/-- A session id is out of bounds or admitted. -/
theorem Admission.sessionId_cases (text : String) :
    (∃ reason, sessionId text = .error (.outOfBounds reason)) ∨ sessionId text = .ok () := by
  rw [sessionId]
  split
  · exact .inl ⟨_, rfl⟩
  · split
    · exact .inl ⟨_, rfl⟩
    · exact .inr rfl

namespace Http

/-! ## Open endpoints -/

section Open

variable {service : Service} {request : Request} {world : World}

/-- A body that cannot be read is the client's fault and no internal error. -/
theorem status_faultResponse_ne (fault : Body.Fault) : fault.response.status ≠ 500 := by
  cases fault with
  | mediaType => decide
  | size => decide
  | content fault => cases fault <;> decide

/-- A token for a session id that is admitted fails only for want of random bytes. -/
theorem status_createToken_eq_500_iff :
    (createToken service request world).1.status = 500 ↔
      (∃ session issued,
        Body.read Body.sessionField Body.issuedField request = .ok (session, issued) ∧
        Admission.sessionId session = .ok ()) ∧
      world.entropy.ready < 12 := by
  rw [createToken]
  cases Body.read Body.sessionField Body.issuedField request with
  | error fault => exact iff_of_false (status_faultResponse_ne fault) (by simp)
  | ok stated =>
      obtain ⟨session, issued⟩ := stated
      dsimp only
      rcases Admission.sessionId_cases session with ⟨reason, refused⟩ | admitted
      · rw [refused]
        refine iff_of_false (by simp [refusalResponse, Response.json, refusalStatus]) ?_
        rintro ⟨⟨_, _, same, other⟩, _⟩
        cases same
        rw [refused] at other
        cases other
      · have asked : ∃ other time, (Except.ok (session, issued) : Except Body.Fault _) =
            .ok (other, time) ∧ Admission.sessionId other = .ok () :=
          ⟨session, issued, rfl, admitted⟩
        have short := @Token.Payload.length_encode_le_payloadLimit
          ⟨session, issued.getD world.wall⟩ (Admission.byteCount_of_sessionId admitted)
        rw [admitted]
        dsimp only
        rw [Action.bind_apply, Action.now, Action.bind_apply]
        rcases Token.issue_cases service.engine short world with
          ⟨few, report, failed⟩ | ⟨enough, token, _, made⟩
        · rw [failed]
          exact iff_of_true rfl ⟨asked, few⟩
        · rw [made]
          exact iff_of_false (by decide : (200 : Nat) ≠ 500) fun starved =>
            Nat.not_lt.mpr enough starved.2

theorem status_checkToken_eq_500_iff :
    (checkToken service request world).1.status = 500 ↔
      ∃ session token failure,
        statedCheck? request = some (session, token) ∧
        Token.Attempt.Fails service.engine ⟨session, token, world.wall⟩ world.store failure := by
  rw [checkToken, statedCheck?]
  cases Body.read Body.sessionField Body.tokenField request with
  | error fault =>
      exact iff_of_false (status_faultResponse_ne fault) (by simp [Except.toOption])
  | ok stated =>
      obtain ⟨session, token⟩ := stated
      dsimp only [Except.toOption]
      by_cases inside : isAdmitted session token = true
      · rw [if_pos inside, Action.bind_apply, Option.filter_some, if_pos inside]
        rcases Token.redeem_cases service.engine session token world with
          ⟨failure, fails, refused⟩ | ⟨intact, valid, answered⟩
        · rw [refused]
          exact iff_of_true rfl ⟨_, _, failure, rfl, fails⟩
        · rw [answered]
          refine iff_of_false (by decide : (200 : Nat) ≠ 500) ?_
          rintro ⟨_, _, failure, ⟨⟩, fails⟩
          exact intact failure fails
      · rw [if_neg inside, Option.filter_some, if_neg inside]
        exact iff_of_false (by decide : (200 : Nat) ≠ 500) (by simp)

theorem status_startSession_eq_500_iff :
    (startSession service world).1.status = 500 ↔
      ∃ failure,
        (world.store.perform (.record (Session.Id.next world.entropy).storageKey
          service.session.lifetime)).1 = .error failure := by
  rw [startSession, Action.bind_apply]
  rcases Session.start_cases service.session.lifetime world with
    ⟨failure, failed, refused, _⟩ | ⟨deadline, _, recorded, started, _⟩
  · rw [refused]
    exact iff_of_true rfl ⟨failure, failed⟩
  · rw [started]
    refine iff_of_false (by decide : (201 : Nat) ≠ 500) ?_
    rintro ⟨failure, failed⟩
    rw [recorded] at failed
    cases failed

end Open

/-! ## The gates -/

namespace Gate

/-- The first gate answers with an internal error if the store fails; behind it the answer is the one
of what is there. -/
theorem status_session_eq_500_iff
    {request : Request}
    {inner : Session.Id → Action Response}
    {world : World}
    {breaks : Session.Id → Prop}
    (inside : ∀ id, foundSession? request world.store = some id →
      ∀ journal, (inner id { world with journal }).1.status = 500 ↔ breaks id) :
    (session request inner world).1.status = 500 ↔
      (∃ id failure,
        Cookie.session? request = some id ∧
        (world.store.perform (.lookUp id.storageKey)).1 = .error failure) ∨
      ∃ id, foundSession? request world.store = some id ∧ breaks id := by
  simp only [foundSession?_eq_some_iff, Session.isFound] at inside ⊢
  rw [session, Action.bind_apply]
  cases cookie : Cookie.session? request with
  | none => exact iff_of_false (by decide : (403 : Nat) ≠ 500) (by simp)
  | some id =>
      obtain ⟨answer, looked⟩ : ∃ answer,
          world.store.perform (.lookUp id.storageKey) = (answer, world.store) :=
        ⟨_, Prod.ext rfl (Store.perform_lookUp_store world.store id.storageKey)⟩
      simp only [Session.isLive, Action.bind_apply, Action.ask, Action.log, looked]
      cases answer with
      | error failure => exact iff_of_true rfl (.inl ⟨id, failure, rfl, by rw [looked]⟩)
      | ok presence =>
          have intact : ∀ failure,
              (world.store.perform (.lookUp id.storageKey)).1 ≠ .error failure := by
            simp [looked]
          cases presence with
          | absent =>
              refine iff_of_false (by decide : (403 : Nat) ≠ 500) ?_
              rintro (⟨_, failure, ⟨⟩, failed⟩ | ⟨_, ⟨⟨⟩, found⟩, _⟩)
              · exact intact failure failed
              · rw [looked] at found
                cases found
          | present =>
              refine (inside id ⟨cookie, by rw [looked]⟩ _).trans ⟨fun broken => ?_, ?_⟩
              · exact .inr ⟨id, ⟨rfl, by rw [looked]⟩, broken⟩
              · rintro (⟨_, failure, ⟨⟩, failed⟩ | ⟨_, ⟨⟨⟩, _⟩, broken⟩)
                · exact absurd failed (intact failure)
                · exact broken

/-- A token that is added to an answer can always be sent. -/
theorem status_attachToken_eq_500_iff
    (service : Service)
    (id : Session.Id)
    {response : Response}
    (calm : response.status ≠ 500)
    (world : World) :
    (attachToken service id response world).1.status = 500 ↔ world.entropy.ready < 12 := by
  have small : Text.byteCount id.text ≤ 255 := by
    rw [id.byteCount_text]
    decide
  have short := @Token.Payload.length_encode_le_payloadLimit ⟨id.text, world.wall⟩ small
  rw [attachToken, Action.bind_apply, Action.now, Action.bind_apply]
  rcases Token.issue_cases service.engine short world with
    ⟨few, report, failed⟩ | ⟨enough, token, minted, made⟩
  · rw [failed]
    exact iff_of_true rfl few
  · rw [made]
    dsimp only
    rw [if_pos (isHeaderValue_of_isVisible (isVisible_of_mint minted))]
    exact iff_of_false calm (Nat.not_lt.mpr enough)

/-- A request that shows no token is told so. -/
theorem status_demandToken_of_unshown
    (service : Service)
    (id : Session.Id)
    {request : Request}
    (unshown : shownToken? request = none)
    (inner : Action Response)
    (world : World) :
    (demandToken service id request inner world).1.status ≠ 500 := by
  rw [shownToken?] at unshown
  rw [demandToken, Action.bind_apply, presentedToken]
  cases header : request.value? tokenHeader with
  | none => exact (by decide : (401 : Nat) ≠ 500)
  | some value =>
      dsimp only
      cases visible : visibleText? value with
      | none => exact (by decide : (401 : Nat) ≠ 500)
      | some token =>
          dsimp only [Action.pure_apply]
          cases admitted : Admission.token token with
          | error refusal => exact (by decide : (403 : Nat) ≠ 500)
          | ok _ => simp [header, visible, admitted, Except.isOk, Except.toBool] at unshown

/-- The second gate answers with an internal error exactly if the store fails, if nothing behind it
does. -/
theorem status_demandToken_eq_500_iff
    (service : Service)
    (id : Session.Id)
    (request : Request)
    {inner : Action Response}
    {world : World}
    (calm : ∀ token (after : World),
      (service.engine.check id.text token world.wall world.store).1 = .ok true →
      after.store = (service.engine.check id.text token world.wall world.store).2 →
      (inner after).1.status ≠ 500) :
    (demandToken service id request inner world).1.status = 500 ↔
      ∃ token failure,
        shownToken? request = some token ∧
        Token.Attempt.Fails service.engine ⟨id.text, token, world.wall⟩ world.store failure := by
  cases shown : shownToken? request with
  | none => exact iff_of_false (status_demandToken_of_unshown service id shown inner world) (by simp)
  | some token =>
      obtain ⟨middle, store, wall, reached⟩ := demandToken_of_shown service id shown inner world
      have accepts := @Token.redeem_eq_ok_true_iff service.engine id.text token middle
      have spent := Token.redeem_store service.engine id.text token middle
      rw [← store, ← wall] at calm
      rw [reached, ← store, ← wall, redeemToken, Action.bind_apply]
      rcases Token.redeem_cases service.engine id.text token middle with
        ⟨failure, fails, refused⟩ | ⟨intact, valid, answered⟩
      · rw [refused]
        exact iff_of_true rfl ⟨token, failure, rfl, fails⟩
      · rw [answered] at accepts
        rw [answered]
        refine iff_of_false ?_ ?_
        · cases valid with
          | false => exact (by decide : (403 : Nat) ≠ 500)
          | true => exact calm token _ (accepts.mp rfl) spent
        · rintro ⟨_, failure, ⟨⟩, fails⟩
          exact intact failure fails

end Gate

/-! ## The whole service -/

/-- The calls that a request makes to the store, each with the store that it is made to: a guarded
endpoint has the session looked up and the token spent, and its session may be ended; other endpoints
record a session or spend a token. -/
inductive Asks (service : Service) (request : Request) (world : World) :
    {α : Type} → Store → Store.Call α → Prop
  | lookUpSession
      (endpoint : GuardedEndpoint)
      (id : Session.Id)
      (known : Route.ofPath? request.path = some (.guarded endpoint))
      (cookie : Cookie.session? request = some id) :
      Asks service request world world.store (.lookUp id.storageKey)
  | recordSession
      (known : Route.ofPath? request.path = some (.free .start))
      (post : request.method = "POST") :
      Asks service request world world.store
        (.record (Session.Id.next world.entropy).storageKey service.session.lifetime)
  | spendToken
      {α : Type}
      (call : Store.Call α)
      (attempt : Token.Attempt)
      (asked : attempt? request world = some attempt)
      (asks : attempt.Asks service.engine world.store call) :
      Asks service request world world.store call
  | removeSession
      (id : Session.Id)
      (token : String)
      (known : Route.ofPath? request.path = some (.guarded .finish))
      (post : request.method = "POST")
      (found : Gate.foundSession? request world.store = some id)
      (shown : Gate.shownToken? request = some token)
      (accepted : (service.engine.check id.text token world.wall world.store).1 = .ok true) :
      Asks service request world (service.engine.check id.text token world.wall world.store).2
        (.remove id.storageKey)

/-- A call to the store fails that a request makes. -/
def CallFails (service : Service) (request : Request) (world : World) : Prop :=
  ∃ (α : Type) (store : Store) (call : Store.Call α) (failure : Store.Failure),
    Asks service request world store call ∧ (store.perform call).1 = .error failure

/-- A request that has to be given a token: in the body of the answer for the session id that it
states, or in the header of it for the session that it belongs to. -/
inductive HasToMint (request : Request) (world : World) : Prop
  | body
      (session : String)
      (issued : Option Seconds)
      (known : Route.ofPath? request.path = some (.free .create))
      (post : request.method = "POST")
      (read : Body.read Body.sessionField Body.issuedField request = .ok (session, issued))
      (admitted : Admission.sessionId session = .ok ())
  | header
      (endpoint : GuardedEndpoint)
      (id : Session.Id)
      (known : Route.ofPath? request.path = some (.guarded endpoint))
      (safe : Gate.isSafe request.method = true)
      (found : Gate.foundSession? request world.store = some id)

/-- A request to start a session. -/
structure IsStart (request : Request) : Prop where
  known : Route.ofPath? request.path = some (.free .start)
  post : request.method = "POST"

section Handle

variable {service : Service} {request : Request} {world : World}

theorem status_handle_of_none (none : Route.ofPath? request.path = none) :
    (handle service request world).1.status = 404 := by
  rw [handle, none]
  simp only [Action.bind_apply, Action.pure_apply]
  split <;> rfl

/-- At an open path an internal error is one of the endpoint, which takes one method only. -/
theorem status_handle_of_free_eq_500_iff
    {endpoint : PublicEndpoint}
    (known : Route.ofPath? request.path = some (.free endpoint)) :
    (handle service request world).1.status = 500 ↔
      request.method = "POST" ∧ (endpoint.serve service request world).1.status = 500 := by
  by_cases post : request.method = "POST"
  · rw [handle_of_post service known post]
    exact (and_iff_right post).symm
  · rw [(handle_of_ne_post service known post world).2]
    exact iff_of_false (by decide) fun broken => post broken.1

theorem Route.status_serveGuarded_of_safe
    (safe : Gate.isSafe request.method = true)
    (endpoint : GuardedEndpoint)
    (id : Session.Id) :
    (serveGuarded request endpoint id world).1.status ≠ 500 := by
  rw [serveGuarded]
  split
  · next taken =>
      cases endpoint with
      | issue => exact (by decide : (200 : Nat) ≠ 500)
      | finish =>
          have post : request.method = "POST" := by
            simpa [GuardedEndpoint.methods] using taken
          rw [Gate.isSafe_of_post post] at safe
          cases safe
  · exact (by decide : (405 : Nat) ≠ 500)

/-- A guarded request that changes nothing fails only if its session cannot be looked up, or if too few
random bytes are ready for the token that it is given. -/
theorem status_handle_of_safe_eq_500_iff
    {endpoint : GuardedEndpoint}
    (known : Route.ofPath? request.path = some (.guarded endpoint))
    (safe : Gate.isSafe request.method = true) :
    (handle service request world).1.status = 500 ↔
      (∃ id failure,
        Cookie.session? request = some id ∧
        (world.store.perform (.lookUp id.storageKey)).1 = .error failure) ∨
      ∃ id, Gate.foundSession? request world.store = some id ∧ world.entropy.ready < 12 := by
  rw [(handle_of_some service known world).2, Route.serve]
  refine Gate.status_session_eq_500_iff fun id _ journal => ?_
  have calm := @Route.status_serveGuarded_of_safe request world safe endpoint id
  obtain ⟨response, served, _⟩ := Route.exists_serveGuarded_eq_pure safe endpoint id
  rw [served] at calm
  rw [Gate.token, if_pos safe, served, pure_bind]
  exact Gate.status_attachToken_eq_500_iff service id calm _

/-- A session that is found can be ended: the token of the request was spent, so the store works. -/
theorem Route.status_serveGuarded_of_accepted
    (changes : Gate.isSafe request.method = false)
    (endpoint : GuardedEndpoint)
    {id : Session.Id}
    (found : Session.isFound id world.store = true)
    {token : String}
    (accepted : (service.engine.check id.text token world.wall world.store).1 = .ok true)
    {after : World}
    (spent : after.store = (service.engine.check id.text token world.wall world.store).2) :
    (serveGuarded request endpoint id after).1.status ≠ 500 := by
  by_cases ends : endpoint = .finish ∧ request.method = "POST"
  · obtain ⟨rfl, post⟩ := ends
    have sound : after.store.condition = .sound := by
      rw [spent, Token.Engine.check_condition]
      exact sound_of_found_of_accepted found accepted
    rw [serveGuarded_finish post, (endSession_of_sound id sound).1]
    decide
  · rw [serveGuarded_of_changing changes ends]
    exact (by decide : (405 : Nat) ≠ 500)

/-- A guarded request that changes something fails only if its session cannot be looked up or its token
cannot be checked. -/
theorem status_handle_of_changing_eq_500_iff
    {endpoint : GuardedEndpoint}
    (known : Route.ofPath? request.path = some (.guarded endpoint))
    (changes : Gate.isSafe request.method = false) :
    (handle service request world).1.status = 500 ↔
      (∃ id failure,
        Cookie.session? request = some id ∧
        (world.store.perform (.lookUp id.storageKey)).1 = .error failure) ∨
      ∃ id, Gate.foundSession? request world.store = some id ∧
        ∃ token failure,
          Gate.shownToken? request = some token ∧
          Token.Attempt.Fails service.engine ⟨id.text, token, world.wall⟩ world.store failure := by
  rw [(handle_of_some service known world).2, Route.serve]
  refine Gate.status_session_eq_500_iff fun id found journal => ?_
  have there := (Gate.foundSession?_eq_some_iff.mp found).2
  rw [Gate.token, if_neg (by simp [changes])]
  apply Gate.status_demandToken_eq_500_iff
  intro token after accepted spent
  exact Route.status_serveGuarded_of_accepted changes endpoint there accepted spent

/-! ### Both directions -/

/-- A call that fails makes an internal error of the answer. -/
theorem status_handle_of_callFails (fails : CallFails service request world) :
    (handle service request world).1.status = 500 := by
  obtain ⟨_, _, call, failure, asks, failed⟩ := fails
  cases asks with
  | lookUpSession endpoint id known cookie =>
      cases method : Gate.isSafe request.method with
      | true =>
          exact (status_handle_of_safe_eq_500_iff known method).mpr (.inl ⟨id, _, cookie, failed⟩)
      | false =>
          exact (status_handle_of_changing_eq_500_iff known method).mpr
            (.inl ⟨id, _, cookie, failed⟩)
  | recordSession known post =>
      exact (status_handle_of_free_eq_500_iff known).mpr ⟨post,
        status_startSession_eq_500_iff.mpr ⟨_, failed⟩⟩
  | spendToken _ attempt asked asks =>
      rcases attempt?_cases asked with
        ⟨session, token, known, post, stated, rfl⟩ |
          ⟨endpoint, id, token, known, changes, found, shown, rfl⟩
      · exact (status_handle_of_free_eq_500_iff known).mpr ⟨post,
          status_checkToken_eq_500_iff.mpr ⟨session, token, _, stated, _, call, asks, failed⟩⟩
      · exact (status_handle_of_changing_eq_500_iff known changes).mpr
          (.inr ⟨id, found, token, _, shown, _, call, asks, failed⟩)
  | removeSession id token known post found shown accepted =>
      have sound : (service.engine.check id.text token world.wall world.store).2.condition =
          .sound := by
        rw [Token.Engine.check_condition]
        exact sound_of_found_of_accepted (Gate.foundSession?_eq_some_iff.mp found).2 accepted
      exact absurd failed (Store.perform_ne_error_of_sound sound (by simp [Store.Call.lifetime?]) _)

/-- A token that cannot be made for want of random bytes makes an internal error of the answer. -/
theorem status_handle_of_hasToMint
    (mints : HasToMint request world)
    (few : world.entropy.ready < 12) :
    (handle service request world).1.status = 500 := by
  cases mints with
  | body session issued known post read admitted =>
      exact (status_handle_of_free_eq_500_iff known).mpr ⟨post,
        status_createToken_eq_500_iff.mpr ⟨⟨session, issued, read, admitted⟩, few⟩⟩
  | header endpoint id known safe found =>
      exact (status_handle_of_safe_eq_500_iff known safe).mpr (.inr ⟨id, found, few⟩)

/-- An answer is an internal error exactly if a call to the store has failed that was made for the
request, or the request had to be given a token when too few random bytes were ready for a nonce. -/
theorem status_handle_eq_500_iff :
    (handle service request world).1.status = 500 ↔
      CallFails service request world ∨
      (HasToMint request world ∧ world.entropy.ready < 12) := by
  constructor
  · intro broken
    cases known : Route.ofPath? request.path with
    | none =>
        rw [status_handle_of_none known] at broken
        cases broken
    | some route =>
        cases route with
        | free endpoint =>
            obtain ⟨post, broken⟩ := (status_handle_of_free_eq_500_iff known).mp broken
            cases endpoint with
            | create =>
                obtain ⟨⟨session, issued, read, admitted⟩, few⟩ :=
                  status_createToken_eq_500_iff.mp broken
                exact .inr ⟨.body session issued known post read admitted, few⟩
            | check =>
                obtain ⟨session, token, failure, stated, _, call, asks, failed⟩ :=
                  status_checkToken_eq_500_iff.mp broken
                have asked : attempt? request world = some ⟨session, token, world.wall⟩ := by
                  simp [attempt?, known, post, stated]
                exact .inl ⟨_, _, call, failure, .spendToken call _ asked asks, failed⟩
            | start =>
                obtain ⟨failure, failed⟩ := status_startSession_eq_500_iff.mp broken
                exact .inl ⟨_, _, _, failure, .recordSession known post, failed⟩
        | guarded endpoint =>
            cases method : Gate.isSafe request.method with
            | true =>
                rcases (status_handle_of_safe_eq_500_iff known method).mp broken with
                  ⟨id, failure, cookie, failed⟩ | ⟨id, found, few⟩
                · exact .inl ⟨_, _, _, failure, .lookUpSession endpoint id known cookie, failed⟩
                · exact .inr ⟨.header endpoint id known method found, few⟩
            | false =>
                rcases (status_handle_of_changing_eq_500_iff known method).mp broken with
                  ⟨id, failure, cookie, failed⟩ |
                    ⟨id, found, token, failure, shown, _, call, asks, failed⟩
                · exact .inl ⟨_, _, _, failure, .lookUpSession endpoint id known cookie, failed⟩
                · have asked := attempt?_of_found known method found shown
                  exact .inl ⟨_, _, call, failure, .spendToken call _ asked asks, failed⟩
  · rintro (fails | ⟨mints, few⟩)
    · exact status_handle_of_callFails fails
    · exact status_handle_of_hasToMint mints few

end Handle

/-! ## A store that works -/

section Asks

variable {service : Service} {request : Request} {world : World} {α : Type} {store : Store}
variable {call : Store.Call α}

/-- No call finds the store in another condition or at another time than the request does. -/
theorem Asks.same (asks : Asks service request world store call) :
    store.condition = world.store.condition ∧ store.clock = world.store.clock := by
  cases asks with
  | removeSession id token =>
      exact ⟨Token.Engine.check_condition .., Token.Engine.check_clock ..⟩
  | _ => exact ⟨rfl, rfl⟩

/-- With a window of thirty days and sessions of a year every record lasts for a second at least and for
a year at most. -/
theorem Asks.lifetime_bounds
    (window : service.engine.window.toInt ≤ 2592000)
    (year : service.session.lifetime ≤ 31536000)
    (asks : Asks service request world store call)
    {lifetime : Nat}
    (own : call.lifetime? = some lifetime) :
    1 ≤ lifetime ∧ lifetime ≤ 31536000 := by
  cases asks with
  | lookUpSession => cases own
  | recordSession =>
      cases own
      exact ⟨Session.one_le_lifetime _, year⟩
  | spendToken _ attempt asked asks =>
      obtain ⟨least, most⟩ := asks.lifetime_bounds (by omega) own
      exact ⟨least, by omega⟩
  | removeSession => cases own

/-- A sound store fails no request unless less than a year is left on its clock. -/
theorem not_callFails_of_sound
    (window : service.engine.window.toInt ≤ 2592000)
    (year : service.session.lifetime ≤ 31536000)
    (sound : world.store.condition = .sound)
    (early : world.store.clock / 1000 + 31536000 ≤ Store.lastSecond) :
    ¬ CallFails service request world := by
  rintro ⟨_, store, call, failure, asks, failed⟩
  obtain ⟨condition, clock⟩ := asks.same
  refine Store.perform_ne_error_of_sound (condition.trans sound) ?_ failure failed
  intro lifetime own
  obtain ⟨_, most⟩ := asks.lifetime_bounds window year own
  rw [clock]
  omega

/-- What the journal says so far changes no call. -/
theorem Asks.journal
    (asks : Asks service request world store call)
    (journal : List Journal.Line) :
    Asks service request { world with journal } store call := by
  cases asks with
  | lookUpSession endpoint id known cookie => exact .lookUpSession endpoint id known cookie
  | recordSession known post => exact .recordSession known post
  | spendToken call attempt asked asks => exact .spendToken call attempt asked asks
  | removeSession id token known post found shown accepted =>
      exact .removeSession id token known post found shown accepted

theorem callFails_journal_iff {journal : List Journal.Line} :
    CallFails service request { world with journal } ↔ CallFails service request world := by
  constructor
  · rintro ⟨_, _, _, failure, asks, failed⟩
    exact ⟨_, _, _, failure, asks.journal world.journal, failed⟩
  · rintro ⟨_, _, _, failure, asks, failed⟩
    exact ⟨_, _, _, failure, asks.journal journal, failed⟩

theorem HasToMint.journal
    (mints : HasToMint request world)
    (journal : List Journal.Line) :
    HasToMint request { world with journal } := by
  cases mints with
  | body session issued known post read admitted =>
      exact .body session issued known post read admitted
  | header endpoint id known safe found => exact .header endpoint id known safe found

theorem hasToMint_journal_iff {journal : List Journal.Line} :
    HasToMint request { world with journal } ↔ HasToMint request world :=
  ⟨fun mints => mints.journal world.journal, fun mints => mints.journal journal⟩

end Asks

/-- A policy for other origins brings no internal error about and hides none. -/
theorem CrossOrigin.status_handle
    (policy : CrossOrigin)
    (service : Service)
    (request : Request)
    (world : World) :
    (policy.handle service request world).1.status =
      if request.method = "OPTIONS" then 200 else (Http.handle service request world).1.status := by
  rw [CrossOrigin.handle]
  by_cases asks : request.method = "OPTIONS"
  · rw [if_pos asks, if_pos (by simpa using asks)]
    rfl
  · rw [if_neg asks, if_neg (by simpa using asks)]
    rfl

end Http
end AntiForgery
