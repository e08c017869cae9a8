import AntiForgery.Proofs.Http.Answers
import AntiForgery.Proofs.Http.Breakdown
import AntiForgery.Proofs.Http.Handout
import AntiForgery.Proofs.Http.Tenure

/-!
# What requests draw random bytes for

A request draws a nonce when it is to be given a token, and an id when it is to start a session.  Every
other request draws nothing, also one that a gate stops, one whose session id is out of bounds and one
that asks for a check, and its answer tells neither a token nor the id of a new session.
-/

namespace AntiForgery
namespace Http

/-! ## What answers tell -/

/-- The answer sets the cookie of a session, with attributes. -/
def Grants (response : Response) (id : Session.Id) : Prop :=
  ∃ attributes, ("set-cookie", Cookie.ofId id ++ "; " ++ attributes) ∈ response.headers

/-- What an answer tells: a token in its body or in a header, the id of a session in a cookie, and by its
status an internal error. -/
def Response.report (response : Response) : Report where
  token token := HandsOut response token ∨ Carries response token
  id id := Grants response id
  failed := response.status = 500

/-- The answer has neither a token nor the cookie of a session, whatever may become of its status. -/
structure Response.Withholds (response : Response) : Prop where
  body : ∀ token, response.body ≠ member "token" (Json.quote token)
  header : ∀ token, ¬ Carries response token
  cookie : ∀ id, ¬ Grants response id

/-- An answer that withholds both tells neither a token nor an id. -/
theorem Response.Withholds.silent {response : Response} (withholds : response.Withholds) :
    response.report.Silent where
  token token := by
    rintro (handed | carried)
    · exact withholds.body token (congrArg Response.body handed)
    · exact withholds.header token carried
  id := withholds.cookie

/-- Objects that begin with members of different names are different. -/
theorem name_eq_of_object {first second : String} {rest other : List UInt8}
    (same : Text.utf8 "\x7b" ++ (Json.quote first ++ rest) =
      Text.utf8 "\x7b" ++ (Json.quote second ++ other)) :
    first = second := by
  have whole := List.append_cancel_left same
  have read := Json.readText_quote first rest
  rw [whole, Json.readText_quote] at read
  cases read
  rfl

/-- An object with another member does not hand out a token. -/
theorem member_ne_token {name : String} (different : name ≠ "token") (value : List UInt8)
    (token : String) :
    Response.member name value ≠ Response.member "token" (Json.quote token) := by
  intro same
  simp only [Response.member, List.append_assoc] at same
  exact different (name_eq_of_object same)

theorem success_ne_token (note token : String) :
    Response.success note ≠ Response.member "token" (Json.quote token) := by
  have beginning : Text.utf8 "\x7b\"success\":true,\"message\":" =
      Text.utf8 "\x7b" ++ (Json.quote "success" ++ Text.utf8 ":true,\"message\":") := by
    decide +kernel
  intro same
  simp only [Response.success, Response.member, beginning, List.append_assoc] at same
  exact absurd (name_eq_of_object same) (by decide)

theorem withholds_bare (status : Nat) : (Response.bare status).Withholds where
  body token same := by
    have length := congrArg List.length same
    simp only [Response.bare, Response.member, List.length_append, List.length_nil,
      show (Text.utf8 "\x7b").length = 1 by decide +kernel] at length
    omega
  header token carried := by simp [Carries, Response.bare] at carried
  cookie id granted := by simp [Grants, Response.bare] at granted

/-- An answer in JSON withholds tokens and ids unless its body hands out a token. -/
theorem withholds_json
    {status : Nat}
    {body : List UInt8}
    (other : ∀ token, body ≠ Response.member "token" (Json.quote token)) :
    (Response.json status body).Withholds where
  body := other
  header := not_carries_json status body
  cookie id granted := by simp [Grants, Response.json] at granted

theorem withholds_refusalResponse (refusal : Refusal) : (refusalResponse refusal).Withholds :=
  withholds_json (member_ne_token (by decide) _)

theorem withholds_verdict (valid : Bool) : (verdict valid).Withholds :=
  withholds_json (member_ne_token (by decide) _)

theorem withholds_faultResponse (fault : Body.Fault) : fault.response.Withholds where
  body token same := by
    have same : [] = Response.member "token" (Json.quote token) := same
    rw [Response.member, show Text.utf8 "\x7b" = [0x7b] by decide +kernel] at same
    cases same
  header token carried := by
    simp [Carries, Body.Fault.response, Response.prose, Gate.tokenHeader] at carried
  cookie id granted := by
    simp [Grants, Body.Fault.response, Response.prose] at granted

theorem Response.Withholds.withHeader
    {response : Response}
    (withholds : response.Withholds)
    {name value : String}
    (notToken : name ≠ Gate.tokenHeader)
    (notGrant : name = "set-cookie" → ∀ id attributes, value ≠ Cookie.ofId id ++ "; " ++ attributes) :
    (response.withHeader name value).Withholds where
  body := withholds.body
  header token carried := by
    rcases List.mem_append.mp carried with earlier | added
    · exact withholds.header token earlier
    · simp only [List.mem_singleton, Prod.mk.injEq] at added
      exact notToken added.1.symm
  cookie id granted := by
    obtain ⟨attributes, member⟩ := granted
    rcases List.mem_append.mp member with earlier | added
    · exact withholds.cookie id ⟨attributes, earlier⟩
    · simp only [List.mem_singleton, Prod.mk.injEq] at added
      exact notGrant added.1.symm id attributes added.2.symm

/-! ## Cookies -/

namespace Cookie

/-- What a cookie says behind its name, up to the attributes. -/
def said (cookie : String) : List Char :=
  (cookie.toList.drop (sessionName.toList.length + 1)).takeWhile (· != ';')

/-- The cookie of a session says its id. -/
theorem said_ofId (id : Session.Id) (attributes : String) :
    said (ofId id ++ "; " ++ attributes) = id.text.toList := by
  have letters : ∀ char ∈ id.text.toList, (char != ';') = true := fun char member =>
    bne_iff_ne.mpr (letter_of_mem_text char member).2
  have whole : (ofId id ++ "; " ++ attributes).toList =
      (sessionName.toList ++ ['=']) ++ (id.text.toList ++ ';' :: ' ' :: attributes.toList) := by
    simp [ofId]
  rw [said, whole, List.drop_left' (by simp), List.takeWhile_append_of_pos letters,
    List.takeWhile_cons_of_neg (by simp), List.append_nil]

theorem said_revoke (wall : Seconds) : said (revoke wall) = [] := by
  obtain ⟨rest, whole⟩ : ∃ rest, (revoke wall).toList =
      (sessionName.toList ++ ['=']) ++ ';' :: rest := by
    refine ⟨" Path=/; Max-Age=0; Expires=".toList ++ (Date.header (wall.toInt - pastSeconds)).toList,
      ?_⟩
    simp [revoke]
  rw [said, whole, List.drop_left' (by simp), List.takeWhile_cons_of_neg (by simp)]

/-- The cookie that takes a session away is not the cookie of one. -/
theorem revoke_ne_ofId (wall : Seconds) (id : Session.Id) (attributes : String) :
    revoke wall ≠ ofId id ++ "; " ++ attributes := by
  intro same
  have text := said_revoke wall
  rw [same, said_ofId, String.toList_eq_nil_iff] at text
  have size := id.byteCount_text
  rw [text] at size
  cases size

theorem ofId_append_inj
    {id other : Session.Id}
    {attributes otherAttributes : String}
    (same : ofId id ++ "; " ++ attributes = ofId other ++ "; " ++ otherAttributes) :
    id = other := by
  have text := congrArg said same
  rw [said_ofId, said_ofId, String.toList_inj] at text
  exact Session.Id.text_inj.mp text

end Cookie

/-- The answer to the start of a session grants the id of that session and no other. -/
theorem grants_grant_iff
    {response : Response}
    (plain : ∀ id, ¬ Grants response id)
    {settings : Session.Settings}
    {id other : Session.Id} :
    Grants (response.withHeader "set-cookie" (Cookie.grant id settings)) other ↔ other = id := by
  obtain ⟨attributes, written⟩ := Cookie.grant_eq id settings
  constructor
  · rintro ⟨otherAttributes, member⟩
    rcases List.mem_append.mp member with earlier | added
    · exact absurd ⟨otherAttributes, earlier⟩ (plain other)
    · simp only [List.mem_singleton, Prod.mk.injEq, true_and, written] at added
      exact Cookie.ofId_append_inj added
  · rintro rfl
    refine ⟨attributes, List.mem_append_right _ ?_⟩
    rw [written]
    exact List.mem_singleton_self _

/-- An answer that is given without drawing anything tells neither a token nor an id. -/
theorem Routine.withholds {response : Response} (routine : Routine response) :
    response.Withholds := by
  cases routine with
  | bare status => exact withholds_bare status
  | refused refusal => exact withholds_refusalResponse refusal
  | faulty fault => exact withholds_faultResponse fault
  | judged valid => exact withholds_verdict valid
  | issued => exact withholds_json (success_ne_token _)
  | ended wall =>
      refine (withholds_json (success_ne_token _)).withHeader (by decide) fun _ id attributes => ?_
      exact Cookie.revoke_ne_ofId wall id attributes

/-! ## Answers on their way out -/

theorem Response.Withholds.dress
    {response : Response}
    (withholds : response.Withholds)
    (route : Route)
    (method : String) :
    (route.dress method response).Withholds where
  body token := by
    rcases route.body_dress method response with same | empty
    · rw [same]
      exact withholds.body token
    · rw [empty]
      exact (withholds_bare 0).body token
  header token carried :=
    withholds.header token ((Route.mem_headers_dress (by decide)).mp carried)
  cookie id granted := by
    obtain ⟨attributes, member⟩ := granted
    exact withholds.cookie id ⟨attributes, (Route.mem_headers_dress (by decide)).mp member⟩

/-! ## What draws a nonce -/

/-- What an answer tells of a minting: the token, or an internal error. -/
structure Response.Tells (response : Response) (minted : Except Token.Error String) : Prop where
  token : ∀ token, response.report.token token ↔ minted = .ok token
  id : ∀ id, ¬ Grants response id
  failed : ∀ error, minted = .error error → response.status = 500

theorem Response.Withholds.tells
    {response : Response}
    (withholds : response.Withholds)
    (status : response.status = 500)
    (error : Token.Error) :
    response.Tells (.error error) where
  token token := iff_of_false (withholds.silent.token token) nofun
  id := withholds.cookie
  failed _ _ := status

/-- The answer to a request for a token of an admitted session tells what was minted. -/
theorem tells_createToken
    {service : Service}
    {request : Request}
    {session : String}
    {issued : Option Seconds}
    (read : Body.read Body.sessionField Body.issuedField request = .ok (session, issued))
    (admitted : Admission.sessionId session = .ok ())
    (world : World) :
    (createToken service request world).1.Tells
        (service.engine.mint session (issued.getD world.wall) world.entropy).1 ∧
      (createToken service request world).2.entropy =
        (service.engine.mint session (issued.getD world.wall) world.entropy).2 := by
  obtain ⟨told, left⟩ := @createToken_cases service _ _ _ read admitted world
  refine ⟨?_, left⟩
  rcases told with ⟨error, missed, refused⟩ | ⟨token, minted, said⟩
  · rw [refused, missed]
    exact (withholds_refusalResponse _).tells rfl error
  · rw [said, minted]
    refine ⟨fun other => ?_, fun id granted => ?_, fun error failed => ?_⟩
    · rw [Except.ok.injEq, ← handsOut_json_iff]
      exact or_iff_left (not_carries_json _ _ other)
    · simp [Grants, Response.json] at granted
    · cases failed

/-- An answer that has a token added tells it, also in the way that it leaves the service. -/
theorem tells_dress_withHeader
    {response : Response}
    (withholds : response.Withholds)
    (route : Route)
    (method token : String) :
    (route.dress method (response.withHeader Gate.tokenHeader token)).Tells (.ok token) where
  token other := by
    have carries : Carries (route.dress method (response.withHeader Gate.tokenHeader token)) other ↔
        token = other := by
      rw [Carries, Route.mem_headers_dress (by decide)]
      have plain := withholds.header other
      simp only [Carries] at plain
      simp [Response.withHeader, plain, eq_comm]
    have bodiless : ¬ HandsOut (route.dress method (response.withHeader Gate.tokenHeader token))
        other := by
      intro handed
      have body := congrArg Response.body handed
      rcases route.body_dress method (response.withHeader Gate.tokenHeader token) with same | empty
      · exact withholds.body other (same.symm.trans body)
      · exact (withholds_bare 0).body other (empty.symm.trans body)
    rw [Except.ok.injEq, ← carries]
    exact or_iff_right bodiless
  id id := by
    rintro ⟨attributes, member⟩
    rw [Route.mem_headers_dress (by decide)] at member
    rcases List.mem_append.mp member with earlier | added
    · exact withholds.cookie id ⟨attributes, earlier⟩
    · simp [Gate.tokenHeader] at added
  failed := nofun

/-- An answer that tells what is minted has drawn a nonce for it. -/
theorem Response.Tells.draws
    {engine : Token.Engine}
    {session : String}
    {issued : Seconds}
    {source : Entropy}
    {response : Response}
    (tells : response.Tells (engine.mint session issued source).1)
    (small : Text.byteCount session ≤ 255)
    (store : Store)
    (lifetime : Nat) :
    Draws engine False lifetime response.report source (engine.mint session issued source).2 store store
      (some .nonce) := by
  have short := @Token.Payload.length_encode_le_payloadLimit ⟨session, issued⟩ small
  have draws := engine.draws_mint session issued source store lifetime tells.token tells.id
    tells.failed
  exact draws.imp_long fun tooLong => absurd tooLong (Nat.not_lt.mpr short)

/-! ## The whole service -/

/-- What a request draws random bytes for: a token for a session id that it states, a token for the
session that it belongs to, or the id of a new session. -/
def draw? (request : Request) (store : Store) : Option Draw :=
  match Route.ofPath? request.path with
  | some (.free .create) =>
      if request.method = "POST" then
        match Body.read Body.sessionField Body.issuedField request with
        | .ok (session, _) => if (Admission.sessionId session).isOk then some .nonce else none
        | .error _ => none
      else none
  | some (.free .start) => if request.method = "POST" then some .id else none
  | some (.guarded _) =>
      if Gate.isSafe request.method && (Gate.foundSession? request store).isSome then some .nonce
      else none
  | _ => none

/-- What a request does with the random bytes and tells in its answer, if that is what it draws. -/
abbrev HandleDraws
    (service : Service)
    (request : Request)
    (world : World)
    (draw? : Option Draw) : Prop :=
  Draws service.engine False service.session.lifetime (handle service request world).1.report
    world.entropy (handle service request world).2.entropy
    world.store (handle service request world).2.store draw?

section Handle

variable {service : Service} {request : Request}

/-- A path that is served plainly draws nothing. -/
theorem draws_of_plain
    {route : Route}
    (known : Route.ofPath? request.path = some route)
    (plain : Plain (route.serve service request))
    (world : World) :
    HandleDraws service request world none := by
  obtain ⟨kept, routine⟩ := plain world
  rw [HandleDraws, handle_of_route service known world]
  exact .idle kept (routine.withholds.dress route request.method).silent

theorem draws_of_unknown
    (unknown : Route.ofPath? request.path = none)
    (world : World) :
    HandleDraws service request world none := by
  rw [HandleDraws, handle_of_unknown service unknown]
  exact .idle rfl (withholds_bare 404).silent

theorem draws_of_create
    (known : Route.ofPath? request.path = some (.free .create))
    (world : World) :
    HandleDraws service request world (draw? request world.store) := by
  by_cases post : request.method = "POST"
  · have served : (Route.free .create).serve service request = createToken service request := by
      rw [Route.serve, post]
      rfl
    cases read : Body.read Body.sessionField Body.issuedField request with
    | error fault =>
        have undrawn : draw? request world.store = none := by simp [draw?, known, read]
        rw [undrawn]
        refine draws_of_plain known ?_ world
        rw [served, createToken, read]
        exact plain_pure (.faulty fault)
    | ok stated =>
        obtain ⟨session, issued⟩ := stated
        cases admitted : Admission.sessionId session with
        | error refusal =>
            have undrawn : draw? request world.store = none := by
              simp [draw?, known, read, admitted, Except.isOk, Except.toBool]
            rw [undrawn]
            refine draws_of_plain known ?_ world
            rw [served, createToken, read]
            simp only [admitted]
            exact plain_refuse refusal
        | ok _ =>
            have drawn : draw? request world.store = some .nonce := by
              simp [draw?, known, post, read, admitted, Except.isOk, Except.toBool]
            obtain ⟨tells, left⟩ := @tells_createToken service _ _ _ read admitted world
            have draws := tells.draws (Admission.byteCount_of_sessionId admitted) world.store
              service.session.lifetime
            have kept := (quiet_createToken service request).store world
            rw [drawn, HandleDraws, handle_of_post service known post,
              show PublicEndpoint.create.serve service request = createToken service request from rfl,
              left, kept]
            exact draws
  · have undrawn : draw? request world.store = none := by simp [draw?, known, post]
    rw [undrawn]
    exact draws_of_plain known (plain_of_ne_post service post .create) world

/-- The answer to a request for a session tells the id of the one that was started. -/
theorem draws_startSession (service : Service) (world : World) :
    Draws service.engine False service.session.lifetime (startSession service world).1.report
      world.entropy (startSession service world).2.entropy
      world.store (startSession service world).2.store (some .id) := by
  have draws := @Session.draws_start service.engine service.session.lifetime world
  have errors := @Session.error_of_start service.session.lifetime world
  rw [startSession, Action.bind_apply]
  generalize Session.start service.session.lifetime world = result at draws errors ⊢
  obtain ⟨answer, after⟩ := result
  dsimp only at draws errors ⊢
  cases answer with
  | error refusal =>
      have silent := (withholds_refusalResponse refusal).silent
      obtain ⟨failure, rfl⟩ := errors rfl
      exact draws (fun id => iff_of_false (silent.id id) (by simp)) silent.token fun _ _ => rfl
  | ok id =>
      have withholds := @withholds_json 201 _ (success_ne_token "Session started")
      refine draws (fun other => ?_) (fun token => ?_) fun _ missed => ?_
      · rw [Except.ok.injEq, eq_comm]
        exact grants_grant_iff withholds.cookie
      · rintro (handed | carried)
        · exact withholds.body token (congrArg Response.body handed)
        · rcases List.mem_append.mp carried with earlier | added
          · exact withholds.header token earlier
          · simp [Gate.tokenHeader] at added
      · cases missed

theorem draws_of_start
    (known : Route.ofPath? request.path = some (.free .start))
    (world : World) :
    HandleDraws service request world (draw? request world.store) := by
  by_cases post : request.method = "POST"
  · have drawn : draw? request world.store = some .id := by simp [draw?, known, post]
    rw [drawn, HandleDraws, handle_of_post service known post,
      show PublicEndpoint.start.serve service request = startSession service from rfl]
    exact draws_startSession service world
  · have undrawn : draw? request world.store = none := by simp [draw?, known, post]
    rw [undrawn]
    exact draws_of_plain known (plain_of_ne_post service post .start) world

theorem draws_of_guarded
    {endpoint : GuardedEndpoint}
    (known : Route.ofPath? request.path = some (.guarded endpoint))
    (world : World) :
    HandleDraws service request world (draw? request world.store) := by
  cases safe : Gate.isSafe request.method with
  | false =>
      have undrawn : draw? request world.store = none := by simp [draw?, known, safe]
      rw [undrawn]
      exact draws_of_plain known (plain_of_changing service safe endpoint) world
  | true =>
      cases found : Gate.foundSession? request world.store with
      | none =>
          have undrawn : draw? request world.store = none := by simp [draw?, known, found]
          obtain ⟨status, journal, _, stopped⟩ := handle_of_missing service known found
          rw [undrawn, HandleDraws, stopped]
          exact .idle rfl ((withholds_bare status).dress _ _).silent
      | some id =>
          have drawn : draw? request world.store = some .nonce := by
            simp [draw?, known, safe, found]
          obtain ⟨response, served, routine⟩ := Route.exists_routine safe endpoint id world
          obtain ⟨journal, passed⟩ := handle_of_found service known safe found served
          obtain ⟨told, left⟩ := Gate.attachToken_cases service id response { world with journal }
          have kept := (Gate.quiet_attachToken service id response).store { world with journal }
          have small : Text.byteCount id.text ≤ 255 := by
            rw [id.byteCount_text]
            decide
          rw [drawn, HandleDraws, passed]
          dsimp only at told left kept ⊢
          rw [left, kept]
          refine Response.Tells.draws ?_ small world.store _
          rcases told with ⟨error, missed, refused⟩ | ⟨token, minted, added⟩
          · rw [refused, missed]
            exact ((withholds_refusalResponse _).dress _ _).tells (Route.status_dress ..) error
          · rw [added, minted]
            exact tells_dress_withHeader routine.withholds _ _ token

/-- Every request draws what it is said to. -/
theorem handle_draws (service : Service) (request : Request) (world : World) :
    HandleDraws service request world (draw? request world.store) := by
  cases known : Route.ofPath? request.path with
  | none =>
      rw [draw?, known]
      exact draws_of_unknown known world
  | some route =>
      cases route with
      | guarded endpoint => exact draws_of_guarded known world
      | free endpoint =>
          cases endpoint with
          | create => exact draws_of_create known world
          | start => exact draws_of_start known world
          | check =>
              rw [draw?, known]
              by_cases post : request.method = "POST"
              · refine draws_of_plain known ?_ world
                rw [Route.serve, post]
                exact plain_checkToken service request
              · exact draws_of_plain known (plain_of_ne_post service post .check) world

end Handle

/-! ## Who draws -/

section Who

variable {request : Request} {world : World}

/-- The requests that draw a nonce are those that have to be given a token. -/
theorem draw?_eq_nonce_iff :
    draw? request world.store = some .nonce ↔ HasToMint request world := by
  constructor
  · intro drawn
    rw [draw?] at drawn
    split at drawn
    · next known =>
        split at drawn
        · next post =>
            split at drawn
            · next session issued read =>
                split at drawn
                · next isOk =>
                    cases admitted : Admission.sessionId session with
                    | error refusal => simp [admitted, Except.isOk, Except.toBool] at isOk
                    | ok _ => exact .body session issued known post read admitted
                · cases drawn
            · cases drawn
        · cases drawn
    · split at drawn <;> cases drawn
    · next endpoint known =>
        split at drawn
        · next passes =>
            rw [Bool.and_eq_true] at passes
            obtain ⟨id, found⟩ := Option.isSome_iff_exists.mp passes.2
            exact .header endpoint id known passes.1 found
        · cases drawn
    · cases drawn
  · intro mints
    cases mints with
    | body session issued known post read admitted =>
        simp [draw?, known, post, read, admitted, Except.isOk, Except.toBool]
    | header endpoint id known safe found => simp [draw?, known, safe, found]

/-- The requests that draw an id are those that are to start a session. -/
theorem draw?_eq_id_iff : draw? request world.store = some .id ↔ IsStart request := by
  constructor
  · intro drawn
    rw [draw?] at drawn
    split at drawn
    · grind
    · next known =>
        split at drawn
        · next post => exact ⟨known, post⟩
        · cases drawn
    · split at drawn <;> cases drawn
    · cases drawn
  · rintro ⟨known, post⟩
    simp [draw?, known, post]

/-- A request that is refused before a token could be minted for it: one for a token whose session id
cannot be read or is out of bounds, one to a guarded endpoint that belongs to no session which the store
finds, or whose method may change something, and one that asks for a check. -/
inductive Refused (request : Request) (store : Store) : Prop
  | inadmissible
      (known : Route.ofPath? request.path = some (.free .create))
      (outside : ∀ session issued,
        Body.read Body.sessionField Body.issuedField request = .ok (session, issued) →
          Admission.sessionId session ≠ .ok ())
  | stranger
      (endpoint : GuardedEndpoint)
      (known : Route.ofPath? request.path = some (.guarded endpoint))
      (missing : Gate.foundSession? request store = none)
  | changing
      (endpoint : GuardedEndpoint)
      (known : Route.ofPath? request.path = some (.guarded endpoint))
      (changes : Gate.isSafe request.method = false)
  | check
      (known : Route.ofPath? request.path = some (.free .check))

/-- A request that is refused a token draws nothing. -/
theorem draw?_of_refused {store : Store} (refused : Refused request store) :
    draw? request store = none := by
  cases refused with
  | inadmissible known outside =>
      simp only [draw?, known]
      split
      · split
        · next session issued read =>
            refine if_neg fun isOk => outside session issued read ?_
            cases admitted : Admission.sessionId session with
            | error refusal => simp [admitted, Except.isOk, Except.toBool] at isOk
            | ok _ => rfl
        · rfl
      · rfl
  | stranger endpoint known missing => simp [draw?, known, missing]
  | changing endpoint known changes => simp [draw?, known, changes]
  | check known => simp [draw?, known]

end Who

end Http
end AntiForgery
