import AntiForgery.Http.CrossOrigin
import AntiForgery.Proofs.Http.Answers
import AntiForgery.Proofs.Http.Handout

/-!
# What stands in front of the service

A layer in front of the service answers the questions of browsers itself and lets every other request
through, with headers added to the answer that only browsers look at.  What such a layer is documented to
do is all that is used of it; the policy for other origins is one of them.
-/

namespace AntiForgery
namespace Http

/-- Whether a header is about calls from other origins. -/
def isSharingHeader (name : String) : Bool :=
  name == "vary" || "access-control-".toList.isPrefixOf name.toList

/-- The headers of a request that a layer looks at when a browser asks what it may do. -/
def consultedHeaders : List String :=
  ["origin", "access-control-request-method", "access-control-request-headers"]

theorem filter_of_isSharingHeader
    {headers : List (String × String)}
    (sharing : ∀ header ∈ headers, isSharingHeader header.1 = true) :
    headers.filter (fun header => !isSharingHeader header.1) = [] :=
  List.filter_eq_nil_iff.mpr fun header member => by simp [sharing header member]

/-- Something in front of a service: it may answer a request itself, or have it answered. -/
abbrev Layer := (Request → Action Response) → Request → Action Response

/-- Only headers that are about calls from other origins are added or changed. -/
structure Annotates (annotate : Response → Response) : Prop where
  status : ∀ response, (annotate response).status = response.status
  body : ∀ response, (annotate response).body = response.body
  headers : ∀ response,
    (annotate response).headers.filter (fun header => !isSharingHeader header.1) =
      response.headers.filter fun header => !isSharingHeader header.1

/-- What a layer for calls from other origins is documented to do. -/
structure Layer.Documented (layer : Layer) : Prop where
  /-- It answers a browser that asks what it may do, with an empty body and headers that are about
  nothing else. -/
  asked : ∀ request, request.method = "OPTIONS" →
    ∃ headers : List (String × String),
      (∀ header ∈ headers, isSharingHeader header.1 = true) ∧
      ∀ inner, layer inner request = pure ⟨200, headers, []⟩
  /-- That answer depends on the headers with which a browser asks. -/
  consulted : ∀ inner request other,
    request.method = "OPTIONS" →
    other.method = "OPTIONS" →
    (∀ name ∈ consultedHeaders, request.values name = other.values name) →
    layer inner request = layer inner other
  /-- It lets every other request through, and adds headers to the answer. -/
  passed : ∀ request, request.method ≠ "OPTIONS" →
    ∃ annotate, Annotates annotate ∧
      ∀ inner, layer inner request = do
        let response ← inner request
        return annotate response

/-! ## The policy for other origins -/

namespace CrossOrigin

/-- The layer of a policy. -/
def layer (policy : CrossOrigin) : Layer := fun inner request =>
  if request.method == "OPTIONS" then return policy.permission request
  else do
    let response ← inner request
    return policy.expose request response

/-- The policy is a layer around the service. -/
theorem handle_eq_layer (policy : CrossOrigin) (service : Service) :
    policy.handle service = policy.layer (Http.handle service) := rfl

theorem isSharingHeader_of_common :
    ∀ header ∈ commonHeaders, isSharingHeader header.1 = true := by
  decide +kernel

/-- What the policy says about an origin stands in headers about sharing. -/
theorem isSharingHeader_of_origin (policy : CrossOrigin) (request : Request) :
    ∀ header ∈ policy.originHeaders request, isSharingHeader header.1 = true := by
  have named : isSharingHeader "access-control-allow-origin" = true := by decide +kernel
  rw [originHeaders]
  cases policy.admitted? request with
  | none => simp
  | some origin => simpa using named

theorem isSharingHeader_of_permission (policy : CrossOrigin) (request : Request) :
    ∀ header ∈ (policy.permission request).headers, isSharingHeader header.1 = true := by
  have named : ∀ name ∈ ["access-control-allow-methods", "access-control-allow-headers",
      "access-control-max-age"], isSharingHeader name = true := by
    decide +kernel
  intro header member
  rcases List.mem_append.mp member with earlier | last
  · rcases List.mem_append.mp earlier with common | origin
    · exact isSharingHeader_of_common header common
    · exact isSharingHeader_of_origin policy request header origin
  · apply named
    simp only [List.mem_cons, List.not_mem_nil, or_false] at last ⊢
    rcases last with rfl | rfl | rfl
    · exact .inl rfl
    · exact .inr (.inl rfl)
    · exact .inr (.inr rfl)

theorem annotates_expose (policy : CrossOrigin) (request : Request) :
    Annotates (policy.expose request) where
  status _ := rfl
  body _ := rfl
  headers response := by
    have named : isSharingHeader "access-control-expose-headers" = true := by decide +kernel
    have added : ∀ header ∈ commonHeaders ++ policy.originHeaders request ++
        [("access-control-expose-headers", Gate.tokenHeader)], isSharingHeader header.1 = true := by
      intro header member
      rcases List.mem_append.mp member with earlier | last
      · rcases List.mem_append.mp earlier with common | origin
        · exact isSharingHeader_of_common header common
        · exact isSharingHeader_of_origin policy request header origin
      · rw [List.mem_singleton] at last
        rw [last]
        exact named
    simp only [expose, List.append_assoc] at added ⊢
    rw [List.filter_append, filter_of_isSharingHeader added, List.append_nil]

/-- A request that asks what it may do is answered by the policy alone. -/
theorem layer_of_asks
    (policy : CrossOrigin)
    (inner : Request → Action Response)
    {request : Request}
    (asks : request.method = "OPTIONS") :
    policy.layer inner request = pure (policy.permission request) :=
  if_pos (by simpa using asks)

/-- The policy does what such a layer is documented to do. -/
theorem documented_layer (policy : CrossOrigin) : policy.layer.Documented where
  asked request asks :=
    ⟨(policy.permission request).headers, policy.isSharingHeader_of_permission request,
      fun inner => policy.layer_of_asks inner asks⟩
  consulted inner request other asks asksToo same := by
    have origin : request.value? "origin" = other.value? "origin" :=
      congrArg List.head? (same "origin" (by decide))
    have permission : policy.permission request = policy.permission other := by
      rw [CrossOrigin.permission, CrossOrigin.permission, originHeaders, originHeaders, admitted?,
        admitted?, origin]
    rw [layer_of_asks policy inner asks, layer_of_asks policy inner asksToo, permission]
  passed request other :=
    ⟨policy.expose request, policy.annotates_expose request,
      fun _ => if_neg (by simpa using other)⟩

end CrossOrigin

/-! ## The headers of the service itself -/

/-- The answer has no header that is about calls from other origins. -/
def Response.Unshared (response : Response) : Prop :=
  ∀ header ∈ response.headers, isSharingHeader header.1 = false

theorem Response.Unshared.withHeader
    {response : Response}
    (unshared : response.Unshared)
    {name : String}
    (other : isSharingHeader name = false)
    (value : String) :
    (response.withHeader name value).Unshared := by
  intro header member
  rcases List.mem_append.mp member with earlier | added
  · exact unshared header earlier
  · rw [List.mem_singleton] at added
    rw [added]
    exact other

theorem unshared_bare (status : Nat) : (Response.bare status).Unshared := nofun

theorem unshared_json (status : Nat) (body : List UInt8) : (Response.json status body).Unshared := by
  have other : isSharingHeader "content-type" = false := by decide +kernel
  intro header member
  obtain rfl := List.mem_singleton.mp member
  exact other

theorem unshared_faultResponse (fault : Body.Fault) : fault.response.Unshared := by
  have other : isSharingHeader "content-type" = false := by decide +kernel
  intro header member
  obtain rfl := List.mem_singleton.mp member
  exact other

theorem Response.Unshared.withCookie {response : Response} (unshared : response.Unshared)
    (cookie : String) : (response.withHeader "set-cookie" cookie).Unshared :=
  unshared.withHeader (by decide +kernel) cookie

/-- On its way out an answer gets no header about sharing. -/
theorem Response.Unshared.dress
    {response : Response}
    (unshared : response.Unshared)
    (route : Route)
    (method : String) :
    (route.dress method response).Unshared := by
  have allow : isSharingHeader "allow" = false := by decide +kernel
  intro header member
  by_cases added : header.1 = "allow"
  · rw [added]
    exact allow
  · exact unshared header ((Route.mem_headers_dress added).mp member)

/-- An answer that is given without drawing anything has no such header. -/
theorem Routine.unshared {response : Response} (routine : Routine response) :
    response.Unshared := by
  cases routine with
  | bare status => exact unshared_bare status
  | refused refusal => exact unshared_json _ _
  | faulty fault => exact unshared_faultResponse fault
  | judged valid => exact unshared_json _ _
  | issued => exact unshared_json _ _
  | ended wall => exact (unshared_json _ _).withCookie _

theorem Given.unshared {response : Response} (given : Given response) : response.Unshared := by
  cases given with
  | routine routine => exact routine.unshared
  | told token => exact unshared_json _ _
  | started cookie => exact (unshared_json _ _).withCookie cookie
  | carrying routine _ token => exact routine.unshared.withHeader (by decide +kernel) token

/-- No answer of the service by itself has a header that is about calls from other origins. -/
theorem unshared_handle (service : Service) (request : Request) (world : World) :
    (handle service request world).1.Unshared := by
  rcases handle_given service request world with ⟨_, unknown⟩ | ⟨route, response, _, given, dressed⟩
  · rw [unknown]
    exact unshared_bare 404
  · rw [dressed]
    exact given.unshared.dress route request.method

/-! ## Requests through a layer -/

/-- The answer without the headers that are about calls from other origins. -/
def Response.withoutSharing (response : Response) : Response :=
  { response with headers := response.headers.filter fun header => !isSharingHeader header.1 }

theorem Response.Unshared.withoutSharing_eq {response : Response} (unshared : response.Unshared) :
    response.withoutSharing = response := by
  have kept : response.headers.filter (fun header => !isSharingHeader header.1) =
      response.headers :=
    List.filter_eq_self.mpr fun header member => by simp [unshared header member]
  rw [Response.withoutSharing, kept]

/-- What is added about sharing is all that tells the answers apart. -/
theorem Annotates.withoutSharing_eq
    {annotate : Response → Response}
    (annotates : Annotates annotate)
    (response : Response) :
    (annotate response).withoutSharing = response.withoutSharing := by
  rw [Response.withoutSharing, Response.withoutSharing, annotates.headers response,
    ← annotates.status response, ← annotates.body response]

/-- The answer permits something and tells nothing else: it is a success without a body and without a
token. -/
structure Permits (response : Response) : Prop where
  status : response.status = 200
  body : response.body = []
  tokenless : ∀ token, ¬ Carries response token

namespace Layer.Documented

variable {layer : Layer}

/-- A request that asks for nothing else than what is allowed never gets behind the layer. -/
theorem exists_permits
    (documented : layer.Documented)
    {request : Request}
    (asks : request.method = "OPTIONS") :
    ∃ response, Permits response ∧ ∀ inner world, layer inner request world = (response, world) := by
  obtain ⟨headers, sharing, answered⟩ := documented.asked request asks
  refine ⟨_, ⟨rfl, rfl, fun token carried => ?_⟩, fun inner world => by rw [answered inner]; rfl⟩
  have own : isSharingHeader Gate.tokenHeader = false := by decide +kernel
  rw [sharing _ carried] at own
  cases own

/-- Neither a cookie nor a token changes what the layer answers. -/
theorem answer_eq
    (documented : layer.Documented)
    {request other : Request}
    (asks : request.method = "OPTIONS")
    (asksToo : other.method = "OPTIONS")
    (same : ∀ name, name ≠ "cookie" → name ≠ Gate.tokenHeader →
      request.values name = other.values name)
    (inner : Request → Action Response) :
    layer inner request = layer inner other := by
  refine documented.consulted inner request other asks asksToo fun name consulted => ?_
  have different : ∀ name ∈ consultedHeaders, name ≠ "cookie" ∧ name ≠ Gate.tokenHeader := by
    decide
  exact same name (different name consulted).1 (different name consulted).2

/-- Every other request does behind the layer what it does without one, and gets the same answer but for
headers that are about calls from other origins. -/
theorem handle_eq
    (documented : layer.Documented)
    (service : Service)
    {request : Request}
    (other : request.method ≠ "OPTIONS")
    (world : World) :
    (layer (handle service) request world).1.withoutSharing = (handle service request world).1 ∧
      (layer (handle service) request world).2 = (handle service request world).2 := by
  obtain ⟨annotate, annotates, passed⟩ := documented.passed request other
  rw [passed, Action.bind_apply, Action.pure_apply]
  refine ⟨?_, rfl⟩
  rw [annotates.withoutSharing_eq]
  exact (unshared_handle service request world).withoutSharing_eq

end Layer.Documented

/-! ## The same requests without a layer -/

/-- Without a layer, a request to a guarded endpoint needs a session also if it only asks what is
allowed. -/
theorem status_handle_of_missing
    {service : Service}
    {request : Request}
    {endpoint : GuardedEndpoint}
    (known : Route.ofPath? request.path = some (.guarded endpoint))
    {world : World}
    (missing : Gate.foundSession? request world.store = none) :
    (handle service request world).1.status = 403 ∨
      (handle service request world).1.status = 500 := by
  obtain ⟨status, journal, refused, stopped⟩ := handle_of_missing service known missing
  rw [stopped]
  dsimp only
  rw [Route.status_dress]
  exact refused

/-- Without a layer, such a request of a session gets a token with the answer that its method is not
taken. -/
theorem handle_of_asks
    {service : Service}
    {request : Request}
    {endpoint : GuardedEndpoint}
    (known : Route.ofPath? request.path = some (.guarded endpoint))
    (asks : request.method = "OPTIONS")
    {world : World}
    {id : Session.Id}
    (found : Gate.foundSession? request world.store = some id)
    (enough : 12 ≤ world.entropy.ready) :
    (handle service request world).1.status = 405 ∧
      (∃ token, Carries (handle service request world).1 token) ∧
      (handle service request world).2.entropy = world.entropy.drop 12 := by
  have safe : Gate.isSafe request.method = true := by
    rw [asks]
    rfl
  have served : Route.serveGuarded request endpoint id = pure (.bare 405) := by
    rw [Route.serveGuarded, asks, if_neg (by cases endpoint <;> decide)]
  have small : Text.byteCount id.text ≤ 255 := by
    rw [id.byteCount_text]
    decide
  have minted := service.engine.mint_of_ready
    (@Token.Payload.length_encode_le_payloadLimit ⟨id.text, world.wall⟩ small) enough
  obtain ⟨journal, passed⟩ := handle_of_found service known safe found served
  obtain ⟨told, left⟩ :=
    Gate.attachToken_cases service id (Response.bare 405) { world with journal }
  rw [passed]
  rcases told with ⟨error, missed, _⟩ | ⟨other, _, added⟩
  · rw [minted] at missed
    cases missed
  · dsimp only at left ⊢
    rw [Route.status_dress, added, left, minted]
    exact ⟨rfl, ⟨other, (Route.mem_headers_dress (by decide)).mpr (List.mem_singleton_self _)⟩, rfl⟩

end Http
end AntiForgery
