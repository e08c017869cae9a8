import AntiForgery.Proofs.Http.CrossOrigin

/-!
# Which origins are admitted

The origins that a text lists make a policy unless one of them is no header or a wildcard, and a page is
admitted if its origin is one of them, byte for byte.  A layer that compares the origin of a request with
its list is all that this rests on.
-/

namespace AntiForgery
namespace Http

/-! ## The policy of a list -/

/-- The text can be the value of a header: it holds no control character but tabs. -/
def IsHeaderText (text : String) : Prop :=
  ∀ byte ∈ Text.utf8 text, byte = 0x09 ∨ 0x20 ≤ byte ∧ byte ≠ 0x7F

instance (text : String) : Decidable (IsHeaderText text) :=
  List.decidableBAll (fun byte => byte = 0x09 ∨ 0x20 ≤ byte ∧ byte ≠ 0x7F) (Text.utf8 text)

/-- The characters that a header takes are the ones that an origin may consist of. -/
theorem isHeaderValue_iff {text : String} : isHeaderValue text = true ↔ IsHeaderText text := by
  simp [isHeaderValue, isHeaderByte, IsHeaderText, or_comm]

namespace CrossOrigin

/-- A list makes no policy for one of two reasons, and a policy if neither is there. -/
theorem ofOrigins_cases (origins : List String) :
    ((∃ origin ∈ origins, ¬ IsHeaderText origin) ∧ ofOrigins origins = .error .notHeader) ∨
    ((∀ origin ∈ origins, IsHeaderText origin) ∧ "*" ∈ origins ∧
      ofOrigins origins = .error .wildcard) ∨
    ((∀ origin ∈ origins, IsHeaderText origin) ∧ "*" ∉ origins ∧
      ofOrigins origins = .ok ⟨origins⟩) := by
  have headers : origins.all isHeaderValue = true ↔ ∀ origin ∈ origins, IsHeaderText origin := by
    simp only [List.all_eq_true, isHeaderValue_iff]
  rw [ofOrigins]
  by_cases valid : ∀ origin ∈ origins, IsHeaderText origin
  · rw [if_neg (by simp [headers.mpr valid])]
    by_cases wildcard : "*" ∈ origins
    · rw [if_pos (List.contains_iff_mem.mpr wildcard)]
      exact .inr (.inl ⟨valid, wildcard, rfl⟩)
    · rw [if_neg (by simpa using wildcard)]
      exact .inr (.inr ⟨valid, wildcard, rfl⟩)
  · rw [if_pos (by simpa using fun all => valid (headers.mp all))]
    exact .inl ⟨by simpa using valid, rfl⟩

/-- A list is refused for its characters exactly if one of the origins cannot stand in a header. -/
theorem ofOrigins_eq_notHeader_iff {origins : List String} :
    ofOrigins origins = .error .notHeader ↔ ∃ origin ∈ origins, ¬ IsHeaderText origin := by
  rcases ofOrigins_cases origins with ⟨invalid, made⟩ | ⟨valid, _, made⟩ | ⟨valid, _, made⟩
  · exact iff_of_true made invalid
  · exact iff_of_false (by simp [made]) fun ⟨origin, listed, invalid⟩ => invalid (valid origin listed)
  · exact iff_of_false (by simp [made]) fun ⟨origin, listed, invalid⟩ => invalid (valid origin listed)

/-- A list is refused for the wildcard exactly if it holds one and nothing else is wrong with it. -/
theorem ofOrigins_eq_wildcard_iff {origins : List String} :
    ofOrigins origins = .error .wildcard ↔
      (∀ origin ∈ origins, IsHeaderText origin) ∧ "*" ∈ origins := by
  rcases ofOrigins_cases origins with
    ⟨⟨origin, listed, invalid⟩, made⟩ | ⟨valid, wildcard, made⟩ | ⟨_, plain, made⟩
  · exact iff_of_false (by simp [made]) fun all => invalid (all.1 origin listed)
  · exact iff_of_true made ⟨valid, wildcard⟩
  · exact iff_of_false (by simp [made]) fun all => plain all.2

/-- Every other list is taken as it is. -/
theorem ofOrigins_eq_ok_iff {origins : List String} {policy : CrossOrigin} :
    ofOrigins origins = .ok policy ↔
      ((∀ origin ∈ origins, IsHeaderText origin) ∧ "*" ∉ origins) ∧ policy = ⟨origins⟩ := by
  rcases ofOrigins_cases origins with
    ⟨⟨origin, listed, invalid⟩, made⟩ | ⟨_, wildcard, made⟩ | ⟨valid, plain, made⟩
  · exact iff_of_false (by simp [made]) fun all => invalid (all.1.1 origin listed)
  · exact iff_of_false (by simp [made]) fun all => all.1.2 wildcard
  · rw [made, Except.ok.injEq, and_iff_right ⟨valid, plain⟩, eq_comm]

/-- The first of the origins that has these bytes. -/
def named? (origins : List String) (value : List UInt8) : Option String :=
  origins.find? fun origin => Text.utf8 origin == value

theorem admitted?_eq_bind (policy : CrossOrigin) (request : Request) :
    policy.admitted? request = (request.value? "origin").bind (named? policy.origins) := by
  rw [admitted?]
  cases request.value? "origin" <;> rfl

/-- An origin is found by its bytes, so only the one that has them is. -/
theorem named?_eq_some_iff {origins : List String} {value : List UInt8} {origin : String} :
    named? origins value = some origin ↔ origin ∈ origins ∧ Text.utf8 origin = value := by
  constructor
  · intro found
    exact ⟨List.mem_of_find?_eq_some found, by simpa using List.find?_some found⟩
  · rintro ⟨member, rfl⟩
    cases found : named? origins (Text.utf8 origin) with
    | none =>
        exact absurd (List.find?_eq_none.mp found origin member) (by simp)
    | some other =>
        have same : Text.utf8 other = Text.utf8 origin := by simpa using List.find?_some found
        rw [Text.utf8_inj.mp same]

end CrossOrigin

/-! ## Layers with a list -/

/-- The header that tells which origin may read an answer. -/
def originHeader : String := "access-control-allow-origin"

/-- What a layer with a list of origins is documented to do, if what it stands in front of does not name
an origin itself: it looks the origin of a request up in its list and names the one that it finds. -/
structure Layer.Lists (layer : Layer) (origins : List String) : Prop where
  asked : ∀ inner request world,
    request.method = "OPTIONS" →
    (layer inner request world).1.values originHeader =
      ((request.value? "origin").bind (CrossOrigin.named? origins)).toList
  passed : ∀ inner request world,
    request.method ≠ "OPTIONS" →
    (inner request world).1.values originHeader = [] →
    (layer inner request world).1.values originHeader =
      ((request.value? "origin").bind (CrossOrigin.named? origins)).toList

/-- The policy names the origin that it admits, and no other. -/
theorem CrossOrigin.values_originHeaders (policy : CrossOrigin) (request : Request) :
    ((policy.originHeaders request).filter (fun header => header.1 == originHeader)).map (·.2) =
      (policy.admitted? request).toList := by
  rw [CrossOrigin.originHeaders]
  cases policy.admitted? request with
  | none => rfl
  | some origin => simp [originHeader]

/-- The policy does what such a layer is documented to do. -/
theorem CrossOrigin.lists_layer (policy : CrossOrigin) : policy.layer.Lists policy.origins where
  asked inner request world asks := by
    rw [policy.layer_of_asks inner asks, Action.pure_apply, ← policy.admitted?_eq_bind,
      ← policy.values_originHeaders]
    simp [Response.values, permission, commonHeaders, originHeader]
  passed inner request world other unnamed := by
    have through : (policy.layer inner request world).1 =
        policy.expose request (inner request world).1 := by
      rw [layer, if_neg (by simpa using other)]
      rfl
    rw [through, ← policy.admitted?_eq_bind, ← policy.values_originHeaders]
    simpa [Response.values, expose, commonHeaders, originHeader] using unnamed

theorem Response.Unshared.values_eq_nil {response : Response} (unshared : response.Unshared) :
    response.values originHeader = [] := by
  have sharing : isSharingHeader originHeader = true := by decide +kernel
  rw [values, List.map_eq_nil_iff, List.filter_eq_nil_iff]
  intro header member
  have other := unshared header member
  rw [beq_iff_eq]
  intro named
  rw [named, sharing] at other
  cases other

section Names

variable {layer : Layer} {origins : List String} (lists : layer.Lists origins)
variable (service : Service) (request : Request) (world : World)
include lists

/-- The service names no origin itself, so what is looked up is all that the answer says. -/
theorem Layer.Lists.values_eq :
    (layer (Http.handle service) request world).1.values originHeader =
      ((request.value? "origin").bind (CrossOrigin.named? origins)).toList := by
  by_cases asks : request.method = "OPTIONS"
  · exact lists.asked _ request world asks
  · exact lists.passed _ request world asks (unshared_handle service request world).values_eq_nil

/-- A layer that keeps to its list names an origin exactly if it is listed and sent. -/
theorem Layer.Lists.mem_values_iff {origin : String} :
    origin ∈ (layer (Http.handle service) request world).1.values originHeader ↔
      origin ∈ origins ∧ request.value? "origin" = some (Text.utf8 origin) := by
  rw [lists.values_eq, Option.mem_toList, Option.bind_eq_some_iff]
  constructor
  · rintro ⟨value, sent, found⟩
    obtain ⟨listed, rfl⟩ := CrossOrigin.named?_eq_some_iff.mp found
    exact ⟨listed, sent⟩
  · rintro ⟨listed, sent⟩
    exact ⟨_, sent, CrossOrigin.named?_eq_some_iff.mpr ⟨listed, rfl⟩⟩

/-- No more than one origin is named. -/
theorem Layer.Lists.values_of_listed
    {origin : String}
    (listed : origin ∈ origins)
    (sent : request.value? "origin" = some (Text.utf8 origin)) :
    (layer (Http.handle service) request world).1.values originHeader = [origin] := by
  rw [lists.values_eq, sent, Option.bind_some,
    CrossOrigin.named?_eq_some_iff.mpr ⟨listed, rfl⟩, Option.toList_some]

/-- A layer that keeps to its list names an origin exactly if a listed one is sent. -/
theorem Layer.Lists.values_ne_nil_iff :
    (layer (Http.handle service) request world).1.values originHeader ≠ [] ↔
      ∃ origin ∈ origins, request.value? "origin" = some (Text.utf8 origin) := by
  constructor
  · intro filled
    obtain ⟨origin, named⟩ := List.exists_mem_of_ne_nil _ filled
    exact ⟨origin, (lists.mem_values_iff service request world).mp named⟩
  · rintro ⟨origin, listed, sent⟩
    exact List.ne_nil_of_mem ((lists.mem_values_iff service request world).mpr ⟨listed, sent⟩)

end Names

end Http

end AntiForgery
