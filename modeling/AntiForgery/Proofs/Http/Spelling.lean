import AntiForgery.Http.Router
import AntiForgery.Proofs.Session.Spelling
import AntiForgery.Proofs.Http.Admittance
import Mathlib.Data.List.Forall2

/-!
# The spelling of a cookie

The value of the session cookie is read as an id at once, and nothing else of it is used.  So two
requests that differ in how that value is spelt are one request to the service: it does the same for
both, in every world.
-/

namespace AntiForgery

namespace Http
namespace Cookie

/-! ## Pieces -/

/-- One piece of a cookie header is another one with the value of the session cookie spelt in another
way: what stood behind the equals sign was read as an id, and what stands there now is any text that
is read as the same id. -/
inductive Respelt : List Char → List Char → Prop
  | kept (piece : List Char) : Respelt piece piece
  | value
      (name value : List Char)
      (told text : String)
      (id : Session.Id)
      (equals : '=' ∉ name)
      (read : ofChars? (name ++ '=' :: value) = some ⟨sessionName, told⟩)
      (meant : Session.Id.parse? told = some id)
      (spelt : Session.Id.parse? text = some id) :
      Respelt (name ++ '=' :: value) (name ++ '=' :: text.toList)

/-- No letter of an id in any spelling is white space or has a meaning in a header. -/
theorem letter_of_parse?
    {text : String}
    {id : Session.Id}
    (read : Session.Id.parse? text = some id) :
    ∀ char ∈ text.toList, Text.isBlank char = false ∧ char ≠ ';' := by
  have cases : ∀ n : Fin 256, Session.Id.IsLetter (UInt8.ofNat n.val) →
      UInt8.ofNat n.val < 128 ∧ Text.isBlank (Char.ofNat n.val) = false ∧
        Char.ofNat n.val ≠ ';' := by
    decide +kernel
  have letters : ∀ letter ∈ Text.utf8 text, letter < 128 ∧
      Text.isBlank (Char.ofNat letter.toNat) = false ∧ Char.ofNat letter.toNat ≠ ';' := by
    intro letter member
    have own := cases ⟨letter.toNat, letter.toNat_lt⟩
    rw [UInt8.ofNat_toNat] at own
    exact own (Session.Id.isLetter_of_parse? read letter member)
  intro char member
  rw [Text.toList_of_ascii fun letter member => (letters letter member).1, List.mem_map] at member
  obtain ⟨letter, member, rfl⟩ := member
  exact (letters letter member).2

/-- An id is spelled without a percent sign, so decoding the cookie does not touch it. -/
theorem percent_notMem_of_parse?
    {text : String}
    {id : Session.Id}
    (read : Session.Id.parse? text = some id) :
    0x25 ∉ Text.utf8 text := by
  intro member
  have letter := Session.Id.isLetter_of_parse? read _ member
  revert letter
  decide

/-- A spelling of an id is what the cookie says when it stands there. -/
theorem ofChars?_of_parse?
    {name value : List Char}
    {told text : String}
    {id : Session.Id}
    (equals : '=' ∉ name)
    (read : ofChars? (name ++ '=' :: value) = some ⟨sessionName, told⟩)
    (spelt : Session.Id.parse? text = some id) :
    ofChars? (name ++ '=' :: text.toList) = some ⟨sessionName, text⟩ := by
  have solid : ∀ char ∈ text.toList, Text.isBlank char = false :=
    fun char member => (letter_of_parse? spelt char member).1
  rw [ofChars?_equals equals] at read ⊢
  split at read
  · cases read
  · next filled =>
      rw [if_neg filled, plain?_of_forall solid (percent_notMem_of_parse? spelt)]
      split at read
      · next found told named _ =>
          cases read
          rw [named]
      · cases read

/-- The cookies are of one name, and mean the same id if it is the name of the session cookie. -/
def Means (first second : Cookie) : Prop :=
  first.name = second.name ∧
    (first.name = sessionName →
      Session.Id.parse? first.value = Session.Id.parse? second.value)

/-- Cookies that spell the same ids are read alike. -/
theorem Respelt.rel_ofChars? {first second : List Char} (respelt : Respelt first second) :
    Option.Rel Means (ofChars? first) (ofChars? second) := by
  cases respelt with
  | kept piece =>
      cases ofChars? first with
      | none => exact .none
      | some cookie => exact .some ⟨rfl, fun _ => rfl⟩
  | value name value told text id equals read meant spelt =>
      rw [read, ofChars?_of_parse? equals read spelt]
      exact .some ⟨rfl, fun _ => meant.trans spelt.symm⟩

/-- Spelt in another way, a piece is still one piece. -/
theorem Respelt.notMem {first second : List Char} (respelt : Respelt first second)
    (absent : ';' ∉ first) : ';' ∉ second := by
  cases respelt with
  | kept => exact absent
  | value name value told text id equals read meant spelt =>
      rw [List.mem_append, List.mem_cons, not_or, not_or] at absent ⊢
      exact ⟨absent.1, by decide, fun member => (letter_of_parse? spelt _ member).2 rfl⟩

theorem notMem_of_respelt
    {pieces parts : List (List Char)}
    (respelt : List.Forall₂ Respelt pieces parts)
    (absent : ∀ piece ∈ pieces, ';' ∉ piece) :
    ∀ part ∈ parts, ';' ∉ part := by
  induction respelt with
  | nil => simp
  | cons first _ ih =>
      rw [List.forall_mem_cons] at absent ⊢
      exact ⟨first.notMem absent.1, ih absent.2⟩

/-- The session that cookies name is the one that they mean. -/
theorem bind_find?_of_means
    {first second : List Cookie}
    (means : List.Forall₂ Means first second) :
    (find? sessionName first).bind Session.Id.parse? =
      (find? sessionName second).bind Session.Id.parse? := by
  have reversed := List.forall₂_reverse_iff.mpr means
  simp only [find?]
  generalize first.reverse = first at reversed
  generalize second.reverse = second at reversed
  induction reversed with
  | nil => rfl
  | @cons cookie other rest others same _ ih =>
      obtain ⟨name, value⟩ := same
      by_cases own : cookie.name = sessionName
      · have otherOwn : other.name = sessionName := name.symm.trans own
        rw [List.find?_cons_of_pos (by simpa using own),
          List.find?_cons_of_pos (by simpa using otherOwn)]
        exact value own
      · have otherForeign : ¬ other.name = sessionName := fun same => own (name.trans same)
        rw [List.find?_cons_of_neg (by simpa using own),
          List.find?_cons_of_neg (by simpa using otherForeign)]
        exact ih

end Cookie

/-! ## Headers and requests -/

/-- One header is another one with session cookies in it spelt in another way. -/
inductive Header.Respelt : Header → Header → Prop
  | kept (header : Header) : Respelt header header
  | cookie
      (name text : String)
      (parts : List (List Char))
      (named : name.toLower = "cookie")
      (respelt : List.Forall₂ Cookie.Respelt (Text.pieces ';' text.toList) parts) :
      Respelt ⟨name, Text.utf8 text⟩ ⟨name, Text.utf8 (String.ofList (Text.join ';' parts))⟩

/-- A session cookie that is alone in its header may be spelt in any way that is read as the id. -/
theorem Header.respelt_of_parse?
    {told text : String}
    {id : Session.Id}
    (meant : Session.Id.parse? told = some id)
    (spelt : Session.Id.parse? text = some id) :
    Header.Respelt ⟨"cookie", Text.utf8 (Cookie.sessionName ++ "=" ++ told)⟩
      ⟨"cookie", Text.utf8 (Cookie.sessionName ++ "=" ++ text)⟩ := by
  have whole : ∀ value : String, (Cookie.sessionName ++ "=" ++ value).toList =
      Cookie.sessionName.toList ++ '=' :: value.toList := by
    intro value
    rw [String.toList_append, String.toList_append, List.append_assoc]
    rfl
  have equals : '=' ∉ Cookie.sessionName.toList :=
    fun member => (Cookie.letter_of_mem_sessionName _ member).2.2 rfl
  have alone : ';' ∉ (Cookie.sessionName ++ "=" ++ told).toList := by
    rw [whole, List.mem_append, List.mem_cons, not_or, not_or]
    exact ⟨fun member => (Cookie.letter_of_mem_sessionName _ member).2.1 rfl, by decide,
      fun member => (Cookie.letter_of_parse? meant _ member).2 rfl⟩
  have read : Cookie.ofChars? (Cookie.sessionName.toList ++ '=' :: told.toList) =
      some ⟨Cookie.sessionName, told⟩ := by
    apply Cookie.ofChars?_append
    · decide +kernel
    · exact equals
    · intro char member
      rcases List.mem_append.mp member with own | own
      · exact (Cookie.letter_of_mem_sessionName char own).1
      · exact (Cookie.letter_of_parse? meant char own).1
    · rw [List.mem_append, not_or]
      exact ⟨by decide +kernel, Cookie.percent_notMem_of_parse? meant⟩
  have respelt := Header.Respelt.cookie "cookie" (Cookie.sessionName ++ "=" ++ told)
    [Cookie.sessionName.toList ++ '=' :: text.toList] (by decide +kernel) (by
      rw [Text.pieces_of_not_mem alone, whole]
      exact .cons (.value _ _ told text id equals read meant spelt) .nil)
  rwa [Text.join, ← whole, String.ofList_toList] at respelt

/-- One request is another one with session cookies in its headers spelt in another way. -/
structure Request.Respelt (first second : Request) : Prop where
  method : second.method = first.method
  target : second.target = first.target
  headers : List.Forall₂ Header.Respelt first.headers second.headers
  body : second.body = first.body

theorem Header.Respelt.name_eq {first second : Header} (respelt : first.Respelt second) :
    second.name = first.name := by
  cases respelt <;> rfl

/-- No other header is touched. -/
theorem Header.Respelt.eq_of_ne
    {first second : Header}
    (respelt : first.Respelt second)
    (other : first.name.toLower ≠ "cookie") :
    second = first := by
  cases respelt with
  | kept => rfl
  | cookie name text parts named _ => exact absurd named other

/-- The cookies of the header mean what they meant. -/
theorem Header.Respelt.means
    {first second : Header}
    (respelt : first.Respelt second) :
    List.Forall₂ Cookie.Means (Cookie.ofHeader first.value) (Cookie.ofHeader second.value) := by
  cases respelt with
  | kept => exact List.forall₂_same.mpr fun cookie _ => ⟨rfl, fun _ => rfl⟩
  | cookie name text parts named respelt =>
      have filled : parts ≠ [] := by
        rintro rfl
        exact Text.pieces_ne_nil ';' text.toList (List.forall₂_nil_right_iff.mp respelt)
      have whole : ∀ part ∈ parts, ';' ∉ part :=
        Cookie.notMem_of_respelt respelt fun piece => Text.not_mem_of_mem_pieces
      simp only [Cookie.ofHeader, Text.ofUtf8?_utf8, String.toList_ofList,
        Text.pieces_join filled whole]
      exact List.rel_filterMap (R := Cookie.Respelt) (fun _ _ respelt => respelt.rel_ofChars?) respelt

namespace Request.Respelt

variable {first second : Request}

theorem values_eq (respelt : first.Respelt second) (name : String) (other : name ≠ "cookie") :
    second.values name = first.values name := by
  have headers := respelt.headers
  simp only [values]
  generalize first.headers = headers at headers
  generalize second.headers = changed at headers
  induction headers with
  | nil => rfl
  | @cons header changed rest others same _ ih =>
      by_cases named : header.name.toLower = name
      · have kept := same.eq_of_ne (by rwa [named])
        subst kept
        rw [List.filter_cons_of_pos (by simpa using named),
          List.filter_cons_of_pos (by simpa using named), List.map_cons, List.map_cons, ih]
      · have otherNamed : ¬ changed.name.toLower = name := by rwa [same.name_eq]
        rw [List.filter_cons_of_neg (by simpa using otherNamed),
          List.filter_cons_of_neg (by simpa using named), ih]

theorem means (respelt : first.Respelt second) :
    List.Forall₂ Cookie.Means (Cookie.ofRequest first) (Cookie.ofRequest second) := by
  have headers := respelt.headers
  simp only [Cookie.ofRequest, values]
  generalize first.headers = headers at headers
  generalize second.headers = changed at headers
  induction headers with
  | nil => exact .nil
  | @cons header changed rest others same _ ih =>
      by_cases named : header.name.toLower = "cookie"
      · have otherNamed : changed.name.toLower = "cookie" := by rwa [same.name_eq]
        rw [List.filter_cons_of_pos (by simpa using named),
          List.filter_cons_of_pos (by simpa using otherNamed), List.map_cons, List.map_cons,
          List.flatMap_cons, List.flatMap_cons]
        exact List.rel_append same.means ih
      · have otherNamed : ¬ changed.name.toLower = "cookie" := by rwa [same.name_eq]
        rw [List.filter_cons_of_neg (by simpa using named),
          List.filter_cons_of_neg (by simpa using otherNamed)]
        exact ih

/-- The request belongs to the session that it belonged to. -/
theorem session?_eq (respelt : first.Respelt second) :
    Cookie.session? second = Cookie.session? first :=
  (Cookie.bind_find?_of_means respelt.means).symm

theorem value?_eq (respelt : first.Respelt second) (name : String) (other : name ≠ "cookie") :
    second.value? name = first.value? name := by
  rw [value?, value?, respelt.values_eq name other]

theorem path_eq (respelt : first.Respelt second) : second.path = first.path := by
  rw [path, path, respelt.target]

end Request.Respelt

/-! ## The service -/

section Service

variable {first second : Request}

theorem read_eq_of_respelt
    (respelt : first.Respelt second)
    (field : Json.Field α)
    (other : Json.Field β) :
    Body.read field other second = Body.read field other first := by
  have json : Body.isJson second = Body.isJson first := by
    rw [Body.isJson, Body.isJson, respelt.value?_eq "content-type" (by decide)]
  rw [Body.read, Body.read, json, respelt.body]

theorem gate_eq_of_respelt (respelt : first.Respelt second) :
    Gate.session second = Gate.session first := by
  funext inner
  simp only [Gate.session, respelt.session?_eq]

/-- The service does the same for both requests: it gives one answer, writes the same lines, and leaves
the same store and the same entropy behind. -/
theorem handle_eq_of_respelt (respelt : first.Respelt second) (service : Service) :
    handle service second = handle service first := by
  have shown := respelt.value?_eq Gate.tokenHeader (by decide)
  have serve : ∀ route : Route, route.serve service second = route.serve service first := by
    intro route
    cases route with
    | free endpoint =>
        cases endpoint <;>
          simp only [Route.serve, PublicEndpoint.serve, createToken, checkToken, respelt.method,
            read_eq_of_respelt respelt]
    | guarded endpoint =>
        simp only [Route.serve, gate_eq_of_respelt respelt, Gate.token, Gate.demandToken,
          Gate.presentedToken, Route.serveGuarded, respelt.method, shown]
  simp only [handle, respelt.path_eq, respelt.method, serve]

end Service
end Http
end AntiForgery
