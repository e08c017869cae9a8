import AntiForgery.Proofs.Http.Answers
import AntiForgery.Proofs.Json.Value

/-!
# What refusals tell

A refusal is an object of one member in JSON, whatever text it carries.  What went wrong inside the service
is told to the operator only: an internal error is answered in one of four ways, which are fixed.
-/

namespace AntiForgery
namespace Http

theorem member_quote (name text : String) :
    Response.member name (Json.quote text) =
      Json.openBrace :: (Json.quote name ++ Json.colon :: (Json.quote text ++ [Json.closeBrace])) := by
  have front : Text.utf8 "\x7b" = [Json.openBrace] := by decide
  have middle : Text.utf8 ":" = [Json.colon] := by decide
  have back : Text.utf8 "\x7d" = [Json.closeBrace] := by decide
  simp only [Response.member, front, middle, back, List.nil_append, List.cons_append,
    List.append_assoc]

/-- A refusal is read as the object of its public wording. -/
theorem decode?_refusalResponse (refusal : Refusal) :
    Json.decode? (refusalResponse refusal).body =
      some (.object [("error", .text refusal.publicMessage)]) := by
  rw [refusalResponse, Response.json, member_quote]
  exact Json.decode?_object "error" refusal.publicMessage

theorem isText_refusalResponse (refusal : Refusal) : Text.IsText (refusalResponse refusal).body := by
  have name := Json.isText_quote "error"
  have content := Json.isText_quote refusal.publicMessage
  exact ((((Text.isText_utf8 _).append name).append (Text.isText_utf8 _)).append content).append
    (Text.isText_utf8 _)

/-! ## Internal errors -/

/-- What a client can be told about an internal error. -/
def breakdowns : List Response :=
  .bare 500 :: ["Store error", "Encryption error", "Internal server error"].map fun wording =>
    .json 500 (Response.member "error" (Json.quote wording))

/-- If the answer tells of an internal error, it tells no more than this. -/
def Response.Discreet (response : Response) : Prop :=
  response.status = 500 → response ∈ breakdowns

theorem discreet_of_status_ne {response : Response} (other : response.status ≠ 500) :
    response.Discreet :=
  fun broken => absurd broken other

/-- A refusal for an internal cause says no more than that there was one. -/
theorem discreet_refusalResponse (refusal : Refusal) : (refusalResponse refusal).Discreet := by
  intro broken
  cases refusal with
  | store => exact .tail _ (.head _)
  | encryption => exact .tail _ (.tail _ (.head _))
  | internal => exact .tail _ (.tail _ (.tail _ (.head _)))
  | unidentified => cases broken
  | forbidden => cases broken
  | outOfBounds => cases broken

/-- An answer that is no refusal is no internal error either. -/
theorem Routine.discreet {response : Response} (routine : Routine response) :
    response.Discreet := by
  cases routine with
  | bare status =>
      intro broken
      obtain rfl : status = 500 := broken
      exact .head _
  | refused refusal => exact discreet_refusalResponse refusal
  | faulty fault => exact discreet_of_status_ne (status_faultResponse_ne fault)
  | judged valid => exact discreet_of_status_ne (by cases valid <;> decide)
  | issued => exact nofun
  | ended wall => exact nofun

theorem Given.discreet {response : Response} (given : Given response) : response.Discreet := by
  cases given with
  | routine routine => exact routine.discreet
  | told token => exact nofun
  | started cookie => exact nofun
  | carrying _ fine token => exact discreet_of_status_ne fine

/-- An internal error is answered in one of these ways, as the path and the method dress every answer. -/
theorem discreet_handle
    {service : Service}
    {request : Request}
    {world : World}
    (broken : (handle service request world).1.status = 500) :
    ∃ route, Route.ofPath? request.path = some route ∧
      ∃ answer ∈ breakdowns,
        (handle service request world).1 = route.dress request.method answer := by
  rcases handle_given service request world with ⟨_, unknown⟩ | ⟨route, answer, known, given, dressed⟩
  · rw [unknown] at broken
    cases broken
  · rw [dressed, Route.status_dress] at broken
    exact ⟨route, known, answer, given.discreet broken, dressed⟩

/-! ## Refusals -/

/-- Every refusal is answered with an object in JSON, whose one member is called `error`; a client that
said nothing of use about itself, or a value out of bounds, is told the reason as it is.  Where the store,
the cipher or something that never should has failed, the whole answer is the same whatever the failure
was, which is told in one line of the journal; and no request is answered with more about an internal error
than that. -/
theorem refuse_discloses_nothing :
    (∀ refusal world,
      Json.decode? (refuse refusal world).1.body =
        some (.object [("error", .text refusal.publicMessage)]) ∧
      Text.IsText (refuse refusal world).1.body ∧
      (refuse refusal world).2 = { world with journal := world.journal ++ [refusalLine refusal] }) ∧
    (∀ reason world,
      Json.decode? (refuse (.unidentified reason) world).1.body =
        some (.object [("error", .text reason)]) ∧
      Json.decode? (refuse (.outOfBounds reason) world).1.body =
        some (.object [("error", .text reason)])) ∧
    (∀ failure other world another,
      (refuse (.store failure) world).1 = (refuse (.store other) another).1) ∧
    (∀ report other world another,
      (refuse (.encryption report) world).1 = (refuse (.encryption other) another).1) ∧
    (∀ report other world another,
      (refuse (.internal report) world).1 = (refuse (.internal other) another).1) ∧
    (∀ failure report,
      refusalLine (.store failure) = ⟨.error, "Store error: " ++ failure.message⟩ ∧
      refusalLine (.encryption report) = ⟨.error, "Encryption error: " ++ report⟩ ∧
      refusalLine (.internal report) = ⟨.error, "Internal error: " ++ report⟩) ∧
    (∀ service request world, (handle service request world).1.status = 500 →
      ∃ route, Route.ofPath? request.path = some route ∧
        ∃ answer ∈ breakdowns,
          (handle service request world).1 = route.dress request.method answer) := by
  refine ⟨fun refusal world => ⟨?_, ?_, rfl⟩, fun reason world => ⟨?_, ?_⟩, fun _ _ _ _ => rfl,
    fun _ _ _ _ => rfl, fun _ _ _ _ => rfl, fun _ _ => ⟨rfl, rfl, rfl⟩,
    fun _ _ _ => discreet_handle⟩
  · rw [refuse_fst]
    exact decode?_refusalResponse refusal
  · rw [refuse_fst]
    exact isText_refusalResponse refusal
  · rw [refuse_fst]
    exact decode?_refusalResponse (.unidentified reason)
  · rw [refuse_fst]
    exact decode?_refusalResponse (.outOfBounds reason)

/-- A reason with a quote, a backslash, a line break and an emoji reaches the client as it is, while a
store that is down and a server that reports its address look the same; a session that cannot be started
because the store is broken is such an internal error. -/
theorem refuse_discloses_nothing_hostile :
    let world : World := ⟨.new .broken, 0, .ofList (List.replicate 16 0), []⟩
    let service : Service := ⟨⟨.ofKey ((List.range 16).map UInt8.ofNat), 3600⟩, ⟨7, false⟩⟩
    let request : Request := ⟨"POST", "/api/session", [], []⟩
    Json.decode? (refuse (.outOfBounds "no \"quotes\" \\ or\nbreaks 🔐") world).1.body =
      some (.object [("error", .text "no \"quotes\" \\ or\nbreaks 🔐")]) ∧
    (refuse (.store (.unavailable "down")) world).1 =
      (refuse (.store (.server "connection to 10.0.0.7 refused")) world).1 ∧
    (handle service request world).1.status = 500 ∧
    ∃ (route : Route) (answer : Response), answer ∈ breakdowns ∧
      (handle service request world).1 = route.dress request.method answer := by
  intro world service request
  obtain ⟨_, reasons, stores, _, _, _, breaks⟩ := refuse_discloses_nothing
  have broken : (handle service request world).1.status = 500 := by decide +kernel
  obtain ⟨route, _, answer, fixed, same⟩ := breaks service request world broken
  exact ⟨(reasons _ world).2, stores _ _ world world, broken, route, answer, fixed, same⟩

end Http
end AntiForgery
