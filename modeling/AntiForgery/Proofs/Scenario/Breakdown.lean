import AntiForgery.Proofs.Http.Breakdown
import AntiForgery.Proofs.Scenario.Tenure

/-!
# Runs without internal errors

A configuration that is accepted brings about no internal error by itself, whatever clients send and
wherever the wall clock is set.  An answer with status 500 always has a cause outside of the service:
the store has failed, or too few random bytes were ready for the nonce of a token.
-/

namespace AntiForgery

namespace Config

variable {lookup : Lookup} {config : Config}

/-- A window that is configured lasts thirty days at the most. -/
theorem toInt_tokenWindow_le (accepted : ofLookup lookup = .ok config) :
    config.tokenWindow.toInt ≤ 2592000 := by
  have limit : expireLimit.toInt = 2592000 := by decide
  have bound := (bounds_tokenWindow accepted).2
  rwa [Int64.le_iff_toInt_le, limit] at bound

theorem lifetime_le (accepted : ofLookup lookup = .ok config) :
    Session.Settings.lifetime ⟨config.sessionDays, config.production⟩ ≤ 31536000 := by
  have limit : durationLimit.toInt = 365 := by decide
  have bounds := bounds_sessionDays accepted
  have lifetime := Session.lifetime_eq bounds config.production
  have most := bounds.2
  rw [Int64.le_iff_toInt_le, limit] at most
  omega

end Config

namespace Scenario

/-- Every event of an open run finds the store in the condition that the run began with. -/
theorem condition_of_mem_history
    {service : Service}
    {steps : List Step}
    (isOpen : ∀ step ∈ steps, step.isOpen = true)
    {start : World}
    {event : Event}
    (member : event ∈ history service steps start) :
    event.before.store.condition = start.store.condition := by
  induction steps using List.reverseRecOn with
  | nil => cases member
  | append_singleton steps step ih =>
      have earlier : ∀ step ∈ steps, step.isOpen = true :=
        fun step member => isOpen step (List.mem_append_left _ member)
      rw [history_concat, List.mem_append, List.mem_singleton] at member
      rcases member with member | rfl
      · exact ih earlier member
      · exact condition_run earlier start

/-- Why a request of a run is answered with an internal error. -/
theorem answered_500_iff
    {service : Service}
    {steps : List Step}
    {start : World}
    {event : Event}
    (member : event ∈ history service steps start)
    {request : Http.Request}
    (sent : event.step = .request request)
    {response : Http.Response}
    (answered : event.outcome = .answered response) :
    response.status = 500 ↔
      Http.CallFails service request event.before ∨
      (Http.HasToMint request event.before ∧ event.before.entropy.ready < 12) := by
  have happened := congrArg Event.outcome (eq_event_of_mem_history service member)
  rw [sent, Step.event_request, answered] at happened
  obtain rfl := Outcome.answered.inj happened
  rw [Http.status_handle_eq_500_iff, Http.callFails_journal_iff, Http.hasToMint_journal_iff]

/-- The service of a configuration that is accepted can always be set up. In every run of requests
and movements of the clocks, an answer is an internal error exactly if a call to the store has
failed that was made for the request, or the request had to be given a token when fewer than twelve
random bytes were ready. No record is to last longer than a year, so a store that works fails no
request as long as a year is left on its clock. No check fails for the cipher's sake, a token for a
session id that is admitted is refused only for want of random bytes, and every token can be the value
of a header; and a policy for other origins adds nothing to it. -/
theorem serviceOf_breakdowns
    {lookup : Config.Lookup}
    {config : Config}
    (accepted : Config.ofLookup lookup = .ok config) :
    ∃ service : Service,
      (∀ world, (Server.serviceOf config world).1 = .ok service) ∧
      (∀ (steps : List Step) (start : World), (∀ step ∈ steps, step.isOpen = true) →
        ∀ event ∈ history service steps start,
          ∀ (request : Http.Request) (response : Http.Response),
            event.step = .request request →
            event.outcome = .answered response →
            (response.status = 500 ↔
              Http.CallFails service request event.before ∨
              (Http.HasToMint request event.before ∧ event.before.entropy.ready < 12)) ∧
            (∀ (α : Type) (store : Store) (call : Store.Call α) (lifetime : Nat),
              Http.Asks service request event.before store call →
              call.lifetime? = some lifetime →
              1 ≤ lifetime ∧ lifetime ≤ 31536000) ∧
            (start.store.condition = .sound →
              event.before.store.clock / 1000 + 31536000 ≤ Store.lastSecond →
              ¬ Http.CallFails service request event.before)) ∧
      (∀ (attempt : Token.Attempt) (store : Store) (error : Token.Error),
        (attempt.check service.engine store).1 = .error error →
        error = .malformed ∨ error = .expired ∨
          ∃ failure, error = .store failure ∧ attempt.Fails service.engine store failure) ∧
      (∀ (session : String) (issued : Seconds) (source : Entropy),
        (∀ error, Text.byteCount session ≤ 255 →
          (service.engine.mint session issued source).1 = .error error →
          error = .sealFailed .noEntropy ∧ source.ready < 12) ∧
        ∀ token, (service.engine.mint session issued source).1 = .ok token →
          Http.isHeaderValue token = true) ∧
      ∀ (policy : Http.CrossOrigin) (request : Http.Request) (world : World),
        (policy.handle service request world).1.status = 500 ↔
          request.method ≠ "OPTIONS" ∧ (Http.handle service request world).1.status = 500 := by
  obtain ⟨service, made, window, year⟩ : ∃ service : Service,
      (∀ world, (Server.serviceOf config world).1 = .ok service) ∧
      service.engine.window.toInt ≤ 2592000 ∧
      service.session.lifetime ≤ 31536000 :=
    ⟨_, Config.serviceOf_of_ofLookup accepted, Config.toInt_tokenWindow_le accepted,
      Config.lifetime_le accepted⟩
  refine ⟨service, made, ?_, ?_, ?_, ?_⟩
  · intro steps start isOpen event member request response sent answered
    refine ⟨answered_500_iff member sent answered, ?_, fun sound early => ?_⟩
    · intro α store call lifetime asks own
      exact asks.lifetime_bounds window year own
    · have works := (condition_of_mem_history isOpen member).trans sound
      exact Http.not_callFails_of_sound window year works early
  · intro attempt store error failed
    exact Token.Attempt.error_of_check failed
  · intro session issued source
    refine ⟨fun error small failed => ?_, fun token minted => ?_⟩
    · have short := @Token.Payload.length_encode_le_payloadLimit ⟨session, issued⟩ small
      exact (Token.Engine.mint_eq_error_iff short).mp failed
    · exact Http.isHeaderValue_of_isVisible (Http.isVisible_of_mint minted)
  · intro policy request world
    rw [policy.status_handle]
    split
    · next asks => exact iff_of_false (by decide) fun broken => broken.1 asks
    · next other => exact (and_iff_right other).symm

/-- A session is started with the only sixteen random bytes that are ready, so its first token cannot be
minted; with sixteen more bytes nothing fails. -/
theorem serviceOf_breakdowns_starved :
    let lookup : Config.Lookup := fun name =>
      if name = "CSRF_SECRET" then some "000102030405060708090a0b0c0d0e0f" else none
    let begin : Http.Request := ⟨"POST", "/api/session", [], []⟩
    let page : Http.Request := ⟨"GET", "/api/csrf",
      [⟨"cookie", Text.utf8 "session_id=00010203-0405-4607-8809-0a0b0c0d0e0f"⟩], []⟩
    let start : Nat → World := fun count =>
      ⟨.new .sound, Int64.minValue, .ofList ((List.range count).map UInt8.ofNat), []⟩
    ∃ (config : Config) (service : Service),
      Config.ofLookup lookup = .ok config ∧
      (Server.serviceOf config (start 16)).1 = .ok service ∧
      (∃ event ∈ history service [.request begin, .request page] (start 16),
        ∃ response, event.step = .request page ∧ event.outcome = .answered response ∧
          response.status = 500) ∧
      ∀ event ∈ history service [.request begin, .request page] (start 32),
        ∀ response, event.outcome = .answered response → response.status ≠ 500 := by
  intro lookup begin page start
  let config : Config :=
    ⟨.four [127, 0, 0, 1] 3000, .redis, "redis://127.0.0.1:6379", 7,
      (List.range 16).map UInt8.ofNat, 3600, ["http://localhost:3000"], false⟩
  let id : Session.Id :=
    ⟨[0, 1, 2, 3, 4, 5, 0x46, 7, 0x88, 9, 0xA, 0xB, 0xC, 0xD, 0xE, 0xF], rfl⟩
  have accepted : Config.ofLookup lookup = .ok config := by decide +kernel
  obtain ⟨service, made, causes, _⟩ := serviceOf_breakdowns accepted
  have isOpen : ∀ step ∈ [Step.request begin, .request page], step.isOpen = true := by decide
  obtain rfl := Except.ok.inj
    ((Config.serviceOf_of_ofLookup accepted (start 16)).symm.trans (made (start 16)))
  generalize configured :
    (⟨⟨.ofKey config.secret, config.tokenWindow⟩, ⟨config.sessionDays, config.production⟩⟩ :
      Service) = service at made causes
  -- The world that the second request finds.
  let next : Nat → World := fun count => (Step.request begin).after service (start count)
  have known : Http.Route.ofPath? page.path = some (.guarded .issue) := by decide +kernel
  refine ⟨config, service, accepted, made _, ?_, ?_⟩
  · have found : Http.Gate.foundSession? page (next 16).store = some id := by
      subst configured
      decide +kernel
    have few : (next 16).entropy.ready < 12 := by
      subst configured
      decide +kernel
    have second : (Step.request page).event service (next 16) ∈
        history service [.request begin, .request page] (start 16) :=
      List.mem_cons_of_mem _ List.mem_cons_self
    have answered := congrArg Event.outcome (Step.event_request service page (next 16))
    refine ⟨_, second, _, rfl, answered, ?_⟩
    refine ((causes _ (start 16) isOpen _ second page _ rfl answered).1).mpr (.inr ⟨?_, few⟩)
    exact .header .issue id known rfl found
  · have first : (start 32).store.clock / 1000 + 31536000 ≤ Store.lastSecond ∧
        12 ≤ (start 32).entropy.ready := by decide
    have second : (next 32).store.clock / 1000 + 31536000 ≤ Store.lastSecond ∧
        12 ≤ (next 32).entropy.ready := by
      subst configured
      decide +kernel
    have supplied : ∀ event ∈ history service [.request begin, .request page] (start 32),
        (event.before.store.clock / 1000 + 31536000 ≤ Store.lastSecond ∧
          12 ≤ event.before.entropy.ready) ∧
        ∃ request, event.step = .request request := by
      intro event member
      rw [history, history, history, List.mem_cons, List.mem_singleton] at member
      rcases member with rfl | rfl
      · exact ⟨first, begin, rfl⟩
      · exact ⟨second, page, rfl⟩
    intro event member response answered
    obtain ⟨⟨early, enough⟩, request, sent⟩ := supplied event member
    obtain ⟨cause, _, works⟩ := causes _ (start 32) isOpen event member request response sent answered
    rw [ne_eq, cause]
    rintro (fails | ⟨_, few⟩)
    · exact works rfl early fails
    · omega

end Scenario
end AntiForgery
