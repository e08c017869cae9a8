import AntiForgery.Proofs.Scenario.Runs
import AntiForgery.Proofs.Server

/-!
# Runs through a layer

A run that goes through a layer for calls from other origins ends in the world in which it ends without
the layer, if the requests that only ask what is allowed are left out: these change nothing, and every
other step does and tells the same.
-/

namespace AntiForgery
namespace Scenario

/-! ## Steps through a layer -/

/-- Whether a step is a request that only asks what is allowed. -/
def Step.isAsking : Step → Bool
  | .request sent => sent.method == "OPTIONS"
  | _ => false

/-- Does a step with requests answered by an application. -/
def Step.performThrough
    (app : Http.Request → Action Http.Response)
    (service : Service) : Step → Action Outcome
  | .request sent => do return .answered (← app sent)
  | step => step.perform service

/-- Does the steps one after the other with requests answered by an application. -/
def runThrough
    (app : Http.Request → Action Http.Response)
    (service : Service)
    (steps : List Step) : Action (List (Outcome × List Journal.Line)) :=
  steps.mapM fun step => Action.observe (step.performThrough app service)

/-- The outcome without the headers that are about calls from other origins. -/
def Outcome.withoutSharing : Outcome → Outcome
  | .answered response => .answered response.withoutSharing
  | outcome => outcome

/-- What comes of steps through a layer, with the journal, beside what comes of them without it and
without the requests that only ask what is allowed.  Those are answered with no line in the journal, and
of the others the outcomes agree but for headers that are about calls from other origins. -/
inductive Tallies :
    List Step → List (Outcome × List Journal.Line) → List (Outcome × List Journal.Line) → Prop
  | nil : Tallies [] [] []
  | asked
      (sent : Http.Request)
      (response : Http.Response)
      (steps : List Step)
      (through plain : List (Outcome × List Journal.Line))
      (asks : sent.method = "OPTIONS")
      (permits : Http.Permits response)
      (later : Tallies steps through plain) :
      Tallies (.request sent :: steps) ((.answered response, []) :: through) plain
  | passed
      (step : Step)
      (outcome : Outcome)
      (lines : List Journal.Line)
      (steps : List Step)
      (through plain : List (Outcome × List Journal.Line))
      (other : step.isAsking = false)
      (later : Tallies steps through plain) :
      Tallies (step :: steps) ((outcome, lines) :: through)
        ((outcome.withoutSharing, lines) :: plain)

section Through

variable {layer : Http.Layer} (documented : layer.Documented) (service : Service)

include documented in
/-- A request that only asks what is allowed is answered by the layer, and changes nothing. -/
theorem observe_of_isAsking
    {step : Step}
    (asks : step.isAsking = true)
    (world : World) :
    ∃ sent response,
      step = .request sent ∧ sent.method = "OPTIONS" ∧ Http.Permits response ∧
      Action.observe (step.performThrough (layer (Http.handle service)) service) world =
        ((.answered response, []), world) := by
  cases step with
  | request sent =>
      have options : sent.method = "OPTIONS" := by simpa [Step.isAsking] using asks
      obtain ⟨response, permits, answered⟩ := documented.exists_permits options
      refine ⟨sent, response, rfl, options, permits, ?_⟩
      simp only [Action.observe, Step.performThrough, Action.bind_apply, Action.pure_apply, answered,
        List.append_nil]
  | _ => cases asks

include documented in
/-- Every other step does and tells the same as without the layer. -/
theorem observe_of_not_isAsking
    {step : Step}
    (other : step.isAsking = false)
    (world : World) :
    let through :=
      Action.observe (step.performThrough (layer (Http.handle service)) service) world
    let plain := Action.observe (step.perform service) world
    (through.1.1.withoutSharing, through.1.2) = plain.1 ∧ through.2 = plain.2 := by
  cases step with
  | request sent =>
      have notOptions : sent.method ≠ "OPTIONS" := by simpa [Step.isAsking] using other
      obtain ⟨answer, after⟩ :=
        documented.handle_eq service notOptions { world with journal := [] }
      simp only [Action.observe, Step.performThrough, Step.perform, Action.bind_apply,
        Action.pure_apply, Outcome.withoutSharing, answer, after, and_self]
  | _ => exact ⟨rfl, rfl⟩

theorem runThrough_cons
    (app : Http.Request → Action Http.Response)
    (step : Step)
    (steps : List Step)
    (world : World) :
    let through := Action.observe (step.performThrough app service) world
    let later := runThrough app service steps through.2
    runThrough app service (step :: steps) world = (through.1 :: later.1, later.2) := by
  simp only [runThrough, List.mapM_cons]
  rfl

include documented in
/-- A run through the layer ends where the run without it ends, and tallies with it. -/
theorem tallies_runThrough (steps : List Step) (world : World) :
    let through := runThrough (layer (Http.handle service)) service steps world
    let plain := run service (steps.filter fun step => !step.isAsking) world
    Tallies steps through.1 plain.1 ∧ through.2 = plain.2 := by
  induction steps generalizing world with
  | nil => exact ⟨.nil, rfl⟩
  | cons step steps ih =>
      intro through plain
      have whole : through = _ :=
        runThrough_cons service (layer (Http.handle service)) step steps world
      cases asks : step.isAsking with
      | true =>
          obtain ⟨sent, response, rfl, options, permits, observed⟩ :=
            observe_of_isAsking documented service asks world
          rw [observed] at whole
          obtain ⟨tallies, last⟩ := ih world
          have left : plain = run service (steps.filter fun step => !step.isAsking) world := by
            simp only [plain, List.filter_cons, asks]
            rfl
          rw [whole, left]
          exact ⟨.asked sent response steps _ _ options permits tallies, last⟩
      | false =>
          obtain ⟨told, after⟩ := observe_of_not_isAsking documented service asks world
          obtain ⟨tallies, last⟩ := ih (step.after service world)
          have left : plain =
              run service (step :: steps.filter fun step => !step.isAsking) world := by
            simp only [plain, List.filter_cons, asks]
            rfl
          rw [whole, left, run_cons_outcomes, run_cons, ← told, after]
          exact ⟨.passed step _ _ steps _ _ asks tallies, last⟩

end Through

/-! ## The server that starts -/

/-- A layer that does what it is documented to do, such as the policy of the server itself, hides nothing
of the service that it stands in front of and adds nothing to it.  For every server that starts, a
request that asks for something gets the answer that the service gives by itself in the same world, but
for headers that are about calls from other origins, and leaves the same world behind, journal included,
wherever it comes from.  A request that only asks what is allowed is answered in every world alike,
whatever its path, its cookies and its token, and leaves the world as it is; the service by itself would
ask it for a session at a guarded path and mint a token for it.  So a run ends where it ends without the
layer and without such requests. -/
theorem serve_transparent
    {cors : Http.CrossOrigin → Http.Layer}
    (documented : ∀ policy, (cors policy).Documented)
    {lookup : Config.Lookup}
    {isTaken : Net.SocketAddress → Bool}
    {start : World}
    {config : Config}
    {server : Server}
    (started : (Startup.prepare lookup isTaken start).1 = .ok (config, server)) :
    let routed := Http.handle server.service
    let served := cors server.policy routed
    (Config.ofLookup lookup = .ok config ∧
      (Server.serviceOf config start).1 = .ok server.service ∧
      Http.CrossOrigin.ofOrigins config.origins = .ok server.policy) ∧
    (server.handle = server.policy.layer routed ∧ server.policy.layer.Documented) ∧
    (∀ request : Http.Request, request.method ≠ "OPTIONS" → ∀ world,
      (served request world).1.withoutSharing = (routed request world).1 ∧
      (served request world).2 = (routed request world).2) ∧
    (∀ request : Http.Request, request.method = "OPTIONS" →
      ∃ response, Http.Permits response ∧
        ∀ other : Http.Request, other.method = "OPTIONS" →
          (∀ name, name ≠ "cookie" → name ≠ Http.Gate.tokenHeader →
            other.values name = request.values name) →
          ∀ world, served other world = (response, world)) ∧
    (∀ endpoint request world,
      Http.Route.ofPath? request.path = some (.guarded endpoint) →
      request.method = "OPTIONS" →
      (Http.Gate.foundSession? request world.store = none →
        (routed request world).1.status = 403 ∨ (routed request world).1.status = 500) ∧
      ∀ id, Http.Gate.foundSession? request world.store = some id →
        12 ≤ world.entropy.ready →
        (routed request world).1.status = 405 ∧
        (∃ token, Http.Carries (routed request world).1 token) ∧
        (routed request world).2.entropy = world.entropy.drop 12) ∧
    ∀ steps world,
      let through := runThrough served server.service steps world
      let plain := run server.service (steps.filter fun step => !step.isAsking) world
      Tallies steps through.1 plain.1 ∧ through.2 = plain.2 := by
  intro routed served
  obtain ⟨accepted, made⟩ := Startup.setUp_of_prepare started
  obtain ⟨service, policy⟩ := Server.of_setUp made
  have layer := documented server.policy
  refine ⟨⟨accepted, service, policy⟩, ⟨server.policy.handle_eq_layer server.service,
    server.policy.documented_layer⟩, ?_, ?_, ?_, ?_⟩
  · intro request asksMore world
    exact layer.handle_eq server.service asksMore world
  · intro request asks
    obtain ⟨response, permits, answered⟩ := layer.exists_permits asks
    refine ⟨response, permits, fun other asksToo same world => ?_⟩
    rw [show served other = _ from layer.answer_eq asksToo asks same routed]
    exact answered routed world
  · intro endpoint request world known asks
    exact ⟨Http.status_handle_of_missing known,
      fun id found enough => Http.handle_of_asks known asks found enough⟩
  · intro steps world
    exact tallies_runThrough layer server.service steps world

/-- A page of an origin that is not admitted asks what it may do with the path of tokens, and sends the
cookie of a session along: the server permits nothing to it and keeps its twelve random bytes, while the
service by itself would mint a token with them. -/
theorem serve_transparent_foreign :
    let lookup : Config.Lookup := fun name =>
      if name = "CSRF_SECRET" then some "000102030405060708090a0b0c0d0e0f" else none
    let id : Session.Id :=
      ⟨[0, 1, 2, 3, 4, 5, 0x46, 7, 0x88, 9, 0xA, 0xB, 0xC, 0xD, 0xE, 0xF], rfl⟩
    let world : World :=
      ⟨(Store.new .sound).write id.storageKey 604800000, 1700000000, .ofList (List.replicate 12 0), []⟩
    let asking : Http.Request := ⟨"OPTIONS", "/api/csrf",
      [⟨"origin", Text.utf8 "http://localhost:4000"⟩,
        ⟨"cookie", Text.utf8 "session_id=00010203-0405-4607-8809-0a0b0c0d0e0f"⟩], []⟩
    ∃ (config : Config) (server : Server),
      (Startup.prepare lookup (fun _ => false) world).1 = .ok (config, server) ∧
      (server.handle asking world).1.status = 200 ∧
      (server.handle asking world).2 = world ∧
      (Http.handle server.service asking world).1.status = 405 ∧
      (∃ token, Http.Carries (Http.handle server.service asking world).1 token) ∧
      (Http.handle server.service asking world).2.entropy.ready = 0 := by
  intro lookup id world asking
  let config : Config :=
    ⟨.four [127, 0, 0, 1] 3000, .redis, "redis://127.0.0.1:6379", 7,
      (List.range 16).map UInt8.ofNat, 3600, ["http://localhost:3000"], false⟩
  let service : Service := ⟨⟨.ofKey config.secret, 3600⟩, ⟨7, false⟩⟩
  let server : Server := ⟨service, ⟨["http://localhost:3000"]⟩⟩
  have started : (Startup.prepare lookup (fun _ => false) world).1 = .ok (config, server) := by
    decide +kernel
  have known : Http.Route.ofPath? asking.path = some (.guarded .issue) := by decide +kernel
  have found : Http.Gate.foundSession? asking world.store = some id := by decide +kernel
  obtain ⟨_, ⟨own, _⟩, _, asked, contrast, _⟩ :=
    serve_transparent Http.CrossOrigin.documented_layer started
  obtain ⟨response, permits, answered⟩ := asked asking rfl
  have handled : server.handle asking world = (response, world) := by
    rw [own]
    exact answered asking rfl (fun _ _ _ => rfl) world
  obtain ⟨status, carried, left⟩ := (contrast .issue asking world known rfl).2 id found (by decide)
  refine ⟨config, server, started, ?_, ?_, status, carried, ?_⟩
  · rw [handled]
    exact permits.status
  · rw [handled]
  · rw [left]
    rfl

end Scenario
end AntiForgery
