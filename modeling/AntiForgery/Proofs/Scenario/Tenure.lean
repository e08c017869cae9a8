import AntiForgery.Proofs.Config
import AntiForgery.Proofs.Http.Admittance
import AntiForgery.Proofs.Scenario.Runs

/-!
# How long a session is admitted

From the answers of a run alone one can tell which sessions are admitted: those that were started, and
neither started again nor ended since, for as many days as the configuration says.
-/

namespace AntiForgery

namespace Config

theorem bounds_sessionDays {lookup : Lookup} {config : Config}
    (accepted : ofLookup lookup = .ok config) :
    1 ≤ config.sessionDays ∧ config.sessionDays ≤ durationLimit :=
  bounds_of_readInteger (by decide) (reads_of_ofLookup accepted).sessionDays

end Config

/-- Sessions of a number of days that a configuration allows last that long to the second. -/
theorem Session.lifetime_eq
    {days : Int64}
    (bounds : 1 ≤ days ∧ days ≤ Config.durationLimit)
    (secureCookies : Bool) :
    (Session.Settings.lifetime ⟨days, secureCookies⟩ : Int) = 86400 * days.toInt := by
  have least : (1 : Int64).toInt = 1 := by decide
  have limit : Config.durationLimit.toInt = 365 := by decide
  have day : Seconds.perDay.toInt = 86400 := by decide
  rw [Int64.le_iff_toInt_le, least, Int64.le_iff_toInt_le, limit] at bounds
  rw [Settings.lifetime, Seconds.toLifetime, Seconds.times, Seconds.toInt_clamp_eq, day]
  dsimp only
  omega

namespace Scenario

/-- The event is the last one that has started the session, and nobody has ended it since. -/
def IsLastStart (id : Session.Id) (events : List Event) (first : Event) : Prop :=
  ∃ past future,
    events = past ++ first :: future ∧
    first.startedSession? = some id ∧
    ∀ later ∈ future, later.startedSession? ≠ some id ∧ later.endedSession? ≠ some id

/-- One more event is the last start of an id, or it leaves the last start where it was. -/
theorem isLastStart_concat_iff
    {id : Session.Id}
    {events : List Event}
    {first event : Event} :
    IsLastStart id (events ++ [event]) first ↔
      (first = event ∧ event.startedSession? = some id) ∨
      (IsLastStart id events first ∧
        event.startedSession? ≠ some id ∧ event.endedSession? ≠ some id) := by
  constructor
  · rintro ⟨past, future, split, started, silent⟩
    rcases List.eq_nil_or_concat future with rfl | ⟨future, last, rfl⟩
    · obtain ⟨rfl, same⟩ := List.append_inj' split rfl
      cases same
      exact .inl ⟨rfl, started⟩
    · rw [List.concat_eq_append, ← List.cons_append, ← List.append_assoc] at split
      obtain ⟨rfl, same⟩ := List.append_inj' split rfl
      cases same
      simp only [List.concat_eq_append, List.mem_append, List.mem_singleton] at silent
      exact .inr ⟨⟨past, future, rfl, started, fun later member => silent later (.inl member)⟩,
        silent event (.inr rfl)⟩
  · rintro (⟨rfl, started⟩ | ⟨⟨past, future, rfl, started, silent⟩, last⟩)
    · exact ⟨events, [], rfl, started, by simp⟩
    · refine ⟨past, future ++ [event], by simp, started, ?_⟩
      intro later member
      rw [List.mem_append, List.mem_singleton] at member
      rcases member with member | rfl
      · exact silent later member
      · exact last

/-- After an open run the record of a session is that of its last start. -/
structure Tenured (lifetime : Nat) (events : List Event) (store : Store) (id : Session.Id) :
    Prop where
  started : ∀ first, IsLastStart id events first →
    store.Holds id.storageKey (some (first.clock + 1000 * lifetime))
  free : (∀ first, ¬ IsLastStart id events first) → store.Holds id.storageKey none

/-- One more event makes a start the last one, or an end leaves none, or nothing changes. -/
theorem Tenured.concat
    {lifetime : Nat}
    {events : List Event}
    {event : Event}
    {after : Store}
    {id : Session.Id}
    (tenured : Tenured lifetime events event.before.store id)
    (accounts : Session.Accounts event.startedSession? event.endedSession? lifetime
      event.before.store after id) :
    Tenured lifetime (events ++ [event]) after id := by
  by_cases started : event.startedSession? = some id
  · refine ⟨?_, fun none => ?_⟩
    · intro first last
      rw [isLastStart_concat_iff] at last
      rcases last with ⟨rfl, _⟩ | ⟨_, silent, _⟩
      · exact accounts.started started
      · exact absurd started silent
    · exact absurd (isLastStart_concat_iff.mpr (.inl ⟨rfl, started⟩)) (none event)
  · by_cases ended : event.endedSession? = some id
    · refine ⟨?_, fun _ => accounts.ended ended⟩
      intro first last
      rw [isLastStart_concat_iff] at last
      rcases last with ⟨rfl, own⟩ | ⟨_, _, silent⟩
      · exact absurd own started
      · exact absurd ended silent
    · have keeps := accounts.kept started ended
      refine ⟨?_, fun none => ?_⟩
      · intro first last
        rw [isLastStart_concat_iff] at last
        rcases last with ⟨rfl, own⟩ | ⟨before, _⟩
        · exact absurd own started
        · exact (tenured.started first before).keeps keeps
      · refine (tenured.free fun first before => ?_).keeps keeps
        exact none first (isLastStart_concat_iff.mpr (.inr ⟨before, started, ended⟩))

/-- A session that is accounted for is live exactly until the lifetime since its last start is over. -/
theorem Tenured.isLive_iff
    {lifetime : Nat}
    {events : List Event}
    {store : Store}
    {id : Session.Id}
    (tenured : Tenured lifetime events store id) :
    store.table.isLive id.storageKey store.clock = true ↔
      ∃ first, IsLastStart id events first ∧ store.clock < first.clock + 1000 * lifetime := by
  constructor
  · intro live
    by_cases none : ∀ first, ¬ IsLastStart id events first
    · obtain ⟨_, held, _⟩ := (tenured.free none).isLive_iff.mp live
      cases held
    · simp only [not_forall, not_not] at none
      obtain ⟨first, lastStart⟩ := none
      obtain ⟨_, own, ahead⟩ := (tenured.started first lastStart).isLive_iff.mp live
      cases own
      exact ⟨first, lastStart, ahead⟩
  · rintro ⟨first, lastStart, ahead⟩
    exact (tenured.started first lastStart).isLive_iff.mpr ⟨_, rfl, ahead⟩

/-- An open run from an empty store. -/
structure Begins (steps : List Step) (world : World) : Prop where
  isOpen : ∀ step ∈ steps, step.isOpen = true
  sound : world.store.condition = .sound
  empty : world.store.table = .empty

theorem Begins.init {steps : List Step} {step : Step} {world : World}
    (begins : Begins (steps ++ [step]) world) : Begins steps world :=
  ⟨fun step member => begins.isOpen step (List.mem_append_left _ member), begins.sound,
    begins.empty⟩

theorem Begins.last {steps : List Step} {step : Step} {world : World}
    (begins : Begins (steps ++ [step]) world) : step.isOpen = true :=
  begins.isOpen step (by simp)

theorem Begins.sound_run {steps : List Step} {world : World} (begins : Begins steps world)
    (service : Service) : (run service steps world).2.store.condition = .sound :=
  (condition_run begins.isOpen world).trans begins.sound

/-- A run from the beginning accounts for every session. -/
theorem tenured_run
    (service : Service)
    {steps : List Step}
    {world : World}
    (begins : Begins steps world)
    (id : Session.Id) :
    Tenured service.session.lifetime (history service steps world)
      (run service steps world).2.store id := by
  induction steps using List.reverseRecOn with
  | nil =>
      refine ⟨?_, fun _ => Store.holds_of_empty _ begins.empty⟩
      rintro first ⟨past, future, split, _⟩
      simp [history] at split
  | append_singleton steps step ih =>
      rw [history_concat, run_concat]
      exact (ih begins.init).concat
        (step.accounts service begins.last (begins.init.sound_run service) id)

/-! ## Who is admitted -/

/-- The answer of an event hands a session out: it sets the cookie of the session, with attributes. -/
def Event.HandsOut (id : Session.Id) (event : Event) : Prop :=
  ∃ response attributes,
    event.outcome = .answered response ∧
    response.status = 201 ∧
    ("set-cookie", Http.Cookie.ofId id ++ "; " ++ attributes) ∈ response.headers

theorem handsOut_of_started
    {service : Service}
    {steps : List Step}
    {world : World}
    {event : Event}
    (member : event ∈ history service steps world)
    {id : Session.Id}
    (started : event.startedSession? = some id) :
    event.HandsOut id := by
  have happened := eq_event_of_mem_history service member
  obtain ⟨before, step, outcome⟩ := event
  cases step with
  | request sent =>
      dsimp only at happened
      rw [Step.event_request] at happened
      have outcome_eq := congrArg Event.outcome happened
      dsimp only at outcome_eq
      subst outcome_eq
      have starts := Http.starts_of_started
        (show Http.startedSession? sent { before with journal := [] } _ = some id from started)
      obtain ⟨attributes, written⟩ := Http.Cookie.grant_eq id service.session
      refine ⟨_, attributes, rfl, ?_⟩
      rw [starts.handed, ← written]
      exact ⟨rfl, List.mem_append_right _ List.mem_cons_self⟩
  | _ => cases started

/-- In every open run of a configured service a request is admitted to a session exactly if an answer
told that the session was started, no later answer told that it was ended, and fewer days have gone by
on the store's clock since its last start than the configuration says.  Every other request is turned
away with 403.  The cookie that was set when a session was started makes a request one of that
session. -/
theorem admits_iff_isLastStart
    {lookup : Config.Lookup}
    {config : Config}
    (accepted : Config.ofLookup lookup = .ok config)
    (start : World) :
    ∃ service, (Server.serviceOf config start).1 = .ok service ∧
      ∀ (steps : List Step) (world : World), Begins steps world → ∀ id : Session.Id,
        let events := history service steps world
        let last := (run service steps world).2
        (∀ request, Http.Cookie.session? request = some id →
          (Http.Gate.Admits request id last ↔
            ∃ first, IsLastStart id events first ∧
              (last.store.clock : Int) < first.clock + 1000 * (86400 * config.sessionDays.toInt)) ∧
          (¬ Http.Gate.Admits request id last →
            Http.Gate.TurnsAway request last ∧
            ∀ endpoint, Http.Route.ofPath? request.path = some (.guarded endpoint) →
              (Http.handle service request last).1.status = 403)) ∧
        ∀ event ∈ events, event.startedSession? = some id →
          event.HandsOut id ∧
          ∀ request : Http.Request,
            request.values "cookie" = [Text.utf8 (Http.Cookie.ofId id)] →
            Http.Cookie.session? request = some id := by
  obtain ⟨service, made, settings⟩ : ∃ service : Service,
      (Server.serviceOf config start).1 = .ok service ∧
        service.session = ⟨config.sessionDays, config.production⟩ :=
    ⟨_, Config.serviceOf_of_ofLookup accepted start, rfl⟩
  have length := Session.lifetime_eq (Config.bounds_sessionDays accepted) config.production
  rw [← settings] at length
  refine ⟨service, made, ?_⟩
  intro steps world begins id events last
  have sound : last.store.condition = .sound := begins.sound_run service
  have tenured : Tenured service.session.lifetime events last.store id :=
    tenured_run service begins id
  refine ⟨?_, fun event member started => ⟨handsOut_of_started member started, ?_⟩⟩
  · intro request cookie
    refine ⟨?_, fun stopped => ?_⟩
    · rw [Http.Gate.admits_iff cookie sound, tenured.isLive_iff]
      apply exists_congr
      intro first
      apply and_congr_right
      intro _
      omega
    · have turnsAway := Http.Gate.turnsAway_of_not_admits cookie sound stopped
      exact ⟨turnsAway, fun endpoint known => turnsAway.status_handle service known⟩
  · intro request returned
    exact Http.Cookie.session?_of_ofId returned

section Waiting

variable {service : Service} {steps : List Step} {world : World} {milliseconds : Nat}

theorem clock_run_advance :
    (run service (steps ++ [.advance milliseconds]) world).2.store.clock =
      (run service steps world).2.store.clock + milliseconds := by
  rw [run_concat]
  rfl

/-- Waiting starts and ends no session. -/
theorem isLastStart_advance_iff {id : Session.Id} {first : Event} :
    IsLastStart id (history service (steps ++ [.advance milliseconds]) world) first ↔
      IsLastStart id (history service steps world) first := by
  rw [history_concat, isLastStart_concat_iff]
  simp [Event.startedSession?, Event.endedSession?, Step.event]

end Waiting

/-- A session of a week is admitted up to its last millisecond and turned away in the next one. -/
theorem admits_iff_isLastStart_week :
    ∃ (lookup : Config.Lookup) (config : Config) (service : Service) (id : Session.Id)
        (request : Http.Request) (steps : List Step) (world : World),
      Config.ofLookup lookup = .ok config ∧
      (Server.serviceOf config world).1 = .ok service ∧
      Begins (steps ++ [.advance 1]) world ∧
      Http.Cookie.session? request = some id ∧
      Http.Gate.Admits request id (run service steps world).2 ∧
      Http.Gate.TurnsAway request (run service (steps ++ [.advance 1]) world).2 := by
  let lookup : Config.Lookup := fun name =>
    if name = "CSRF_SECRET" then some "000102030405060708090a0b0c0d0e0f" else none
  let config : Config :=
    ⟨.four [127, 0, 0, 1] 3000, .redis, "redis://127.0.0.1:6379", 7,
      (List.range 16).map UInt8.ofNat, 3600, ["http://localhost:3000"], false⟩
  let id : Session.Id :=
    ⟨[0, 1, 2, 3, 4, 5, 0x46, 7, 0x88, 9, 0xA, 0xB, 0xC, 0xD, 0xE, 0xF], rfl⟩
  let begin : Http.Request := ⟨"POST", "/api/session", [], []⟩
  let request : Http.Request := ⟨"GET", "/api/csrf",
    [⟨"cookie", Text.utf8 "session_id=00010203-0405-4607-8809-0a0b0c0d0e0f"⟩], []⟩
  let world : World := ⟨.new .sound, 1700000000, .ofList ((List.range 16).map UInt8.ofNat), []⟩
  let starting : List Step := [.request begin]
  let steps : List Step := starting ++ [.advance 604799999]
  have accepted : Config.ofLookup lookup = .ok config := by decide +kernel
  have cookie : Http.Cookie.session? request = some id := by decide +kernel
  have begins : Begins (steps ++ [.advance 1]) world := ⟨by decide, rfl, rfl⟩
  obtain ⟨service, made, law⟩ := admits_iff_isLastStart accepted world
  obtain rfl := Except.ok.inj ((Config.serviceOf_of_ofLookup accepted world).symm.trans made)
  generalize configured :
    (⟨⟨.ofKey config.secret, config.tokenWindow⟩, ⟨config.sessionDays, config.production⟩⟩ :
      Service) = service at made law
  let first : Event := (Step.request begin).event service world
  have started : first.startedSession? = some id := by
    subst configured
    decide +kernel
  have clock : (run service starting world).2.store.clock = 0 := by
    have starts := Http.starts_of_started
      (show Http.startedSession? begin { world with journal := [] } _ = some id from started)
    rw [run_cons, run_nil, Step.after_request_store, starts.written]
    rfl
  have lastStart : IsLastStart id (history service starting world) first :=
    ⟨[], [], rfl, started, by simp⟩
  have begun : first.clock = 0 := rfl
  have week : (config.sessionDays.toInt : Int) = 7 := by decide
  refine ⟨lookup, config, service, id, request, steps, world, accepted, made, begins, cookie, ?_, ?_⟩
  · refine (((law steps world begins.init id).1 request cookie).1).mpr ⟨first, ?_, ?_⟩
    · exact isLastStart_advance_iff.mpr lastStart
    · rw [clock_run_advance, clock, begun, week]
      decide
  · refine ((((law _ world begins id).1 request cookie).2) ?_).1
    intro admits
    obtain ⟨event, lastStart, ahead⟩ := (((law _ world begins id).1 request cookie).1).mp admits
    rw [isLastStart_advance_iff, isLastStart_advance_iff] at lastStart
    obtain ⟨past, future, split, _⟩ := lastStart
    have member : event ∈ [first] := by
      rw [show [first] = past ++ event :: future from split]
      exact List.mem_append_right _ List.mem_cons_self
    obtain rfl := List.mem_singleton.mp member
    rw [clock_run_advance, clock_run_advance, clock, begun, week] at ahead
    revert ahead
    decide

end Scenario
end AntiForgery
