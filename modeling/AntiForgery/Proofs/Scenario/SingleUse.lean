import AntiForgery.Proofs.Scenario.History

/-!
# How often a token is accepted

The record of a token that was accepted ends in the last second of the token's window, and the token
itself at the end of that second.  As long as the two clocks move together, this is the only gap: a
token that was accepted before is accepted once more exactly when it is checked within that second,
after its record has ended and before anybody else has used the gap.
-/

namespace AntiForgery
namespace Scenario

/-- A reading of the wall clock that is a fixed number of milliseconds ahead of the store's clock, in
whole seconds. -/
def InStep (offset : Int) (reading : Seconds) (clock : Nat) : Prop :=
  reading.toInt = (clock + offset) / 1000

namespace Event

/-- The check that an event comes down to, if it does. -/
def attempt? (event : Event) : Option Token.Attempt :=
  event.step.attempt? event.before

/-- The token that was accepted, if one was. -/
def acceptedToken? (event : Event) : Option String :=
  Scenario.acceptedToken? event.step event.outcome

/-- The reading of the store's clock. -/
def clock (event : Event) : Nat :=
  event.before.store.clock

/-- The time at which a token is checked. -/
def now (event : Event) : Seconds :=
  match event.step with
  | .check _ _ now => now
  | _ => event.before.wall

/-- The event is one of the service, and a token is checked at a time that is in step with the store's
clock. -/
structure Orderly (offset : Int) (event : Event) : Prop where
  indirect : event.step.isDirect = false
  inStep : ∀ attempt, event.attempt? = some attempt → InStep offset attempt.now event.clock

/-- The later event finds the record of the earlier one ended, while the token is in the last second
of its window. -/
structure Replays
    (engine : Token.Engine)
    (payload : Token.Payload)
    (earlier later : Event) : Prop where
  last : later.now.toInt = engine.lastReading payload.issued
  early : earlier.now.toInt < engine.lastReading payload.issued
  ended : earlier.clock + 1000 * (engine.lastReading payload.issued - earlier.now.toInt) ≤
    later.clock

theorem now_of_attempt?
    {event : Event}
    {attempt : Token.Attempt}
    (asked : event.attempt? = some attempt) :
    attempt.now = event.now := by
  obtain ⟨before, step, outcome⟩ := event
  cases step with
  | check session token now =>
      cases asked
      rfl
  | checkNow session token =>
      cases asked
      rfl
  | redeem session token =>
      cases asked
      rfl
  | request sent => exact Http.attempt?_now asked
  | _ => cases asked

end Event

/-! ## A record and the window of its token -/

section Window

variable {offset earlier later last : Int} {clock laterClock : Nat}

/-- Before the last second of the window the record has not ended. -/
theorem lt_deadline
    (inStep : earlier = (clock + offset) / 1000)
    (inStepLater : later = (laterClock + offset) / 1000)
    (window : earlier ≤ last)
    (early : later < last) :
    laterClock < clock + 1000 * max 1 (last - earlier).toNat := by
  omega

/-- Within the window the record has ended in the last second only. -/
theorem deadline_le_iff
    (inStep : earlier = (clock + offset) / 1000)
    (inStepLater : later = (laterClock + offset) / 1000)
    (window : earlier ≤ last)
    (windowLater : later ≤ last) :
    clock + 1000 * max 1 (last - earlier).toNat ≤ laterClock ↔
      later = last ∧ earlier < last ∧ clock + 1000 * (last - earlier) ≤ laterClock := by
  omega

end Window

/-! ## From one event to another -/

/-- What leads from one world to another, step by step. -/
inductive Path (service : Service) : World → List Event → World → Prop
  | nil (world : World) : Path service world [] world
  | cons {world last : World} {step : Step} {outcome : Outcome} {events : List Event}
      (spends : Spends service world step outcome (step.after service world).store)
      (path : Path service (step.after service world) events last) :
      Path service world (⟨world, step, outcome⟩ :: events) last

/-- What leads to an event of a history, and what follows it. -/
theorem path_of_split
    {service : Service}
    {steps : List Step}
    {world : World}
    (indirect : ∀ event ∈ history service steps world, event.step.isDirect = false)
    {past future : List Event}
    {event : Event}
    (split : history service steps world = past ++ event :: future) :
    Path service world past event.before ∧
      Spends service event.before event.step event.outcome
        (event.step.after service event.before).store ∧
      ∃ rest, future = history service rest (event.step.after service event.before) := by
  induction past generalizing steps world with
  | nil =>
      cases steps with
      | nil => cases split
      | cons step steps =>
          have plain : step.isDirect = false := indirect _ List.mem_cons_self
          rw [history, List.nil_append, List.cons.injEq] at split
          obtain ⟨rfl, rfl⟩ := split
          exact ⟨.nil world, spends_after service plain world, steps, rfl⟩
  | cons head past ih =>
      cases steps with
      | nil => cases split
      | cons step steps =>
          have plain : step.isDirect = false := indirect _ List.mem_cons_self
          rw [history, List.cons_append, List.cons.injEq] at split
          obtain ⟨rfl, split⟩ := split
          obtain ⟨path, rest⟩ :=
            ih (fun event member => indirect event (List.mem_cons_of_mem _ member)) split
          exact ⟨.cons (spends_after service plain world) path, rest⟩

namespace Path

variable {service : Service} {world last : World} {events : List Event}

theorem condition (path : Path service world events last) :
    last.store.condition = world.store.condition := by
  induction path with
  | nil world => rfl
  | cons spends path ih => exact ih.trans spends.condition

theorem guards
    (path : Path service world events last)
    {token : String}
    {deadline : Nat}
    (guards : world.store.Guards (Store.spentKey token) deadline) :
    last.store.Guards (Store.spentKey token) deadline := by
  induction path with
  | nil world => exact guards
  | cons spends path ih => exact ih (spends.guards guards)

/-- A way on which a token is not accepted leaves the key of that token alone. -/
theorem keeps
    (path : Path service world events last)
    {token : String}
    (silent : ∀ event ∈ events, event.acceptedToken? ≠ some token) :
    Store.Keeps (Store.spentKey token) world.store last.store := by
  induction path with
  | nil world => exact .refl _ _
  | cons spends path ih =>
      have first := spends.keeps_of_ne (silent _ List.mem_cons_self)
      exact first.trans (ih fun event member => silent event (List.mem_cons_of_mem _ member))

end Path

/-! ## Events that accept a token -/

namespace Event

/-- All that has to hold for an event to accept a token. -/
structure Accepts
    (engine : Token.Engine)
    (token : String)
    (payload : Token.Payload)
    (event : Event) : Prop where
  opens : engine.Opens token payload
  asked : event.attempt? = some ⟨payload.session, token, event.now⟩
  timely : engine.Timely payload.issued event.now
  free : event.before.store.table.isLive (Store.spentKey token) event.clock = false
  within : event.clock / 1000 + engine.claimLifetime payload.issued event.now ≤ Store.lastSecond

theorem acceptedToken?_eq_some_iff
    {service : Service}
    (bounded : service.engine.window < Int64.maxValue)
    {event : Event}
    {after : Store}
    (spends : Spends service event.before event.step event.outcome after)
    (sound : event.before.store.condition = .sound)
    {token : String} :
    event.acceptedToken? = some token ↔
      ∃ payload, event.Accepts service.engine token payload := by
  rw [acceptedToken?, spends.told token]
  constructor
  · rintro ⟨⟨session, token, now⟩, asked, rfl, accepted⟩
    obtain ⟨payload, admits, free, within⟩ :=
      (Token.Engine.check_eq_true_iff bounded session token now sound).mp accepted
    have same : now = event.now := now_of_attempt? asked
    have own : payload.session = session := Text.utf8_inj.mp admits.own
    subst same own
    exact ⟨payload, admits.opens, asked, admits.timely, free, within⟩
  · rintro ⟨payload, accepts⟩
    refine ⟨_, accepts.asked, rfl, ?_⟩
    exact (Token.Engine.check_eq_true_iff bounded _ _ _ sound).mpr
      ⟨payload, ⟨accepts.opens, accepts.timely, rfl⟩, accepts.free, accepts.within⟩

/-- The end of the record that an event writes when it accepts a token. -/
def deadline (engine : Token.Engine) (payload : Token.Payload) (event : Event) : Nat :=
  event.clock + 1000 * engine.claimLifetime payload.issued event.now

/-- An event that accepts a token leaves a record of it. -/
theorem Accepts.keeps
    {service : Service}
    (bounded : service.engine.window < Int64.maxValue)
    {event : Event}
    {token : String}
    {payload : Token.Payload}
    (accepts : event.Accepts service.engine token payload)
    {after : Store}
    (spends : Spends service event.before event.step event.outcome after)
    (sound : event.before.store.condition = .sound) :
    Store.Keeps (Store.spentKey token)
      (event.before.store.write (Store.spentKey token) (event.deadline service.engine payload))
      after := by
  have asked : event.step.attempt? event.before = some ⟨payload.session, token, event.now⟩ :=
    accepts.asked
  have free : ¬ event.before.store.table.isLive (Store.spentKey token)
      event.before.store.clock = true := by
    rw [show event.before.store.clock = event.clock from rfl, accepts.free]
    exact Bool.false_ne_true
  have range : Store.deadline? event.before.store.clock
      (service.engine.claimLifetime payload.issued event.now) =
        some (event.deadline service.engine payload) :=
    Store.deadline?_eq_some_iff.mpr ⟨accepts.within, rfl⟩
  have judged := (Token.Engine.judge_eq_claim_iff bounded).mpr
    ⟨payload, ⟨accepts.opens, accepts.timely, rfl⟩, rfl⟩
  have checked : event.step.checked service event.before =
      event.before.store.write (Store.spentKey token) (event.deadline service.engine payload) := by
    rw [Step.checked, asked]
    dsimp only
    rw [Token.Attempt.check, Token.Engine.check_of_sound judged sound, if_neg free, range]
  rw [← checked]
  exact spends.keeps token

end Event

/-! ## Two events with the same token -/

/-- An event in a run, after others and after one that accepted a token: the record of the token is
guarded until its end, and is as it was left if nobody else had the token accepted. -/
structure Sequel
    (service : Service)
    (token : String)
    (payload : Token.Payload)
    (earlier : Event)
    (between : List Event)
    (later : Event) : Prop where
  accepts : earlier.Accepts service.engine token payload
  acceptedToken?_eq_some_iff : later.acceptedToken? = some token ↔
    ∃ payload, later.Accepts service.engine token payload
  guards : later.before.store.Guards (Store.spentKey token)
    (earlier.deadline service.engine payload)
  isLive_eq : (∀ event ∈ between, event.acceptedToken? ≠ some token) →
    later.before.store.table.isLive (Store.spentKey token) later.clock =
      decide (later.clock < earlier.deadline service.engine payload)

theorem sequel_of_split
    {service : Service}
    (bounded : service.engine.window < Int64.maxValue)
    {world : World}
    (sound : world.store.condition = .sound)
    {steps : List Step}
    (indirect : ∀ event ∈ history service steps world, event.step.isDirect = false)
    {past between future : List Event}
    {earlier later : Event}
    (split : history service steps world = past ++ earlier :: (between ++ later :: future))
    {token : String}
    (accepted : earlier.acceptedToken? = some token) :
    ∃ payload, Sequel service token payload earlier between later := by
  obtain ⟨path, spends, rest, follow⟩ := path_of_split indirect split
  have soundEarlier : earlier.before.store.condition = .sound := path.condition.trans sound
  obtain ⟨payload, accepts⟩ :=
    (Event.acceptedToken?_eq_some_iff bounded spends soundEarlier).mp accepted
  have written := accepts.keeps bounded spends soundEarlier
  have indirectRest : ∀ event ∈ history service rest (earlier.step.after service earlier.before),
      event.step.isDirect = false := by
    intro event member
    rw [← follow] at member
    refine indirect event ?_
    rw [split]
    exact List.mem_append_right _ (List.mem_cons_of_mem _ member)
  obtain ⟨onward, spendsLater, _⟩ := path_of_split indirectRest follow.symm
  have soundLater : later.before.store.condition = .sound :=
    (onward.condition.trans spends.condition).trans soundEarlier
  refine ⟨payload, accepts, Event.acceptedToken?_eq_some_iff bounded spendsLater soundLater, ?_, ?_⟩
  · exact onward.guards ((Store.guards_write _ _ _).keeps written)
  · intro silent
    have keeps := written.trans (onward.keeps silent)
    rw [Event.clock, keeps.isLive_eq (Nat.le_refl _), Store.isLive_write_self]

namespace Sequel

variable {service : Service} {offset : Int} {token : String} {payload : Token.Payload}
variable {earlier later : Event} {between : List Event}

/-- A token that is accepted again is accepted in the gap. -/
theorem replays
    (sequel : Sequel service token payload earlier between later)
    (short : service.engine.window.toInt ≤ 2 ^ 62)
    (orderly : earlier.Orderly offset)
    (orderlyLater : later.Orderly offset)
    (accepted : later.acceptedToken? = some token) :
    later.Accepts service.engine token payload ∧
      Event.Replays service.engine payload earlier later := by
  obtain ⟨other, acceptsLater⟩ := sequel.acceptedToken?_eq_some_iff.mp accepted
  obtain rfl := sequel.accepts.opens.unique acceptsLater.opens
  have timely := sequel.accepts.timely
  have reached := sequel.guards.le_clock acceptsLater.free
  rw [Event.deadline, Token.Engine.claimLifetime_eq short timely] at reached
  obtain ⟨last, early, ended⟩ := (deadline_le_iff (orderly.inStep _ sequel.accepts.asked)
    (orderlyLater.inStep _ acceptsLater.asked) timely.le_lastReading
    acceptsLater.timely.le_lastReading).mp reached
  exact ⟨acceptsLater, last, early, ended⟩

/-- A token that is checked in the gap, by its own session and before anybody else, is accepted. -/
theorem accepts_of_replays
    (sequel : Sequel service token payload earlier between later)
    (short : service.engine.window.toInt ≤ 2 ^ 62)
    (silent : ∀ event ∈ between, event.acceptedToken? ≠ some token)
    (asked : later.attempt? = some ⟨payload.session, token, later.now⟩)
    (replays : Event.Replays service.engine payload earlier later)
    (within : later.clock / 1000 + 1 ≤ Store.lastSecond) :
    later.Accepts service.engine token payload := by
  have lifetime := Token.Engine.claimLifetime_eq short sequel.accepts.timely
  obtain ⟨last, early, ended⟩ := replays
  have reached : ¬ later.clock < earlier.deadline service.engine payload := by
    rw [Event.deadline, lifetime]
    omega
  have timely := sequel.accepts.timely.of_lastReading last
  refine ⟨sequel.accepts.opens, asked, timely, ?_, ?_⟩
  · rw [sequel.isLive_eq silent, decide_eq_false reached]
  · rw [Token.Engine.claimLifetime_eq short timely, last, Int.sub_self]
    exact within

/-- The record of a token is live at every reading before the last second of its window. -/
theorem isLive_of_lt
    (sequel : Sequel service token payload earlier between later)
    (short : service.engine.window.toInt ≤ 2 ^ 62)
    (orderly : earlier.Orderly offset)
    {reading : Seconds}
    (inStep : InStep offset reading later.clock)
    (early : reading.toInt < service.engine.lastReading payload.issued) :
    later.before.store.table.isLive (Store.spentKey token) later.clock = true := by
  have timely := sequel.accepts.timely
  have ahead := lt_deadline (orderly.inStep _ sequel.accepts.asked) inStep
    timely.le_lastReading early
  rw [← Token.Engine.claimLifetime_eq short timely] at ahead
  exact sequel.guards _ (Nat.le_refl _) ahead

end Sequel

/-- Whoever is accepted takes the gap: nobody is accepted between two events that were. -/
theorem silent_between
    {service : Service}
    (short : service.engine.window.toInt ≤ 2 ^ 62)
    {world : World}
    (sound : world.store.condition = .sound)
    {steps : List Step}
    {offset : Int}
    (orderly : ∀ event ∈ history service steps world, event.Orderly offset)
    {past between future : List Event}
    {earlier later : Event}
    (split : history service steps world = past ++ earlier :: (between ++ later :: future))
    {token : String}
    (accepted : earlier.acceptedToken? = some token)
    (again : later.acceptedToken? = some token) :
    ∀ event ∈ between, event.acceptedToken? ≠ some token := by
  have bounded := Token.Engine.bounded_of_short short
  have indirect : ∀ event ∈ history service steps world, event.step.isDirect = false :=
    fun event member => (orderly event member).indirect
  intro middle inside taken
  obtain ⟨front, back, rfl⟩ := List.append_of_mem inside
  have orderlyEarlier : earlier.Orderly offset := orderly earlier (by simp [split])
  have orderlyMiddle : middle.Orderly offset := orderly middle (by simp [split])
  have orderlyLater : later.Orderly offset := orderly later (by simp [split])
  have splitFirst : history service steps world =
      past ++ earlier :: (front ++ middle :: (back ++ later :: future)) := by
    simp [split]
  have splitSecond : history service steps world =
      (past ++ earlier :: front) ++ middle :: (back ++ later :: future) := by
    simp [split]
  obtain ⟨first, toMiddle⟩ := sequel_of_split bounded sound indirect splitFirst accepted
  obtain ⟨second, fromMiddle⟩ := sequel_of_split bounded sound indirect splitSecond taken
  have last := (toMiddle.replays short orderlyEarlier orderlyMiddle taken).2.last
  have early := (fromMiddle.replays short orderlyMiddle orderlyLater again).2.early
  obtain rfl := toMiddle.accepts.opens.unique fromMiddle.accepts.opens
  omega

/-- In every orderly run a token that was accepted is accepted once more exactly when its own session
has it checked within the last second of its window, after the end of its record, and nobody has
been accepted with it in between.  Before that second its record is live. -/
theorem accepted_again_iff
    {service : Service}
    (short : service.engine.window.toInt ≤ 2 ^ 62)
    {world : World}
    (sound : world.store.condition = .sound)
    {steps : List Step}
    {offset : Int}
    (orderly : ∀ event ∈ history service steps world, event.Orderly offset)
    {past between future : List Event}
    {earlier later : Event}
    (split : history service steps world = past ++ earlier :: (between ++ later :: future))
    {token : String}
    (accepted : earlier.acceptedToken? = some token) :
    ∃ payload, service.engine.Opens token payload ∧
      (∀ reading, InStep offset reading later.clock →
        reading.toInt < service.engine.lastReading payload.issued →
        later.before.store.table.isLive (Store.spentKey token) later.clock = true) ∧
      (later.acceptedToken? = some token ↔
        (∀ event ∈ between, event.acceptedToken? ≠ some token) ∧
        later.attempt? = some ⟨payload.session, token, later.now⟩ ∧
        Event.Replays service.engine payload earlier later ∧
        later.clock / 1000 + 1 ≤ Store.lastSecond) := by
  have bounded := Token.Engine.bounded_of_short short
  have indirect : ∀ event ∈ history service steps world, event.step.isDirect = false :=
    fun event member => (orderly event member).indirect
  have orderlyEarlier : earlier.Orderly offset := orderly earlier (by simp [split])
  have orderlyLater : later.Orderly offset := orderly later (by simp [split])
  obtain ⟨payload, sequel⟩ := sequel_of_split bounded sound indirect split accepted
  refine ⟨payload, sequel.accepts.opens, ?_, ?_, ?_⟩
  · intro reading inStep early
    exact sequel.isLive_of_lt short orderlyEarlier inStep early
  · intro again
    obtain ⟨accepts, replays⟩ := sequel.replays short orderlyEarlier orderlyLater again
    have silent := silent_between short sound orderly split accepted again
    have within := accepts.within
    rw [Token.Engine.claimLifetime_eq short accepts.timely, replays.last, Int.sub_self] at within
    exact ⟨silent, accepts.asked, replays, within⟩
  · rintro ⟨silent, asked, replays, within⟩
    exact sequel.acceptedToken?_eq_some_iff.mpr
      ⟨payload, sequel.accepts_of_replays short silent asked replays within⟩

/-- A token that is checked as soon as it is issued is accepted again at the end of its window. -/
theorem accepted_again_hour :
    ∃ (service : Service) (world : World) (steps : List Step) (offset : Int) (token : String)
        (earlier later : Event) (between : List Event),
      world.store.condition = .sound ∧
      (∀ event ∈ history service steps world, event.Orderly offset) ∧
      history service steps world = [] ++ earlier :: (between ++ later :: []) ∧
      earlier.acceptedToken? = some token ∧
      later.acceptedToken? = some token := by
  let engine : Token.Engine := ⟨.ofKey ((List.range 16).map UInt8.ofNat), 3600⟩
  let service : Service := ⟨engine, ⟨7, false⟩⟩
  let payload : Token.Payload := ⟨"sid-1", 1700000000⟩
  have spelt : Token.Payload.decode? payload.encode = some payload := by decide +kernel
  obtain ⟨token, opens⟩ := engine.exists_opens (by decide +kernel) spelt
  let world : World := ⟨.new .sound, 1700000000, .ofList [], []⟩
  let steps : List Step :=
    [.checkNow "sid-1" token, .advance 3600000, .setWall 1700003600, .checkNow "sid-1" token]
  have accepted : (engine.check "sid-1" token 1700000000 world.store).1 = .ok true := by
    rw [Token.Engine.check_eq_true_iff (by decide) _ _ _ rfl]
    exact ⟨payload, ⟨opens, ⟨by decide, by decide⟩, rfl⟩, rfl, by decide⟩
  let spent : Store := (engine.check "sid-1" token 1700000000 world.store).2
  have clock : spent.clock = 0 := Token.Engine.check_clock ..
  let waited : World := ⟨spent.advance 3600000, 1700003600, .ofList [], []⟩
  let earlier : Event := ⟨world, .checkNow "sid-1" token, .checked (.ok true)⟩
  let later : Event :=
    ⟨waited, .checkNow "sid-1" token,
      .checked (engine.check "sid-1" token 1700003600 waited.store).1⟩
  let between : List Event :=
    [⟨⟨spent, 1700000000, .ofList [], []⟩, .advance 3600000, .moved⟩,
      ⟨⟨spent.advance 3600000, 1700000000, .ofList [], []⟩, .setWall 1700003600, .moved⟩]
  have happened : history service steps world = [] ++ earlier :: (between ++ later :: []) := by
    have first : earlier = ⟨world, .checkNow "sid-1" token,
        .checked (engine.check "sid-1" token 1700000000 world.store).1⟩ := by
      rw [accepted]
    rw [first]
    rfl
  have laterClock : later.clock = 3600000 := by
    rw [show later.clock = spent.clock + 3600000 from rfl, clock]
  have inStep : InStep 1700000000000 1700000000 0 := by
    rw [InStep]
    decide
  have inStepLater : InStep 1700000000000 1700003600 3600000 := by
    rw [InStep]
    decide
  have last : (1700003600 : Seconds).toInt = engine.lastReading 1700000000 := by decide
  have early : (1700000000 : Seconds).toInt < engine.lastReading 1700000000 := by decide
  have ended : ((0 : Nat) : Int) +
      1000 * (engine.lastReading 1700000000 - (1700000000 : Seconds).toInt) ≤
        (3600000 : Nat) := by decide
  have orderly : ∀ event ∈ history service steps world, event.Orderly 1700000000000 := by
    intro event member
    rw [happened] at member
    simp only [List.nil_append, between, List.cons_append, List.mem_cons, List.not_mem_nil,
      or_false] at member
    rcases member with rfl | rfl | rfl | rfl
    · refine ⟨rfl, ?_⟩
      rintro _ ⟨⟩
      exact inStep
    · exact ⟨rfl, by rintro _ ⟨⟩⟩
    · exact ⟨rfl, by rintro _ ⟨⟩⟩
    · refine ⟨rfl, ?_⟩
      rintro _ ⟨⟩
      rw [laterClock]
      exact inStepLater
  obtain ⟨found, opensFound, _, again⟩ :=
    accepted_again_iff (by decide) rfl orderly happened rfl
  obtain rfl := opensFound.unique opens
  refine ⟨service, world, steps, 1700000000000, token, earlier, later, between, rfl, orderly,
    happened, rfl, again.mpr ⟨?_, rfl, ⟨last, early, ?_⟩, ?_⟩⟩
  · simp [between, Event.acceptedToken?, acceptedToken?]
  · rw [laterClock]
    exact ended
  · rw [laterClock]
    decide

end Scenario
end AntiForgery
