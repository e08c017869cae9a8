import AntiForgery.Proofs.Http.Likeness
import AntiForgery.Proofs.Scenario.Runs

/-!
# Tokens and sessions do not interfere

All records are in one table, and a call about one key may sweep out records under others.  Still no
call about one token or session shows in an answer about another: it leaves the world alike under
every key that the other calls reach.  So calls can be left out of a run, and neighbours can change
places, and the answers to the others stay what they were.
-/

namespace AntiForgery
namespace Scenario

/-! ## What a call is about -/

/-- A token that is shown for a session, or a session. -/
inductive Subject where
  | ofToken (session token : String)
  | ofSession (id : Session.Id)
  deriving DecidableEq, Repr

namespace Subject

variable {engine : Token.Engine} {one other : Subject} {key : String}

/-- A call about the subject may reach the record under a key.  A token is claimed only for its own
session, so a check for another session reaches no record. -/
def Reaches (engine : Token.Engine) (key : String) : Subject → Prop
  | .ofToken session token =>
      key = Store.spentKey token ∧
        ∃ payload, engine.Opens token payload ∧ payload.session = session
  | .ofSession id => key = id.storageKey

/-- No record is reached by calls about different subjects. -/
theorem Reaches.unique (reaches : one.Reaches engine key) (reachesOther : other.Reaches engine key) :
    one = other := by
  cases one with
  | ofToken session token =>
      obtain ⟨rfl, payload, opens, own⟩ := reaches
      cases other with
      | ofToken otherSession otherToken =>
          obtain ⟨same, otherPayload, otherOpens, otherOwn⟩ := reachesOther
          obtain rfl := Store.spentKey_inj.mp same
          obtain rfl := opens.unique otherOpens
          rw [← own, ← otherOwn]
      | ofSession id => exact absurd reachesOther (Session.Id.spentKey_ne_storageKey token id)
  | ofSession id =>
      have own : key = id.storageKey := reaches
      subst own
      cases other with
      | ofToken session token =>
          exact absurd reachesOther.1.symm (Session.Id.spentKey_ne_storageKey token id)
      | ofSession otherId => rw [Session.Id.storageKey_inj.mp reachesOther]

end Subject

/-- What a step is about: the checks are about a token, and what is asked of the register is about a
session. -/
def Step.subject? : Step → Option Subject
  | .check session token _ => some (.ofToken session token)
  | .checkNow session token => some (.ofToken session token)
  | .redeem session token => some (.ofToken session token)
  | .askSession id => some (.ofSession id)
  | .endSession id => some (.ofSession id)
  | _ => none

/-- A step that is about one token or one session, or a movement of a clock. -/
def Step.isPersonal : Step → Bool
  | .advance _ => true
  | .setWall _ => true
  | step => step.subject?.isSome

/-- Whether a step stays when only the calls about some subjects do.  A clock goes on moving. -/
def Step.stays (about : Subject → Bool) (step : Step) : Bool :=
  step.subject?.all about

/-! ## Which steps tell which worlds apart -/

section Steps

variable {service : Service} {step : Step} {subject : Subject} {keys : String → Prop}

/-- To take a step about a subject is to check its token, or to look up or remove the key of its
session. -/
theorem Step.perform_of_subject
    {property : ∀ {α : Type}, Action α → Prop}
    (closed : Action.Closed property)
    (about : step.subject? = some subject)
    (checked : ∀ session token, subject = .ofToken session token →
      ∀ now, property (Action.onStore (service.engine.check session token now)))
    (asked : ∀ id, subject = .ofSession id → property (Action.ask (.lookUp id.storageKey)))
    (ended : ∀ id, subject = .ofSession id → property (Action.ask (.remove id.storageKey))) :
    property (step.perform service) := by
  cases step with
  | check session token now =>
      cases about
      exact closed.bind (checked session token rfl now) fun _ => closed.pure _
  | checkNow session token =>
      cases about
      exact closed.bind (closed.bind closed.now (checked session token rfl)) fun _ => closed.pure _
  | redeem session token =>
      cases about
      exact closed.bind (Token.redeem_of_closed closed (checked session token rfl)) fun _ =>
        closed.pure _
  | askSession id =>
      cases about
      exact closed.bind (Session.isLive_of_closed closed (asked id rfl)) fun _ => closed.pure _
  | endSession id =>
      cases about
      exact closed.bind (Session.finish_of_closed closed (ended id rfl)) fun _ => closed.pure _
  | _ => cases about

/-- A token that is claimed is reached by the check that claims it. -/
theorem Subject.reaches_of_judge
    {engine : Token.Engine}
    {session token : String}
    {now : Seconds}
    {lifetime : Nat}
    (judged : engine.judge session token now = .ok (.claim lifetime)) :
    (Subject.ofToken session token).Reaches engine (Store.spentKey token) := by
  obtain ⟨payload, opens, _⟩ := Token.Engine.exists_opens_of_judge judged
  exact ⟨rfl, payload, opens, Token.Engine.session_eq_of_judge judged opens⟩

/-- A step about a subject does not tell worlds apart that are alike under the keys it may reach. -/
theorem Step.oblivious_of_subject
    (about : step.subject? = some subject)
    (inside : ∀ key, subject.Reaches service.engine key → keys key) :
    (step.perform service).Oblivious keys := by
  refine Step.perform_of_subject Action.closed_oblivious about ?_ ?_ ?_
  · rintro session token rfl now
    exact Token.oblivious_check fun _ judged => inside _ (Subject.reaches_of_judge judged)
  · rintro id rfl
    exact Action.oblivious_ask _ (inside _ rfl)
  · rintro id rfl
    exact Action.oblivious_ask _ (inside _ rfl)

/-- A step about a subject leaves the world as one alike under the keys that it cannot reach. -/
theorem Step.spares_of_subject
    (about : step.subject? = some subject)
    (outside : ∀ key, subject.Reaches service.engine key → ¬ keys key) :
    (step.perform service).Spares keys := by
  refine Step.perform_of_subject Action.closed_spares about ?_ ?_ ?_
  · rintro session token rfl now
    exact Token.spares_check fun _ judged => outside _ (Subject.reaches_of_judge judged)
  · rintro id rfl
    exact Action.spares_ask _ (outside _ rfl)
  · rintro id rfl
    exact Action.spares_ask _ (outside _ rfl)

/-- The clocks move alike in alike worlds. -/
theorem Step.oblivious_of_isPersonal
    (personal : step.isPersonal = true)
    (inside : ∀ subject, step.subject? = some subject →
      ∀ key, subject.Reaches service.engine key → keys key) :
    (step.perform service).Oblivious keys := by
  cases about : step.subject? with
  | some subject => exact Step.oblivious_of_subject about (inside subject about)
  | none =>
      cases step with
      | advance milliseconds =>
          exact fun _ _ alike lines =>
            ⟨rfl, ⟨alike.store.advance milliseconds, alike.wall, alike.entropy⟩, lines⟩
      | setWall reading =>
          exact fun _ _ alike lines => ⟨rfl, ⟨alike.store, rfl, alike.entropy⟩, lines⟩
      | _ => simp [isPersonal, about] at personal

/-- No step at all tells worlds apart that are alike under every key. -/
theorem Step.oblivious (service : Service) (step : Step) :
    (step.perform service).Oblivious fun _ => True := by
  by_cases personal : step.isPersonal = true
  · exact Step.oblivious_of_isPersonal personal fun _ _ _ _ => trivial
  · cases step with
    | mint session issued =>
        exact (Action.oblivious_onEntropy _).bind fun _ => Action.oblivious_pure _
    | issue session issued =>
        exact (Token.oblivious_issue _ _ _).bind fun _ => Action.oblivious_pure _
    | startSession lifetime =>
        exact (Session.oblivious_start (fun _ => trivial) lifetime).bind fun _ =>
          Action.oblivious_pure _
    | record key lifetime =>
        exact (Action.oblivious_ask _ trivial).bind fun _ => Action.oblivious_pure _
    | lookUp key => exact (Action.oblivious_ask _ trivial).bind fun _ => Action.oblivious_pure _
    | claim key lifetime =>
        exact (Action.oblivious_ask _ trivial).bind fun _ => Action.oblivious_pure _
    | remove key => exact (Action.oblivious_ask _ trivial).bind fun _ => Action.oblivious_pure _
    | fill beginning start count lifetime =>
        exact (claimMany_of_closed Action.closed_oblivious
          (fun _ => Action.oblivious_ask _ trivial) _ _ _ _).bind fun _ =>
          Action.oblivious_pure _
    | countLive =>
        exact fun _ _ alike lines => ⟨congrArg Outcome.counted alike.store.liveCount_eq, alike, lines⟩
    | askLifetime => exact Action.oblivious_pure _
    | request sent =>
        exact (Http.oblivious_handle (fun _ => trivial) (fun _ => trivial) service sent).bind
          fun _ => Action.oblivious_pure _
    | _ => exact absurd rfl personal

end Steps

/-! ## Runs -/

section Runs

variable {service : Service}

/-- A run goes the same way in worlds that are alike under every key. -/
theorem run_of_alike
    (steps : List Step)
    {first second : World}
    (alike : first.Alike (fun _ => True) second) :
    (run service steps first).1 = (run service steps second).1 := by
  induction steps generalizing first second with
  | nil => rfl
  | cons step steps ih =>
      obtain ⟨same, after⟩ := (step.oblivious service).observe alike
      rw [run_cons_outcomes, run_cons_outcomes, same]
      exact congrArg _ (ih after)

/-- The keys that calls about some subjects may reach. -/
def ReachedBy (engine : Token.Engine) (about : Subject → Bool) (key : String) : Prop :=
  ∃ subject, about subject = true ∧ subject.Reaches engine key

/-- What is left out of a run is not missed: the steps that stay have the outcomes that they have
among all the others. -/
theorem run_filter
    (about : Subject → Bool)
    {steps : List Step}
    (personal : ∀ step ∈ steps, step.isPersonal = true)
    {first second : World}
    (alike : first.Alike (ReachedBy service.engine about) second) :
    ((steps.zip (run service steps first).1).filter fun told => told.1.stays about).map (·.2) =
      (run service (steps.filter (·.stays about)) second).1 := by
  induction steps generalizing first second with
  | nil => rfl
  | cons step steps ih =>
      rw [List.forall_mem_cons] at personal
      rw [run_cons_outcomes, List.zip_cons_cons]
      by_cases stays : step.stays about = true
      · have oblivious : (step.perform service).Oblivious (ReachedBy service.engine about) := by
          refine Step.oblivious_of_isPersonal personal.1 fun subject own key reaches => ?_
          rw [Step.stays, own] at stays
          exact ⟨subject, stays, reaches⟩
        obtain ⟨same, after⟩ := oblivious.observe alike
        rw [List.filter_cons, if_pos stays, List.filter_cons, if_pos stays, run_cons_outcomes,
          List.map_cons, same]
        exact congrArg _ (ih personal.2 after)
      · obtain ⟨subject, own, left⟩ : ∃ subject, step.subject? = some subject ∧
            about subject = false := by
          rw [Step.stays] at stays
          cases own : step.subject? with
          | none => simp [own] at stays
          | some subject => exact ⟨subject, rfl, by simpa [own] using stays⟩
        have spares : (step.perform service).Spares (ReachedBy service.engine about) := by
          refine Step.spares_of_subject own ?_
          rintro key reaches ⟨other, stays, reachesOther⟩
          rw [reachesOther.unique reaches, left] at stays
          cases stays
        rw [List.filter_cons, if_neg stays, List.filter_cons, if_neg stays]
        exact ih personal.2 ((spares.observe first).symm.trans alike)

/-- Steps about different subjects have the same outcomes in either order, and leave worlds that are
alike under every key. -/
theorem alike_of_swap
    {first second : Step}
    {one other : Subject}
    (aboutFirst : first.subject? = some one)
    (aboutSecond : second.subject? = some other)
    (different : one ≠ other)
    (world : World) :
    (Action.observe (second.perform service) (first.after service world)).1 =
        (Action.observe (second.perform service) world).1 ∧
      (Action.observe (first.perform service) (second.after service world)).1 =
        (Action.observe (first.perform service) world).1 ∧
      (second.after service (first.after service world)).Alike (fun _ => True)
        (first.after service (second.after service world)) := by
  let reached : String → Prop := fun key => one.Reaches service.engine key
  have apart : ∀ key, other.Reaches service.engine key → ¬ reached key :=
    fun key reachesOther reaches => different (reaches.unique reachesOther)
  have toldFirst := Step.oblivious_of_subject aboutFirst fun key (reaches : reached key) => reaches
  have toldSecond := Step.oblivious_of_subject aboutSecond apart
  have sparedFirst : (first.perform service).Spares fun key => ¬ reached key :=
    Step.spares_of_subject aboutFirst fun key reaches free => free reaches
  have sparedSecond : (second.perform service).Spares reached :=
    Step.spares_of_subject aboutSecond apart
  obtain ⟨sameFirst, inside⟩ := toldFirst.observe (sparedSecond.observe world).symm
  obtain ⟨sameSecond, outside⟩ := toldSecond.observe (sparedFirst.observe world).symm
  have alikeInside := (sparedSecond.observe (first.after service world)).symm.trans inside.symm
  have alikeOutside := outside.trans (sparedFirst.observe (second.after service world))
  exact ⟨sameSecond, sameFirst, alikeInside.of_split alikeOutside⟩

end Runs

/-- Calls about tokens and sessions do not interfere, in any world and in any condition of the store.
Leaving out of a run all calls but those about some subjects, chosen by the token, by the session or by
both, changes no outcome of the calls that stay.  And two neighbours about different subjects, such as
checks of different tokens, or a check and a call about a session, can change places: both have the
outcome that they had, and so has every step that follows. -/
theorem run_noninterference (service : Service) (world : World) :
    (∀ (about : Subject → Bool) (steps : List Step),
      (∀ step ∈ steps, step.isPersonal = true) →
      ((steps.zip (run service steps world).1).filter fun told => told.1.stays about).map (·.2) =
        (run service (steps.filter (·.stays about)) world).1) ∧
    ∀ (first second : Step) (one other : Subject),
      first.subject? = some one →
      second.subject? = some other →
      one ≠ other →
      ∀ continuation : List Step, ∃ told toldOther rest,
        (run service (first :: second :: continuation) world).1 = told :: toldOther :: rest ∧
        (run service (second :: first :: continuation) world).1 = toldOther :: told :: rest := by
  refine ⟨fun about steps personal => run_filter about personal (.refl _ world), ?_⟩
  intro first second one other aboutFirst aboutSecond different continuation
  obtain ⟨sameSecond, sameFirst, alike⟩ := @alike_of_swap service _ _ _ _ aboutFirst aboutSecond
    different world
  refine ⟨(Action.observe (first.perform service) world).1,
    (Action.observe (second.perform service) world).1,
    (run service continuation (second.after service (first.after service world))).1, ?_, ?_⟩
  · rw [run_cons_outcomes, run_cons_outcomes, sameSecond]
  · rw [run_cons_outcomes, run_cons_outcomes, sameFirst, run_of_alike continuation alike]

/-- A session is ended and asked for as if nobody had checked a token of it in between, and it makes no
difference whether the token was checked before the end or after. -/
theorem run_noninterference_logout :
    ∃ (service : Service) (world : World) (id : Session.Id) (token : String) (steps : List Step),
      (∀ step ∈ steps, step.isPersonal = true) ∧
      (((steps.zip (run service steps world).1).filter fun told =>
        told.1.stays fun subject => subject = .ofSession id).map (·.2)).map (fun told =>
          match told.1 with
          | .live (.ok answer) => some answer
          | _ => none) = [some true, none, none, some false] ∧
      ∃ told toldOther rest,
        (run service [.redeem id.text token, .endSession id, .askSession id] world).1 =
          told :: toldOther :: rest ∧
        (run service [.endSession id, .redeem id.text token, .askSession id] world).1 =
          toldOther :: told :: rest := by
  let service : Service := ⟨⟨.ofKey ((List.range 16).map UInt8.ofNat), 3600⟩, ⟨7, false⟩⟩
  let id : Session.Id :=
    ⟨[0, 1, 2, 3, 4, 5, 0x46, 7, 0x88, 9, 0xA, 0xB, 0xC, 0xD, 0xE, 0xF], rfl⟩
  let token : String :=
    "EBESExQVFhcYGRobvwxwynw834B5gjSR5R3JDgqMRbcExFiStf8ZJEoxJ53l9BkHsZ/WLIKQt/i54DUr7IiXCdXhz4EG" ++
      "cF7C5v02umRpJZQSp02r/rBKPQcoRQDaNxDWaMbmZMaxFPM="
  let store : Store := (Store.new .sound).write id.storageKey 604800000
  let world : World := ⟨store, 1700000060, .ofList [], []⟩
  let steps : List Step :=
    [.askSession id, .redeem id.text token, .advance 1000, .endSession id, .redeem id.text token,
      .askSession id]
  obtain ⟨filtered, swapped⟩ := run_noninterference service world
  have personal : ∀ step ∈ steps, step.isPersonal = true := by decide
  refine ⟨service, world, id, token, steps, personal, ?_, ?_⟩
  · rw [filtered (fun subject => subject = .ofSession id) steps personal]
    decide +kernel
  · exact swapped _ _ (.ofToken id.text token) (.ofSession id) rfl rfl (by simp) [.askSession id]

end Scenario
end AntiForgery
