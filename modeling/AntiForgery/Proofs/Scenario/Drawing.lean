import AntiForgery.Proofs.Http.Drawing
import AntiForgery.Proofs.Scenario.Runs

/-!
# The random bytes of a run

A run takes the random bytes in order and each of them once: whatever a step draws stands where the
draws before it have left off.  So the bytes behind different tokens and session ids lie apart, and all
the bytes that are gone were drawn for a token or a session id.
-/

namespace AntiForgery
namespace Scenario

/-! ## What a step draws -/

/-- What a step draws random bytes for when it finds a store. -/
def Step.draw? (store : Store) : Step → Option Draw
  | .mint .. => some .nonce
  | .issue .. => some .nonce
  | .startSession _ => some .id
  | .request sent => Http.draw? sent store
  | _ => none

/-- The step has more to seal than one nonce allows. -/
def Step.IsLong : Step → Prop
  | .mint session issued =>
      Cipher.Envelope.payloadLimit < (Token.Payload.encode ⟨session, issued⟩).length
  | .issue session issued =>
      Cipher.Envelope.payloadLimit < (Token.Payload.encode ⟨session, issued⟩).length
  | _ => False

/-- How long a session is to last that a step starts. -/
def Step.lifetime (service : Service) : Step → Nat
  | .startSession lifetime => lifetime
  | _ => service.session.lifetime

/-- What an outcome tells: a token or a session id that is its result, or what an answer tells. -/
def Outcome.report : Outcome → Report
  | .minted result =>
      { token := fun token => result = .ok token
        id := fun _ => False
        failed := ∃ error, result = .error error }
  | .issued result =>
      { token := fun token => result = .ok token
        id := fun _ => False
        failed := ∃ refusal, result = .error refusal }
  | .started result =>
      { token := fun _ => False
        id := fun id => result = .ok id
        failed := ∃ refusal, result = .error refusal }
  | .answered response => response.report
  | _ =>
      { token := fun _ => False
        id := fun _ => False
        failed := False }

/-- Every step draws what it is said to. -/
theorem Step.perform_draws (service : Service) (step : Step) (world : World) :
    Draws service.engine step.IsLong (step.lifetime service) (step.perform service world).1.report
      world.entropy (step.perform service world).2.entropy
      world.store (step.perform service world).2.store (step.draw? world.store) := by
  have nothing : Report.Silent
      { token := fun _ => False
        id := fun _ => False
        failed := False } := ⟨fun _ => id, fun _ => id⟩
  cases step with
  | mint session issued =>
      exact service.engine.draws_mint session issued world.entropy world.store _ (fun _ => .rfl)
        (fun _ => id) fun error missed => ⟨error, missed⟩
  | issue session issued =>
      have left : ((Step.issue session issued).perform service world).2.entropy =
          (service.engine.mint session issued world.entropy).2 :=
        Token.issue_entropy service.engine session issued world
      have kept : ((Step.issue session issued).perform service world).2.store = world.store :=
        (Token.quiet_issue service.engine session issued).store world
      rw [left, kept]
      refine service.engine.draws_mint session issued world.entropy world.store _
        (fun _ => Token.issue_eq_ok_iff) (fun _ => id) fun error missed => ?_
      have said := Token.issue_fst service.engine session issued world
      rw [missed] at said
      exact ⟨_, said⟩
  | startSession lifetime =>
      let told := ((Step.startSession lifetime).perform service world).1.report
      have draws := @Session.draws_start service.engine lifetime world told (fun _ => .rfl)
        (fun _ => id) fun refusal missed => ⟨refusal, missed⟩
      exact draws.imp_long False.elim
  | request sent =>
      exact (Http.handle_draws service sent world).imp_long False.elim
  | check session token now => exact .idle rfl nothing
  | checkNow session token => exact .idle rfl nothing
  | redeem session token => exact .idle (Token.dry_redeem _ _ _ _) nothing
  | askSession id => exact .idle (Session.dry_isLive _ _) nothing
  | endSession id => exact .idle (Session.dry_finish _ _) nothing
  | record key lifetime => exact .idle rfl nothing
  | lookUp key => exact .idle rfl nothing
  | claim key lifetime => exact .idle rfl nothing
  | remove key => exact .idle rfl nothing
  | fill beginning start count lifetime =>
      have dry : (claimMany beginning lifetime start count 0 0).Dry :=
        claimMany_of_closed Action.closed_dry (fun _ => Action.dry_ask _) start count 0 0
      exact .idle (dry _) nothing
  | countLive => exact .idle rfl nothing
  | advance milliseconds => exact .idle rfl nothing
  | setWall reading => exact .idle rfl nothing
  | askLifetime => exact .idle rfl nothing

/-- What a step draws is what it is said to draw, whoever asks for it. -/
theorem Step.draws (service : Service) (step : Step) (world : World) :
    Draws service.engine step.IsLong (step.lifetime service)
      (step.event service world).outcome.report
      world.entropy (step.after service world).entropy
      world.store (step.after service world).store (step.draw? world.store) :=
  step.perform_draws service { world with journal := [] }

/-! ## Who draws -/

/-- The step has to make a token: it asks for one, or it is a request that has to be given one. -/
def Step.HasToMint (world : World) : Step → Prop
  | .mint .. => True
  | .issue .. => True
  | .request sent => Http.HasToMint sent world
  | _ => False

/-- The step is to start a session, or is a request to start one. -/
def Step.IsStart : Step → Prop
  | .startSession _ => True
  | .request sent => Http.IsStart sent
  | _ => False

/-- The step is refused a token: it is a check, or a request that is refused before a token could be
minted for it. -/
def Step.Refused (store : Store) : Step → Prop
  | .check .. => True
  | .checkNow .. => True
  | .redeem .. => True
  | .request sent => Http.Refused sent store
  | _ => False

/-- A nonce is drawn exactly where a token has to be minted. -/
theorem Step.draw?_eq_nonce_iff {step : Step} {world : World} :
    step.draw? world.store = some .nonce ↔ step.HasToMint world := by
  cases step with
  | request sent => exact Http.draw?_eq_nonce_iff
  | _ => simp [draw?, HasToMint]

theorem Step.draw?_eq_id_iff {step : Step} {world : World} :
    step.draw? world.store = some .id ↔ step.IsStart := by
  cases step with
  | request sent => exact Http.draw?_eq_id_iff
  | _ => simp [draw?, IsStart]

theorem Step.draw?_of_refused {step : Step} {store : Store} (refused : step.Refused store) :
    step.draw? store = none := by
  cases step with
  | request sent => exact Http.draw?_of_refused refused
  | check session token now => rfl
  | checkNow session token => rfl
  | redeem session token => rfl
  | _ => cases refused

/-! ## What an event draws -/

namespace Event

/-- Whether an event takes random bytes for a draw: it draws, and gets its bytes. -/
def takes (draw : Draw) (event : Event) : Bool :=
  event.step.draw? event.before.store == some draw && draw.isGranted event.before.entropy

/-- An event takes a nonce if a token has to be minted and the bytes for it are ready. -/
theorem takes_nonce_iff {event : Event} :
    event.takes .nonce = true ↔
      event.step.HasToMint event.before ∧ 12 ≤ event.before.entropy.ready := by
  rw [← Step.draw?_eq_nonce_iff]
  simp [takes, Draw.isGranted]

theorem takes_id_iff {event : Event} : event.takes .id = true ↔ event.step.IsStart := by
  rw [← @Step.draw?_eq_id_iff _ event.before]
  simp [takes, Draw.isGranted]

/-- The books of an event: what its outcome tells is made of the random bytes that it found first, who
finds too few for a token takes none, and who is refused takes none. -/
structure Accounted (service : Service) (event : Event) : Prop where
  /-- A token begins with the next twelve bytes. -/
  token : ∀ token, event.outcome.report.token token →
    event.takes .nonce = true ∧
    ∃ envelope, Base64.decode? (Text.utf8 token) = some envelope ∧
      envelope.take 12 = event.before.entropy.take 12
  /-- The id of a new session is made of the next sixteen bytes. -/
  id : ∀ id, event.outcome.report.id id →
    event.takes .id = true ∧
    ∃ size, id = .ofRandom (event.before.entropy.take 16) size
  /-- Twelve bytes are taken whenever a token has to be made and they are ready. -/
  nonce : event.takes .nonce = true ↔
    event.step.HasToMint event.before ∧ 12 ≤ event.before.entropy.ready
  /-- Sixteen bytes are taken whenever a session is to be started. -/
  start : event.takes .id = true ↔ event.step.IsStart
  /-- Twelve bytes that are taken are told in one token, unless the payload is too long for a nonce. -/
  sealed : event.takes .nonce = true →
    (∃! token, event.outcome.report.token token) ∨
      event.step.IsLong ∧ event.outcome.report.failed
  /-- Sixteen bytes that are taken are told in one id, unless the store fails to record it. -/
  drawn : event.takes .id = true →
    (∃! id, event.outcome.report.id id) ∨
      event.outcome.report.failed ∧ ∃ size failure,
        (event.before.store.perform (.record
          (Session.Id.ofRandom (event.before.entropy.take 16) size).storageKey
          (event.step.lifetime service))).1 = .error failure
  /-- A token that cannot be made for want of bytes takes none and changes no record. -/
  starved : event.step.HasToMint event.before → event.before.entropy.ready < 12 →
    event.outcome.report.failed ∧
    event.outcome.report.Silent ∧
    (event.step.after service event.before).entropy = event.before.entropy ∧
    (event.step.after service event.before).store = event.before.store
  /-- What is neither to make a token nor to start a session takes no bytes. -/
  spared : ¬ event.step.HasToMint event.before → ¬ event.step.IsStart →
    event.outcome.report.Silent ∧
    (event.step.after service event.before).entropy = event.before.entropy
  /-- What is refused a token takes no bytes. -/
  refused : event.step.Refused event.before.store →
    event.outcome.report.Silent ∧
    (event.step.after service event.before).entropy = event.before.entropy

/-- How many bytes are taken in events. -/
def consumed (events : List Event) : Nat :=
  12 * events.countP (takes .nonce) + 16 * events.countP (takes .id)

end Event

/-- The envelope of a token begins with its nonce. -/
theorem decode?_tokenOf (engine : Token.Engine) (nonce : List UInt8) (payload : Token.Payload) :
    ∃ envelope, Base64.decode? (Text.utf8 (engine.tokenOf nonce payload)) = some envelope ∧
      envelope.take nonce.length = nonce := by
  rw [Token.Engine.utf8_tokenOf, Base64.decode?_encode]
  exact ⟨_, rfl, List.take_left⟩

namespace Event

/-- Every event is accounted for. -/
theorem accounted (service : Service) (step : Step) (world : World) :
    (step.event service world).Accounted service := by
  have draws := step.draws service world
  have nonce := @Step.draw?_eq_nonce_iff step world
  have start := @Step.draw?_eq_id_iff step world
  constructor
  case nonce => exact takes_nonce_iff
  case start => exact takes_id_iff
  case token =>
    intro token told
    obtain ⟨asked, enough, payload, rfl⟩ := draws.of_token told
    obtain ⟨envelope, read, first⟩ := decode?_tokenOf service.engine _ payload
    rw [Entropy.length_take] at first
    exact ⟨takes_nonce_iff.mpr ⟨nonce.mp asked, enough⟩, envelope, read, first⟩
  case id =>
    intro id told
    obtain ⟨asked, rfl⟩ := draws.of_id told
    exact ⟨takes_id_iff.mpr (start.mp asked), Entropy.length_take 16 _, rfl⟩
  case sealed =>
    intro taken
    obtain ⟨asked, enough⟩ := takes_nonce_iff.mp taken
    rw [nonce.mpr asked] at draws
    exact draws.of_nonce enough
  case drawn =>
    intro taken
    rw [start.mpr (takes_id_iff.mp taken)] at draws
    exact draws.of_start.imp_right fun lost => ⟨lost.1, Entropy.length_take 16 _, lost.2⟩
  case starved =>
    intro asked few
    rw [nonce.mpr asked] at draws
    exact draws.of_few few
  case spared =>
    intro mintless startless
    have undrawn : step.draw? world.store = none := by
      cases drawn : step.draw? world.store with
      | none => rfl
      | some draw =>
          cases draw with
          | nonce => exact absurd (nonce.mp drawn) mintless
          | id => exact absurd (start.mp drawn) startless
    rw [undrawn] at draws
    exact draws.of_none
  case refused =>
    intro refused
    have undrawn : step.draw? world.store = none := Step.draw?_of_refused refused
    rw [undrawn] at draws
    exact draws.of_none

/-! ## What a run draws -/

theorem consumed_cons (event : Event) (events : List Event) :
    consumed (event :: events) = consumed [event] + consumed events := by
  simp only [consumed, List.countP_cons, List.countP_nil]
  omega

theorem consumed_append (past future : List Event) :
    consumed (past ++ future) = consumed past + consumed future := by
  simp only [consumed, List.countP_append]
  omega

/-- What a step draws is what the world after it lacks. -/
theorem entropy_after (service : Service) (step : Step) (world : World) :
    (step.after service world).entropy =
      world.entropy.drop (consumed [step.event service world]) := by
  have loss : consumed [step.event service world] =
      world.entropy.loss (step.draw? world.store) := by
    simp only [consumed, List.countP_cons, List.countP_nil, takes,
      show (step.event service world).step = step from rfl,
      show (step.event service world).before = world from rfl]
    cases step.draw? world.store with
    | none => rfl
    | some draw =>
        by_cases granted : draw.isGranted world.entropy = true
        · cases draw <;> simp [Entropy.loss, granted] <;> rfl
        · cases draw <;> simp [Entropy.loss, granted]
  rw [loss]
  exact (step.draws service world).drop_loss

/-- No more is drawn in an event than is ready, unless a session is started with too little. -/
theorem consumed_le
    {event : Event}
    (supplied : event.step.IsStart → 16 ≤ event.before.entropy.ready) :
    consumed [event] ≤ event.before.entropy.ready := by
  have nonce := @takes_nonce_iff event
  have start := @takes_id_iff event
  have apart : ¬ (event.takes .nonce = true ∧ event.takes .id = true) := by
    rintro ⟨forNonce, forId⟩
    simp only [takes, Bool.and_eq_true, beq_iff_eq] at forNonce forId
    cases forNonce.1.symm.trans forId.1
  by_cases forNonce : event.takes .nonce = true
  · have notForId : event.takes .id = false := by simpa [forNonce] using apart
    simpa [consumed, forNonce, notForId] using (nonce.mp forNonce).2
  · by_cases forId : event.takes .id = true
    · simpa [consumed, forNonce, forId] using supplied (start.mp forId)
    · simp [consumed, forNonce, forId]

/-- The source that a run leaves is what stands behind all that its events have taken, and every event
finds what stands behind that which was taken before it. -/
theorem entropy_of_history (service : Service) (steps : List Step) (start : World) :
    (run service steps start).2.entropy =
      start.entropy.drop (consumed (history service steps start)) ∧
    ∀ past event future, history service steps start = past ++ event :: future →
      event.before.entropy = start.entropy.drop (consumed past) := by
  induction steps generalizing start with
  | nil =>
      refine ⟨start.entropy.drop_zero.symm, fun past event future split => ?_⟩
      simp [history] at split
  | cons step steps ih =>
      have left := entropy_after service step start
      obtain ⟨leftLater, between⟩ := ih (step.after service start)
      have whole : history service (step :: steps) start =
          step.event service start :: history service steps (step.after service start) := rfl
      rw [whole, consumed_cons, run_cons, leftLater, left, Entropy.drop_drop]
      refine ⟨rfl, fun past event future split => ?_⟩
      cases past with
      | nil =>
          obtain ⟨rfl, _⟩ := List.cons.inj split
          exact start.entropy.drop_zero.symm
      | cons first past =>
          obtain ⟨rfl, later⟩ := List.cons.inj split
          rw [between past event future later, left, Entropy.drop_drop, consumed_cons _ past]

/-- Where every start of a session finds its sixteen bytes ready, a run takes no more than are. -/
theorem consumed_history_le
    (service : Service)
    {steps : List Step}
    {start : World}
    (supplied : ∀ event ∈ history service steps start,
      event.step.IsStart → 16 ≤ event.before.entropy.ready) :
    consumed (history service steps start) ≤ start.entropy.ready := by
  induction steps generalizing start with
  | nil => exact Nat.zero_le _
  | cons step steps ih =>
      have own : consumed [step.event service start] ≤ start.entropy.ready :=
        consumed_le (supplied _ List.mem_cons_self)
      have later := ih fun event member => supplied event (List.mem_cons_of_mem _ member)
      rw [entropy_after, Entropy.ready_drop] at later
      rw [history, ← Step.event, consumed_cons]
      omega

/-- No random byte is used twice, and none is lost to who is refused.  In every run of a service, over
every store and every source of random bytes, each event finds the bytes that the events before it have
left; a token that it tells begins with the first twelve of these and an id of a new session is made of
the first sixteen, and then they are gone.  The bytes behind two events lie apart.  All that is gone
after a run are twelve bytes for each sealing and sixteen for each session id, which are bytes that were
ready unless a session was started with too few of them, and an event that has to make a token and finds
fewer than twelve fails, takes none and changes no record. -/
theorem draws_once (service : Service) (steps : List Step) (start : World) :
    let events := history service steps start
    (run service steps start).2.entropy = start.entropy.drop (consumed events) ∧
    ((∀ event ∈ events, event.step.IsStart → 16 ≤ event.before.entropy.ready) →
      consumed events ≤ start.entropy.ready) ∧
    (∀ past event future, events = past ++ event :: future →
      event.before.entropy = start.entropy.drop (consumed past) ∧ event.Accounted service) ∧
    ∀ past first between second future,
      events = past ++ first :: (between ++ second :: future) →
      ∀ draw : Draw, first.takes draw = true →
        consumed past + draw.size ≤ consumed (past ++ first :: between) := by
  intro events
  obtain ⟨left, between⟩ := entropy_of_history service steps start
  refine ⟨left, consumed_history_le service,
    fun past event future split => ⟨between past event future split, ?_⟩, ?_⟩
  · have member : event ∈ events := by
      rw [split]
      exact List.mem_append_right _ List.mem_cons_self
    rw [eq_event_of_mem_history service member]
    exact accounted service event.step event.before
  · intro past first between second future _ draw taken
    have own : draw.size ≤ consumed [first] := by
      cases draw <;> simp [consumed, taken, Draw.size]
    rw [consumed_append, consumed_cons]
    omega

/-- Of thirty random bytes a token takes the first twelve and a session the next sixteen; a second token
finds the last two, and neither takes them nor comes about. -/
theorem draws_once_thirty :
    ∃ engine : Token.Engine,
      Token.Engine.ofSecret (List.replicate 16 0) 3600 = .ok engine ∧
      let service : Service := ⟨engine, ⟨1, false⟩⟩
      let start : World := ⟨.new .sound, 1700000000, .ofList ((List.range 30).map UInt8.ofNat), []⟩
      let steps : List Step :=
        [.mint "sid-1" 1700000000, .startSession 60, .mint "sid-1" 1700000001]
      (run service steps start).2.entropy.ready = 2 ∧
      (run service steps start).2.entropy.take 2 = [28, 29] ∧
      ∃ first second third,
        history service steps start = [first, second, third] ∧
        first.before.entropy.take 12 = [0, 1, 2, 3, 4, 5, 6, 7, 8, 9, 10, 11] ∧
        second.before.entropy.take 16 =
          [12, 13, 14, 15, 16, 17, 18, 19, 20, 21, 22, 23, 24, 25, 26, 27] ∧
        (∃! token, first.outcome.report.token token) ∧
        (∃! id, second.outcome.report.id id) ∧
        third.outcome.report.failed ∧
        (third.step.after service third.before).store = third.before.store := by
  let engine : Token.Engine := ⟨.ofKey (List.replicate 16 0), 3600⟩
  let service : Service := ⟨engine, ⟨1, false⟩⟩
  let start : World := ⟨.new .sound, 1700000000, .ofList ((List.range 30).map UInt8.ofNat), []⟩
  let steps : List Step :=
    [.mint "sid-1" 1700000000, .startSession 60, .mint "sid-1" 1700000001]
  let first := (Step.mint "sid-1" 1700000000).event service start
  let second := (Step.startSession 60).event service (first.step.after service start)
  let third := (Step.mint "sid-1" 1700000001).event service
    (second.step.after service second.before)
  have whole : history service steps start = [first, second, third] := rfl
  obtain ⟨left, _, each, _⟩ := draws_once service steps start
  obtain ⟨foundFirst, ownFirst⟩ := each [] first [second, third] whole
  obtain ⟨foundSecond, ownSecond⟩ := each [first] second [third] whole
  obtain ⟨foundThird, ownThird⟩ := each [first, second] third [] whole
  have short : ¬ first.step.IsLong := by
    show ¬ (_ < _)
    decide +kernel
  have takenFirst : first.takes .nonce = true := by decide +kernel
  have takenSecond : second.takes .id = true := by decide +kernel
  have failed := ownThird.starved trivial (by decide +kernel)
  have taken : consumed [first, second, third] = 28 := by decide +kernel
  refine ⟨engine, Token.Engine.ofSecret_of_size (by decide) 3600, ?_, ?_, first, second, third, whole,
    ?_, ?_, ?_, ?_, failed.1, failed.2.2.2⟩
  · rw [left, whole, taken]
    rfl
  · rw [left, whole, taken]
    rfl
  · rw [foundFirst]
    rfl
  · rw [foundSecond, show consumed [first] = 12 by decide +kernel]
    rfl
  · exact (ownFirst.sealed takenFirst).resolve_right fun lost => short lost.1
  · refine (ownSecond.drawn takenSecond).resolve_right ?_
    rintro ⟨_, size, failure, lost⟩
    refine Store.perform_ne_error_of_sound rfl (fun lifetime own => ?_) failure lost
    cases own
    decide

end Event

end Scenario
end AntiForgery
