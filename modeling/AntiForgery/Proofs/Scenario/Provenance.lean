import AntiForgery.Proofs.Http.Handout
import AntiForgery.Proofs.Scenario.Tenure
import AntiForgery.Proofs.Session.Letters
import AntiForgery.Proofs.Token.Footprint

/-!
# Where records come from

Every record in the store was written by one event: the start of a session, under an id that was drawn
at random, or the acceptance of a token, which then opens under the secret of the engine and is in its
window.  Nothing that a client sends brings in a record in another way, so nobody without a session or a
token fills the store.
-/

namespace AntiForgery
namespace Http

/-- Where a record comes from that is in the store after a request. -/
inductive Origin
    (service : Service)
    (request : Request)
    (world : World)
    (response : Response) : Store.Entry → Prop
  | kept
      (entry : Store.Entry)
      (member : entry ∈ world.store.table.entries) :
      Origin service request world response entry
  | started
      (id : Session.Id)
      (told : startedSession? request world response = some id)
      (random : id.IsRandom) :
      Origin service request world response
        ⟨id.storageKey, world.store.clock + 1000 * service.session.lifetime⟩
  | accepted
      (attempt : Token.Attempt)
      (payload : Token.Payload)
      (asked : attempt? request world = some attempt)
      (accepted : (attempt.check service.engine world.store).1 = .ok true)
      (opens : service.engine.Opens attempt.token payload) :
      Origin service request world response
        ⟨Store.spentKey attempt.token,
          world.store.clock + 1000 * service.engine.claimLifetime payload.issued attempt.now⟩

/-- A check that a request asks for brings in a record only if it accepts the token. -/
theorem origin_of_check
    {service : Service}
    {request : Request}
    {world : World}
    {attempt : Token.Attempt}
    (asked : attempt? request world = some attempt)
    (response : Response)
    {entry : Store.Entry}
    (member : entry ∈ (attempt.check service.engine world.store).2.table.entries) :
    Origin service request world response entry := by
  rcases Token.Engine.mem_of_mem_check member with kept | ⟨accepted, payload, opens, rfl⟩
  · exact .kept entry kept
  · exact .accepted attempt payload asked accepted opens

/-- Every entry after a request was there before it or was made by it. -/
theorem handle_origin
    (service : Service)
    (request : Request)
    (world : World)
    {entry : Store.Entry}
    (member : entry ∈ (handle service request world).2.store.table.entries) :
    Origin service request world (handle service request world).1 entry := by
  by_cases start : request.method = "POST" ∧ request.path = "/api/session"
  · rcases handle_start_cases service start.1 start.2 world with
      ⟨_, kept⟩ | ⟨id, told, starts⟩
    · rw [kept] at member
      exact .kept entry member
    · rw [starts.written] at member
      rcases Store.mem_of_mem_write member with rfl | kept
      · have random : id.IsRandom := by
          rw [starts.drawn]
          exact Session.Id.isRandom_next world.entropy
        exact .started id told random
      · exact .kept entry kept
  · have effect := handle_effect service request world
    generalize (handle service request world).1 = response at effect ⊢
    generalize (handle service request world).2.store = after at effect member
    cases effect with
    | idle => exact .kept entry member
    | started drawn deadline route post range =>
        exact absurd ⟨post, Route.path_of_start route⟩ start
    | accepted attempt attempted told accepted => exact origin_of_check attempted response member
    | ended id token route post found shown accepted status =>
        have asked := attempt?_of_found route (Gate.isSafe_of_post post) found shown
        exact origin_of_check asked response (Store.mem_of_mem_perform_remove member)

/-- A token that was accepted is neither empty nor too long. -/
theorem admission_of_acceptedToken?
    {request : Request}
    {response : Response}
    {token : String}
    (told : acceptedToken? request response = some token) :
    (Admission.token token).isOk = true := by
  unfold acceptedToken? at told
  split at told
  · split at told
    · obtain ⟨stated, found, rfl⟩ := Option.map_eq_some_iff.mp told
      obtain ⟨_, inside⟩ := Option.filter_eq_some_iff.mp found
      rw [isAdmitted, Bool.and_eq_true] at inside
      exact inside.2
    · cases told
  · split at told
    · exact (Gate.shownToken?_eq_some_iff.mp told).2
    · cases told
  · cases told

end Http

namespace Scenario

/-- The event has written the record, and had every right to: it is the start of a session whose id was
drawn at random, or the acceptance of a token of fitting size at the wall clock. -/
inductive Event.Records (service : Service) (event : Event) : Store.Entry → Prop
  | session
      (id : Session.Id)
      (started : event.startedSession? = some id)
      (random : id.IsRandom)
      (written : Session.Id.IsRandomText id.text) :
      Records service event
        ⟨id.storageKey, event.clock + 1000 * service.session.lifetime⟩
  | spent
      (token : String)
      (payload : Token.Payload)
      (told : event.acceptedToken? = some token)
      (admitted : (Admission.token token).isOk = true)
      (wall : event.now = event.before.wall)
      (accepts : event.Accepts service.engine token payload) :
      Records service event ⟨Store.spentKey token, event.deadline service.engine payload⟩

/-- Clients have tokens checked at the wall clock. -/
theorem Event.now_of_isOpen {event : Event} (isOpen : event.step.isOpen = true) :
    event.now = event.before.wall := by
  obtain ⟨before, step, outcome⟩ := event
  cases step with
  | check => cases isOpen
  | _ => rfl

theorem Event.admission_of_acceptedToken?
    {event : Event}
    (isOpen : event.step.isOpen = true)
    {token : String}
    (told : event.acceptedToken? = some token) :
    (Admission.token token).isOk = true := by
  obtain ⟨before, step, outcome⟩ := event
  cases step with
  | request sent =>
      cases outcome with
      | answered response => exact Http.admission_of_acceptedToken? told
      | _ => cases told
  | advance => cases told
  | setWall => cases told
  | _ => cases isOpen

/-- An event whose check accepts a token has a right to the record of it. -/
theorem records_of_attempt
    {service : Service}
    (bounded : service.engine.window < Int64.maxValue)
    {event : Event}
    (isOpen : event.step.isOpen = true)
    {after : Store}
    (spends : Spends service event.before event.step event.outcome after)
    (sound : event.before.store.condition = .sound)
    {attempt : Token.Attempt}
    (asked : event.attempt? = some attempt)
    (accepted : (attempt.check service.engine event.before.store).1 = .ok true)
    {payload : Token.Payload}
    (opens : service.engine.Opens attempt.token payload) :
    event.Records service
      ⟨Store.spentKey attempt.token,
        event.clock + 1000 * service.engine.claimLifetime payload.issued attempt.now⟩ := by
  have told : event.acceptedToken? = some attempt.token :=
    (spends.told _).mpr ⟨attempt, asked, rfl, accepted⟩
  obtain ⟨found, accepts⟩ := (Event.acceptedToken?_eq_some_iff bounded spends sound).mp told
  obtain rfl := opens.unique accepts.opens
  have now := Event.now_of_attempt? asked
  rw [now]
  refine .spent attempt.token payload told ?_ ?_ accepts
  · exact Event.admission_of_acceptedToken? isOpen told
  · exact Event.now_of_isOpen isOpen

/-- A step of clients or time brings in no record but the one that its event has a right to. -/
theorem Step.records_of_mem
    {service : Service}
    (bounded : service.engine.window < Int64.maxValue)
    {step : Step}
    (isOpen : step.isOpen = true)
    {world : World}
    (sound : world.store.condition = .sound)
    {entry : Store.Entry}
    (member : entry ∈ (step.after service world).store.table.entries) :
    entry ∈ world.store.table.entries ∨ (step.event service world).Records service entry := by
  cases step with
  | request sent =>
      have spends := spends_after service (Step.isDirect_of_isOpen isOpen) world
      rw [after_request_store] at member
      have origin := Http.handle_origin service sent _ member
      have outcome : ((Step.request sent).event service world).outcome =
          .answered (Http.handle service sent { world with journal := [] }).1 := by
        rw [event_request]
      generalize (Http.handle service sent { world with journal := [] }).1 = response
        at origin outcome
      cases origin with
      | kept _ member => exact .inl member
      | started id started random =>
          right
          refine .session id ?_ random random.isRandomText
          rw [Event.startedSession?, outcome]
          exact started
      | accepted attempt payload asked accepted opens =>
          right
          have attempted : ((Step.request sent).event service world).attempt? = some attempt :=
            asked
          exact records_of_attempt bounded isOpen spends sound attempted accepted opens
  | advance milliseconds => exact .inl member
  | setWall reading => exact .inl member
  | _ => cases isOpen

/-- Every record that an open run leaves was written by an event that had a right to. -/
theorem exists_records
    {service : Service}
    (bounded : service.engine.window < Int64.maxValue)
    {steps : List Step}
    {world : World}
    (begins : Begins steps world)
    {entry : Store.Entry}
    (member : entry ∈ (run service steps world).2.store.table.entries) :
    ∃ event ∈ history service steps world, event.Records service entry := by
  induction steps using List.reverseRecOn with
  | nil =>
      change entry ∈ world.store.table.entries at member
      rw [begins.empty] at member
      cases member
  | append_singleton steps step ih =>
      rw [run_concat] at member
      rw [history_concat]
      rcases step.records_of_mem bounded begins.last (begins.init.sound_run service) member with
        before | own
      · obtain ⟨event, happened, records⟩ := ih begins.init before
        exact ⟨event, List.mem_append_left _ happened, records⟩
      · exact ⟨_, List.mem_append_right _ (List.mem_singleton.mpr rfl), own⟩

/-! ## One record, one event -/

theorem Event.clock_lt_deadline (engine : Token.Engine) (payload : Token.Payload) (event : Event) :
    event.clock < event.deadline engine payload := by
  have least : 1 ≤ engine.claimLifetime payload.issued event.now := Nat.le_max_left _ _
  rw [deadline]
  omega

/-- Of two events that accept the same token the later one records a later end. -/
theorem deadline_lt_deadline
    {service : Service}
    (bounded : service.engine.window < Int64.maxValue)
    {world : World}
    (sound : world.store.condition = .sound)
    {steps : List Step}
    (indirect : ∀ event ∈ history service steps world, event.step.isDirect = false)
    {past between future : List Event}
    {earlier later : Event}
    (split : history service steps world = past ++ earlier :: (between ++ later :: future))
    {token : String}
    (accepted : earlier.acceptedToken? = some token)
    {payload : Token.Payload}
    (accepts : later.Accepts service.engine token payload) :
    earlier.deadline service.engine payload < later.deadline service.engine payload := by
  obtain ⟨found, sequel⟩ := sequel_of_split bounded sound indirect split accepted
  obtain rfl := sequel.accepts.opens.unique accepts.opens
  have ended := sequel.guards.le_clock accepts.free
  exact Nat.lt_of_le_of_lt ended (later.clock_lt_deadline service.engine found)

theorem Event.Records.of_spent
    {service : Service}
    {event : Event}
    {entry : Store.Entry}
    (records : event.Records service entry)
    {token : String}
    (key : entry.key = Store.spentKey token) :
    event.acceptedToken? = some token ∧
      ∃ payload,
        event.Accepts service.engine token payload ∧
        entry.deadline = event.deadline service.engine payload := by
  cases records with
  | session id started random written =>
      exact absurd key.symm (Session.Id.spentKey_ne_storageKey token id)
  | spent own payload told admitted wall accepts =>
      obtain rfl := Store.spentKey_inj.mp key
      exact ⟨told, payload, accepts, rfl⟩

/-- No two events have written one and the same record of a token. -/
theorem not_records_of_split
    {service : Service}
    (bounded : service.engine.window < Int64.maxValue)
    {steps : List Step}
    {world : World}
    (begins : Begins steps world)
    {past future : List Event}
    {event : Event}
    (split : history service steps world = past ++ event :: future)
    {entry : Store.Entry}
    (records : event.Records service entry)
    {token : String}
    (key : entry.key = Store.spentKey token) :
    ∀ other ∈ past ++ future, ¬ other.Records service entry := by
  have indirect : ∀ event ∈ history service steps world, event.step.isDirect = false :=
    fun event member => Step.isDirect_of_isOpen (isOpen_of_mem_history service begins.isOpen member)
  obtain ⟨told, payload, accepts, deadline⟩ := records.of_spent key
  intro other member again
  obtain ⟨toldAgain, found, acceptsAgain, deadlineAgain⟩ := again.of_spent key
  obtain rfl := acceptsAgain.opens.unique accepts.opens
  rcases List.mem_append.mp member with before | behind
  · obtain ⟨front, back, rfl⟩ := List.append_of_mem before
    have apart : history service steps world = front ++ other :: (back ++ event :: future) := by
      simp [split]
    have later := deadline_lt_deadline bounded begins.sound indirect apart toldAgain accepts
    omega
  · obtain ⟨front, back, rfl⟩ := List.append_of_mem behind
    have later := deadline_lt_deadline bounded begins.sound indirect split told acceptsAgain
    omega

/-- What an event does to the store: it brings in no record but the one that it has a right to, and it
touches the record of no token but the one that it says was accepted, and of no session but the one that
it says was started or ended. -/
structure Event.Contained (service : Service) (event : Event) : Prop where
  gains : ∀ entry ∈ (event.step.after service event.before).store.table.entries,
    entry ∈ event.before.store.table.entries ∨ event.Records service entry
  tokens : ∀ token, event.acceptedToken? ≠ some token →
    Store.Keeps (Store.spentKey token) event.before.store
      (event.step.after service event.before).store
  sessions : ∀ id : Session.Id, event.startedSession? ≠ some id → event.endedSession? ≠ some id →
    Store.Keeps id.storageKey event.before.store (event.step.after service event.before).store

theorem contained_of_mem_history
    {service : Service}
    (bounded : service.engine.window < Int64.maxValue)
    {steps : List Step}
    {world : World}
    (begins : Begins steps world)
    {event : Event}
    (member : event ∈ history service steps world) :
    event.Contained service := by
  have isOpen := isOpen_of_mem_history service begins.isOpen member
  have happened := eq_event_of_mem_history service member
  obtain ⟨past, future, split⟩ := List.append_of_mem member
  obtain ⟨path, spends, _⟩ := path_of_split
    (fun event member =>
      Step.isDirect_of_isOpen (isOpen_of_mem_history service begins.isOpen member)) split
  have sound : event.before.store.condition = .sound := path.condition.trans begins.sound
  refine ⟨fun entry member => ?_, fun token silent => spends.keeps_of_ne silent, fun id => ?_⟩
  · rw [happened]
    exact event.step.records_of_mem bounded isOpen sound member
  · rw [happened]
    exact (event.step.accounts service isOpen sound id).kept

/-- Every record in the store after an open run from an empty one was written by an event that had a
right to, and if it is the record of a token, by one event only.  No event of the run does more than it
says, and no record of a token is one of a session. -/
theorem records_of_mem_run
    {service : Service}
    (bounded : service.engine.window < Int64.maxValue)
    {steps : List Step}
    {world : World}
    (begins : Begins steps world) :
    (∀ entry ∈ (run service steps world).2.store.table.entries, ∃ past event future,
      history service steps world = past ++ event :: future ∧
      event.Records service entry ∧
      ∀ token, entry.key = Store.spentKey token →
        ∀ other ∈ past ++ future, ¬ other.Records service entry) ∧
    (∀ event ∈ history service steps world, event.Contained service) ∧
    ∀ (token : String) (id : Session.Id), Store.spentKey token ≠ id.storageKey := by
  refine ⟨?_, fun event => contained_of_mem_history bounded begins,
    Session.Id.spentKey_ne_storageKey⟩
  intro entry member
  obtain ⟨event, happened, records⟩ := exists_records bounded begins member
  obtain ⟨past, future, split⟩ := List.append_of_mem happened
  exact ⟨past, event, future, split, records,
    fun token key => not_records_of_split bounded begins split records key⟩

/-- A token that is stated over HTTP and may be claimed leaves its record. -/
theorem mem_run_checkRequest
    {service : Service}
    {session token : String}
    {issued : Seconds}
    {source : Entropy}
    (minted : (service.engine.mint session issued source).1 = .ok token)
    (admitted : Admission.sessionId session = .ok ())
    {world : World}
    (sound : world.store.condition = .sound)
    (empty : world.store.table = .empty)
    {lifetime : Nat}
    (judged : service.engine.judge session token world.wall = .ok (.claim lifetime))
    {deadline : Nat}
    (range : Store.deadline? world.store.clock lifetime = some deadline) :
    ⟨Store.spentKey token, deadline⟩ ∈
      (run service [.request (Http.checkRequest session token)] world).2.store.table.entries := by
  have free : ¬ world.store.table.isLive (Store.spentKey token) world.store.clock = true := by
    rw [empty]
    exact Bool.false_ne_true
  rw [run_cons, run_nil, Step.after_request_store, Http.handle_checkRequest_store minted admitted,
    Token.Engine.check_of_sound judged sound, if_neg free, range]
  exact List.mem_cons_self

/-- A token that is checked within its hour leaves a record, and its check is the only event that has
written it. -/
theorem records_of_mem_run_hour :
    ∃ (service : Service) (token : String) (steps : List Step) (world : World),
      service.engine.window < Int64.maxValue ∧
      Begins steps world ∧
      ∃ past event future,
        history service steps world = past ++ event :: future ∧
        event.Records service ⟨Store.spentKey token, 3600000⟩ ∧
        ∀ other ∈ past ++ future, ¬ other.Records service ⟨Store.spentKey token, 3600000⟩ := by
  let engine : Token.Engine := ⟨.ofKey ((List.range 16).map UInt8.ofNat), 3600⟩
  let service : Service := ⟨engine, ⟨7, false⟩⟩
  let world : World := ⟨.new .sound, 1700000000, .ofList [], []⟩
  have bounded : service.engine.window < Int64.maxValue := by decide
  obtain ⟨token, minted⟩ : ∃ token,
      (service.engine.mint "sid-1" 1700000000 (.ofList ((List.range 12).map UInt8.ofNat))).1 = .ok token :=
    service.engine.exists_mint (by decide +kernel) (by decide)
  have opens := Token.Engine.opens_of_mint minted
  have judged : service.engine.judge "sid-1" token 1700000000 = .ok (.claim 3600) :=
    (Token.Engine.judge_eq_claim_iff bounded).mpr
      ⟨_, ⟨opens, ⟨by decide, by decide⟩, rfl⟩, by decide⟩
  have begins : Begins [.request (Http.checkRequest "sid-1" token)] world :=
    ⟨by simp [Step.isOpen], rfl, rfl⟩
  have member := mem_run_checkRequest minted (by decide +kernel) begins.sound begins.empty judged
    (show Store.deadline? world.store.clock 3600 = some 3600000 by decide)
  obtain ⟨past, event, future, split, records, single⟩ :=
    (records_of_mem_run bounded begins).1 _ member
  exact ⟨service, token, _, world, bounded, begins, past, event, future, split, records,
    single token rfl⟩

/-- With a window as long as the range of a clock the stopped difference of two readings is never too
long, so the oldest token of all is recorded although it left its window long ago. -/
theorem mem_run_of_endless_window :
    let service : Service :=
      ⟨⟨.ofKey ((List.range 16).map UInt8.ofNat), 9223372036854775807⟩, ⟨7, false⟩⟩
    let world : World := ⟨.new .sound, 1700000000, .ofList [], []⟩
    ∃ token,
      (service.engine.mint "sid-1" (-9223372036854775808)
        (.ofList ((List.range 12).map UInt8.ofNat))).1 = .ok token ∧
      (let steps : List Step := [.request (Http.checkRequest "sid-1" token)]
      Begins steps world ∧
      ∃ entry ∈ (run service steps world).2.store.table.entries,
        (∀ id : Session.Id, entry.key ≠ id.storageKey) ∧
        ∀ (other : String) (payload : Token.Payload),
          entry.key = Store.spentKey other →
          service.engine.Opens other payload →
          ∀ event ∈ history service steps world,
            ¬ (-60 ≤ event.before.wall.toInt - payload.issued.toInt ∧
              event.before.wall.toInt - payload.issued.toInt ≤ service.engine.window.toInt)) := by
  intro service world
  obtain ⟨token, minted⟩ : ∃ token,
      (service.engine.mint "sid-1" (-9223372036854775808)
        (.ofList ((List.range 12).map UInt8.ofNat))).1 = .ok token :=
    service.engine.exists_mint (by decide +kernel) (by decide)
  have opens := Token.Engine.opens_of_mint minted
  have passed : service.engine.judgeTime (-9223372036854775808) 1700000000 = .ok () := by decide
  have second : service.engine.claimLifetime (-9223372036854775808) 1700000000 = 1 := by decide
  have judged : service.engine.judge "sid-1" token 1700000000 = .ok (.claim 1) := by
    rw [Token.Engine.judge_of_opens opens, passed]
    dsimp only
    rw [if_pos rfl, second]
  have begins : Begins [.request (Http.checkRequest "sid-1" token)] world :=
    ⟨by simp [Step.isOpen], rfl, rfl⟩
  have member := mem_run_checkRequest minted (by decide +kernel) begins.sound begins.empty judged
    (show Store.deadline? world.store.clock 1 = some 1000 by decide)
  refine ⟨token, minted, begins, _, member, Session.Id.spentKey_ne_storageKey token, ?_⟩
  intro other payload key opensOther event happened timely
  obtain rfl := Store.spentKey_inj.mp key
  obtain rfl := opensOther.unique opens
  have wall : event.before.wall = 1700000000 := by
    rw [history, history, List.mem_singleton] at happened
    rw [happened]
  rw [wall] at timely
  revert timely
  decide

end Scenario
end AntiForgery
