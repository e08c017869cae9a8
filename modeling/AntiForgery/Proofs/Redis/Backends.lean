import AntiForgery.Proofs.Store.Sweeping
import AntiForgery.Proofs.Text.Integer
import AntiForgery.Redis.Server

/-!
# Two places for records

Records are kept in memory or on a server.  Of the server nothing is assumed but what its commands are
documented to do: which raw bytes it replies, and which keys are there afterwards.  On that alone the
commands that are sent and the reading of the replies give the answers that a table in memory gives,
as long as the clock of the table reaches the end of each record.
-/

namespace AntiForgery
namespace Redis

/-- The longest time to live that is asked for: a year, in seconds. -/
def yearLimit : Nat := 31536000

/-! ## What a server is documented to do -/

/-- A server: how it carries out the words of a command at a reading of its clock, in milliseconds, and
which keys are there at a reading if nothing is sent to it before. -/
structure Server (σ : Type) where
  /-- The raw bytes of the reply, and the state afterwards. -/
  execute (now : Nat) (state : σ) (words : List String) : List UInt8 × σ
  /-- Whether a key is there at a reading. -/
  holds (state : σ) (key : String) (reading : Nat) : Bool

namespace Server

/-- The reply to a command that went well. -/
def okReply : List UInt8 := Text.utf8 "+OK\r\n"

/-- The replies of nothing, in the second version of the protocol and in the third. -/
def nilReplies : List (List UInt8) := [Text.utf8 "$-1\r\n", Text.utf8 "_\r\n"]

/-- The reply that counts one key which is there, or is not. -/
def countReply (there : Bool) : List UInt8 :=
  if there then Text.utf8 ":1\r\n" else Text.utf8 ":0\r\n"

variable (server : Server σ)

/-- The same keys are there in both states, from a reading on. -/
def Same (now : Nat) (before after : σ) : Prop :=
  ∀ other reading, now ≤ reading → server.holds after other reading = server.holds before other reading

/-- A key is there strictly before so many seconds have passed, and all others are as they were. -/
def Sets (now : Nat) (key : String) (seconds : Nat) (before after : σ) : Prop :=
  ∀ other reading, now ≤ reading →
    server.holds after other reading =
      if other = key then decide (reading < now + 1000 * seconds)
      else server.holds before other reading

/-- A key is gone, and all others are as they were. -/
def Deletes (now : Nat) (key : String) (before after : σ) : Prop :=
  ∀ other reading, now ≤ reading →
    server.holds after other reading =
      if other = key then false else server.holds before other reading

/-- The server carries out the four commands as they are documented, for times to live of a second to
a year. -/
structure Documented (fresh : σ) : Prop where
  fresh_empty : ∀ key reading, server.holds fresh key reading = false
  setEx : ∀ state now key value seconds, 1 ≤ seconds → seconds ≤ yearLimit →
    let answer := server.execute now state ["SETEX", key, toString seconds, value]
    answer.1 = okReply ∧ server.Sets now key seconds state answer.2
  exist : ∀ state now key,
    let answer := server.execute now state ["EXISTS", key]
    answer.1 = countReply (server.holds state key now) ∧ server.Same now state answer.2
  setNx_free : ∀ state now key value seconds, 1 ≤ seconds → seconds ≤ yearLimit →
    server.holds state key now = false →
    let answer := server.execute now state ["SET", key, value, "NX", "EX", toString seconds]
    answer.1 = okReply ∧ server.Sets now key seconds state answer.2
  setNx_there : ∀ state now key value seconds, 1 ≤ seconds → seconds ≤ yearLimit →
    server.holds state key now = true →
    let answer := server.execute now state ["SET", key, value, "NX", "EX", toString seconds]
    answer.1 ∈ nilReplies ∧ server.Same now state answer.2
  del : ∀ state now key,
    let answer := server.execute now state ["DEL", key]
    answer.1 = countReply (server.holds state key now) ∧ server.Deletes now key state answer.2

/-- Records on the server: a call is one command, and the reply is read.  Nobody asks the server how
many keys there are. -/
def keeper : Store.Keeper σ where
  perform now state call :=
    let (reply, state) := server.execute now state (command call)
    (readBytes call reply, state)
  liveCount _ _ := 0

end Server

end Redis

/-! ## A server that does what is documented -/

namespace Store
namespace Plain

/-- What is found once a key is gone. -/
theorem deadline?_erase (plain : Plain) (key other : String) :
    (plain.erase key).deadline? other = if other = key then none else plain.deadline? other := by
  simp only [deadline?, erase]
  split
  · next own =>
      rw [Option.map_eq_none_iff, List.find?_eq_none]
      intro entry member
      simpa [own] using (List.mem_filter.mp member).2
  · next different =>
      rw [List.find?_filter]
      congr 2
      funext entry
      by_cases found : entry.key = other
      · simp [found, different]
      · simp [found]

theorem isLive_erase (plain : Plain) (key other : String) (now : Nat) :
    (plain.erase key).isLive other now = if other = key then false else plain.isLive other now := by
  rw [isLive, deadline?_erase]
  split <;> rfl

theorem isLive_put (plain : Plain) (key other : String) (deadline now : Nat) :
    (plain.put key deadline).isLive other now =
      if other = key then decide (now < deadline) else plain.isLive other now := by
  split
  · next own => simp [isLive, deadline?, put, own]
  · next different =>
      have behind := plain.isLive_erase key other now
      rw [if_neg different] at behind
      rw [← behind, isLive, deadline?, put, List.find?_cons_of_neg (by simp [Ne.symm different])]
      rfl

end Plain
end Store

namespace Redis
namespace Keys

/-- The keys that a server holds, as a server. -/
def server : Server Keys where
  execute now keys words := keys.execute now words
  holds keys key reading := keys.isLive key reading

/-- The server sets the key until the seconds are over that the command spells. -/
theorem set?_toString
    (keys : Keys)
    (now : Nat)
    (key : String)
    {seconds : Nat}
    (positive : 1 ≤ seconds)
    (short : seconds ≤ yearLimit) :
    keys.set? now key (toString seconds) = some (keys.put key (now + 1000 * seconds)) := by
  have limit : seconds ≤ 31536000 := short
  have value : (Int64.ofInt seconds).toInt = seconds := by
    rw [Int64.toInt_ofInt_of_le] <;> omega
  have above : (1 : Int64) ≤ Int64.ofInt seconds := by
    rw [Int64.le_iff_toInt_le, value]
    exact Int.ofNat_le.mpr positive
  simp only [set?, Integer.parse_toString (by omega : seconds ≤ 9223372036854775807), if_pos above,
    value, Int.toNat_natCast]

/-- The server holds what was set, and everything else as before. -/
theorem sets_put (keys : Keys) (now : Nat) (key : String) (seconds : Nat) :
    server.Sets now key seconds keys (keys.put key (now + 1000 * seconds)) :=
  fun other reading _ => keys.isLive_put key other _ reading

theorem encodeInteger_count (keys : Keys) (now : Nat) (key : String) :
    Reply.encodeInteger (keys.count now key) = Server.countReply (keys.isLive key now) := by
  rw [count]
  cases keys.isLive key now <;> decide +kernel

/-- The server that the four commands are modelled on does what is documented. -/
theorem documented : server.Documented Store.Plain.empty where
  fresh_empty key reading := rfl
  setEx keys now key value seconds positive short := by
    simp only [server, execute, keys.set?_toString now key positive short]
    exact ⟨by decide +kernel, keys.sets_put now key seconds⟩
  exist keys now key := by
    simp only [server, execute]
    exact ⟨keys.encodeInteger_count now key, fun _ _ _ => rfl⟩
  setNx_free keys now key value seconds positive short free := by
    have free : keys.isLive key now = false := free
    simp only [server, execute, free, Bool.false_eq_true, if_false,
      keys.set?_toString now key positive short]
    exact ⟨by decide +kernel, keys.sets_put now key seconds⟩
  setNx_there keys now key value seconds positive short there := by
    have there : keys.isLive key now = true := there
    simp only [server, execute, there, if_true]
    exact ⟨by decide +kernel, fun _ _ _ => rfl⟩
  del keys now key := by
    simp only [server, execute]
    exact ⟨keys.encodeInteger_count now key, fun other reading _ => keys.isLive_erase key other reading⟩

end Keys

/-! ## What the replies say -/

section Replies

variable {key : String} {lifetime : Nat}

theorem readBytes_record_ok :
    readBytes (.record key lifetime) Server.okReply = .ok () := by
  have read : Reply.parse? Server.okReply = some (.status "OK") := by decide +kernel
  rw [readBytes, read]
  rfl

/-- A key that is set is a claim that is won. -/
theorem readBytes_claim_ok :
    readBytes (.claim key lifetime) Server.okReply = .ok true := by
  have read : Reply.parse? Server.okReply = some (.status "OK") := by decide +kernel
  rw [readBytes, read]
  rfl

/-- A key that is not set, since it is there, is a claim that is lost. -/
theorem readBytes_claim_nil {reply : List UInt8} (nothing : reply ∈ Server.nilReplies) :
    readBytes (.claim key lifetime) reply = .ok false := by
  have read : ∀ reply ∈ Server.nilReplies, Reply.parse? reply = some .null := by decide +kernel
  rw [readBytes, read reply nothing]
  rfl

theorem parse?_countReply (there : Bool) :
    Reply.parse? (Server.countReply there) = some (.integer (if there then 1 else 0)) := by
  cases there <;> decide +kernel

theorem readBytes_lookUp_count (there : Bool) :
    readBytes (.lookUp key) (Server.countReply there) =
      .ok (if there then .present else .absent) := by
  rw [readBytes, parse?_countReply]
  cases there <;> rfl

theorem readBytes_remove_count (there : Bool) :
    readBytes (.remove key) (Server.countReply there) = .ok () := by
  rw [readBytes, parse?_countReply]
  rfl

end Replies

end Redis

/-! ## What is asked -/

namespace Store

/-- One of the four calls is asked, and what it records is to last for a second at least and a year at
most. -/
def Query.IsBrief : Query → Prop
  | .record _ lifetime => 1 ≤ lifetime ∧ lifetime ≤ Redis.yearLimit
  | .lookUp _ => True
  | .claim _ lifetime => 1 ≤ lifetime ∧ lifetime ≤ Redis.yearLimit
  | .remove _ => True
  | .countLive => False

instance (query : Query) : Decidable query.IsBrief :=
  match query with
  | .record _ _ => inferInstanceAs (Decidable (_ ∧ _))
  | .lookUp _ => inferInstanceAs (Decidable True)
  | .claim _ _ => inferInstanceAs (Decidable (_ ∧ _))
  | .remove _ => inferInstanceAs (Decidable True)
  | .countLive => inferInstanceAs (Decidable False)

/-- The clock reaches the end of what may be recorded. -/
def Moment.HasEnd (moment : Moment) : Prop :=
  match moment.query with
  | .record _ lifetime => moment.reading / 1000 + lifetime ≤ lastSecond
  | .claim _ lifetime => moment.reading / 1000 + lifetime ≤ lastSecond
  | _ => True

instance (moment : Moment) : Decidable moment.HasEnd :=
  match moment with
  | ⟨_, .record _ _⟩ => inferInstanceAs (Decidable (_ ≤ _))
  | ⟨_, .lookUp _⟩ => inferInstanceAs (Decidable True)
  | ⟨_, .claim _ _⟩ => inferInstanceAs (Decidable (_ ≤ _))
  | ⟨_, .remove _⟩ => inferInstanceAs (Decidable True)
  | ⟨_, .countLive⟩ => inferInstanceAs (Decidable True)

namespace Table

/-- Which keys are live after a write, whether it sweeps or not. -/
theorem isLive_put_sweep
    (table : Table)
    (key other : String)
    (deadline : Nat)
    {now later : Nat}
    (order : now ≤ later) :
    ((table.sweep now).put ⟨key, deadline⟩).isLive other later =
      if other = key then decide (later < deadline) else table.isLive other later := by
  rw [isLive_eq_isSome]
  split
  · next own =>
      rw [own, liveUntil?_put_self]
      by_cases ahead : later < deadline <;> simp [ahead]
  · next different =>
      rw [liveUntil?_put_sweep_of_ne table ⟨key, deadline⟩ different order, isLive_eq_isSome]

theorem isLive_erase (table : Table) (key other : String) (later : Nat) :
    (table.erase key).isLive other later =
      if other = key then false else table.isLive other later := by
  rw [isLive_eq_isSome]
  split
  · next own => rw [own, liveUntil?_erase_self, Option.isSome_none]
  · next different => rw [liveUntil?_erase_of_ne table different, isLive_eq_isSome]

end Table
end Store

/-! ## The two side by side -/

namespace Redis
namespace Server

variable {server : Server σ} {fresh state : σ} {table : Store.Table} {now : Nat}

/-- A server holds the keys that are live in a table, from a reading on. -/
def Mirrors (server : Server σ) (now : Nat) (table : Store.Table) (state : σ) : Prop :=
  ∀ key reading, now ≤ reading → server.holds state key reading = table.isLive key reading

namespace Mirrors

/-- What the table and the server agree about now they agree about later. -/
theorem later (mirrors : server.Mirrors now table state) {later : Nat} (order : now ≤ later) :
    server.Mirrors later table state :=
  fun key reading ahead => mirrors key reading (Nat.le_trans order ahead)

theorem same (mirrors : server.Mirrors now table state) {after : σ}
    (same : server.Same now state after) : server.Mirrors now table after :=
  fun key reading ahead => (same key reading ahead).trans (mirrors key reading ahead)

/-- What a server sets is what a table writes. -/
theorem sets
    (mirrors : server.Mirrors now table state)
    {key : String}
    {seconds : Nat}
    {after : σ}
    (sets : server.Sets now key seconds state after) :
    server.Mirrors now ((table.sweep now).put ⟨key, now + 1000 * seconds⟩) after := by
  intro other reading ahead
  rw [sets other reading ahead, mirrors other reading ahead, Store.Table.isLive_put_sweep _ _ _ _ ahead]

/-- A server that deletes a key mirrors the table without it. -/
theorem deletes
    (mirrors : server.Mirrors now table state)
    {key : String}
    {after : σ}
    (deletes : server.Deletes now key state after) :
    server.Mirrors now (table.erase key) after := by
  intro other reading ahead
  rw [deletes other reading ahead, mirrors other reading ahead, Store.Table.isLive_erase]

/-- One call gets the same answer from both, and leaves the same keys in both. -/
theorem ask
    {moment : Store.Moment}
    (mirrors : server.Mirrors moment.reading table state)
    (documented : server.Documented fresh)
    (brief : moment.query.IsBrief)
    (hasEnd : moment.HasEnd) :
    (server.keeper.ask state moment).1 = (Store.Table.keeper.ask table moment).1 ∧
      server.Mirrors moment.reading (Store.Table.keeper.ask table moment).2
        (server.keeper.ask state moment).2 := by
  obtain ⟨reading, query⟩ := moment
  have there := fun key => mirrors key reading (Nat.le_refl _)
  cases query with
  | record key lifetime =>
      have range := Store.deadline?_eq_some_iff.mpr ⟨hasEnd, rfl⟩
      obtain ⟨reply, sets⟩ := documented.setEx state reading key marker lifetime brief.1 brief.2
      have written := table.perform_record reading key lifetime
      rw [range] at written
      simp only [Store.Keeper.ask, Store.Table.keeper, keeper, command, written, reply,
        readBytes_record_ok, Prod.map, true_and]
      exact mirrors.sets sets
  | lookUp key =>
      obtain ⟨reply, same⟩ := documented.exist state reading key
      simp only [Store.Keeper.ask, Store.Table.keeper, Store.Table.perform, keeper, command, reply,
        readBytes_lookUp_count, there, Prod.map, true_and]
      exact mirrors.same same
  | claim key lifetime =>
      have written := table.perform_claim reading key lifetime
      cases live : table.isLive key reading with
      | true =>
          obtain ⟨reply, same⟩ := documented.setNx_there state reading key marker lifetime brief.1
            brief.2 ((there key).trans live)
          rw [live, if_pos rfl] at written
          simp only [Store.Keeper.ask, Store.Table.keeper, keeper, command, written,
            readBytes_claim_nil reply, Prod.map, true_and]
          exact mirrors.same same
      | false =>
          have range := Store.deadline?_eq_some_iff.mpr ⟨hasEnd, rfl⟩
          obtain ⟨reply, sets⟩ := documented.setNx_free state reading key marker lifetime brief.1
            brief.2 ((there key).trans live)
          rw [live, if_neg (by simp), range] at written
          simp only [Store.Keeper.ask, Store.Table.keeper, keeper, command, written, reply,
            readBytes_claim_ok, Prod.map, true_and]
          exact mirrors.sets sets
  | remove key =>
      obtain ⟨reply, deletes⟩ := documented.del state reading key
      simp only [Store.Keeper.ask, Store.Table.keeper, Store.Table.perform, keeper, command, reply,
        readBytes_remove_count, Prod.map, true_and]
      exact mirrors.deletes deletes
  | countLive => exact brief.elim

/-- From keys that both hold on, a timeline gets the same answers from both. -/
theorem answers_eq
    {timeline : List Store.Moment}
    (mirrors : server.Mirrors now table state)
    (documented : server.Documented fresh)
    (ahead : ∀ moment ∈ timeline, now ≤ moment.reading)
    (ordered : timeline.Pairwise fun earlier later => earlier.reading ≤ later.reading)
    (brief : ∀ moment ∈ timeline, moment.query.IsBrief)
    (hasEnd : ∀ moment ∈ timeline, moment.HasEnd) :
    server.keeper.answers state timeline = Store.Table.keeper.answers table timeline := by
  induction timeline generalizing now table state with
  | nil => rfl
  | cons moment rest ih =>
      obtain ⟨after, ordered⟩ := List.pairwise_cons.mp ordered
      rw [List.forall_mem_cons] at brief hasEnd
      have present := mirrors.later (ahead moment List.mem_cons_self)
      obtain ⟨same, next⟩ := present.ask documented brief.1 hasEnd.1
      rw [Store.Keeper.answers, Store.Keeper.answers, same,
        ih next after ordered brief.2 hasEnd.2]

end Mirrors

/-- A server that does what is documented and a table in memory, both without records at first, give
the same answers to every timeline of calls, as long as the clock of the table reaches the end of each
record. -/
theorem answers_server_eq_answers_table
    (documented : server.Documented fresh)
    (timeline : List Store.Moment)
    (ordered : timeline.Pairwise fun earlier later => earlier.reading ≤ later.reading)
    (brief : ∀ moment ∈ timeline, moment.query.IsBrief)
    (hasEnd : ∀ moment ∈ timeline, moment.HasEnd) :
    server.keeper.answers fresh timeline = Store.Table.keeper.answers .empty timeline := by
  have mirrors : server.Mirrors 0 .empty fresh :=
    fun key reading _ => documented.fresh_empty key reading
  exact mirrors.answers_eq documented (fun _ _ => Nat.zero_le _) ordered brief hasEnd

/-- A key that is claimed for a second on both is free again after a second, and not a millisecond
before. -/
theorem answers_server_eq_answers_table_second :
    ∃ timeline : List Store.Moment,
      Keys.server.Documented .empty ∧
      timeline.Pairwise (fun earlier later => earlier.reading ≤ later.reading) ∧
      (∀ moment ∈ timeline, moment.query.IsBrief) ∧
      (∀ moment ∈ timeline, moment.HasEnd) ∧
      Keys.server.keeper.answers .empty timeline = Store.Table.keeper.answers .empty timeline ∧
      Keys.server.keeper.answers .empty timeline =
        [.claimed (.ok true), .claimed (.ok false), .claimed (.ok true), .stored (.ok ()),
          .found (.ok .present), .stored (.ok ()), .found (.ok .absent)] := by
  let timeline : List Store.Moment :=
    [⟨0, .claim "csrf:t" 1⟩, ⟨999, .claim "csrf:t" 5⟩, ⟨1000, .claim "csrf:t" 5⟩,
      ⟨1000, .record "session:a" 31536000⟩, ⟨31536000999, .lookUp "session:a"⟩,
      ⟨31536000999, .remove "session:a"⟩, ⟨31536000999, .lookUp "session:a"⟩]
  have ordered : timeline.Pairwise (fun earlier later => earlier.reading ≤ later.reading) := by
    decide
  have brief : ∀ moment ∈ timeline, moment.query.IsBrief := by decide
  have hasEnd : ∀ moment ∈ timeline, moment.HasEnd := by decide
  exact ⟨timeline, Keys.documented, ordered, brief, hasEnd,
    answers_server_eq_answers_table Keys.documented timeline ordered brief hasEnd,
    by decide +kernel⟩

/-- In the last second that the clock of the table can show, a server records a key for a year, and the
table says that there is no such end. -/
theorem answers_server_ne_answers_table_endless :
    let timeline : List Store.Moment := [⟨9223372036854775807000, .record "session:a" 31536000⟩]
    Keys.server.Documented .empty ∧
    timeline.Pairwise (fun earlier later => earlier.reading ≤ later.reading) ∧
    (∀ moment ∈ timeline, moment.query.IsBrief) ∧
    Keys.server.keeper.answers .empty timeline = [.stored (.ok ())] ∧
    Store.Table.keeper.answers .empty timeline =
      [.stored (.error (.lifetimeOutOfRange 31536000))] ∧
    Keys.server.keeper.answers .empty timeline ≠ Store.Table.keeper.answers .empty timeline :=
  ⟨Keys.documented, by decide, by decide, by decide +kernel, by decide +kernel, by decide +kernel⟩

end Server
end Redis
end AntiForgery
