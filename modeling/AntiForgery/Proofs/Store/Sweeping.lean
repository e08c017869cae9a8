import AntiForgery.Proofs.Store.Records
import AntiForgery.Store.Plain
import Mathlib.Data.List.Basic

/-!
# Sweeping cannot be observed

A table and a plain map are asked the same things at readings of a clock that never goes back.  Both
hold the same records that have not ended; a sweep drops a record only when it has ended, and from
then on no answer depends on it.  So the two give the same answers, however long the timeline is and
wherever in it the table sweeps.
-/

namespace AntiForgery
namespace Store

/-- What the records are asked. -/
inductive Query where
  /-- To record a key for so many seconds. -/
  | record (key : String) (lifetime : Nat)
  /-- Whether a key is there. -/
  | lookUp (key : String)
  /-- To record a key for so many seconds unless it is there. -/
  | claim (key : String) (lifetime : Nat)
  /-- To remove a key. -/
  | remove (key : String)
  /-- How many keys are live. -/
  | countLive
  deriving DecidableEq, Repr

/-- What the records answer. -/
inductive Answer where
  /-- Whether a key was recorded or removed. -/
  | stored (result : Except Failure Unit)
  /-- Whether a key is there. -/
  | found (result : Except Failure Presence)
  /-- Whether a key was claimed. -/
  | claimed (result : Except Failure Bool)
  /-- How many keys are live. -/
  | counted (live : Nat)
  deriving DecidableEq, Repr

/-- Something that is asked at a reading of the clock. -/
structure Moment where
  /-- The reading in milliseconds. -/
  reading : Nat
  /-- What is asked. -/
  query : Query
  deriving DecidableEq, Repr

/-- A way to keep records. -/
structure Keeper (σ : Type) where
  /-- How a call is answered at a reading of the clock, and what is held afterwards. -/
  perform {α : Type} (now : Nat) (records : σ) (call : Call α) : Except Failure α × σ
  /-- How many keys are live at a reading of the clock. -/
  liveCount (now : Nat) (records : σ) : Nat

namespace Keeper

/-- The answer to what is asked at a moment, and what is held afterwards. -/
def ask (keeper : Keeper σ) (records : σ) (moment : Moment) : Answer × σ :=
  match moment.query with
  | .record key lifetime =>
      (keeper.perform moment.reading records (.record key lifetime)).map .stored id
  | .lookUp key => (keeper.perform moment.reading records (.lookUp key)).map .found id
  | .claim key lifetime =>
      (keeper.perform moment.reading records (.claim key lifetime)).map .claimed id
  | .remove key => (keeper.perform moment.reading records (.remove key)).map .stored id
  | .countLive => (.counted (keeper.liveCount moment.reading records), records)

/-- The answers to a timeline. -/
def answers (keeper : Keeper σ) : σ → List Moment → List Answer
  | _, [] => []
  | records, moment :: rest =>
      (keeper.ask records moment).1 :: keeper.answers (keeper.ask records moment).2 rest

end Keeper

/-- Records that are swept now and then. -/
def Table.keeper : Keeper Table := ⟨Table.perform, Table.liveCount⟩

/-- Records that are never swept. -/
def Plain.keeper : Keeper Plain := ⟨Plain.perform, Plain.liveCount⟩

/-! ## Which records there are -/

namespace Table

theorem mem_erase {table : Table} {key : String} {entry : Entry} :
    entry ∈ (table.erase key).entries ↔ entry ∈ table.entries ∧ entry.key ≠ key := by
  simp [erase]

theorem mem_put {table : Table} {written entry : Entry} :
    entry ∈ (table.put written).entries ↔
      entry = written ∨ entry ∈ table.entries ∧ entry.key ≠ written.key := by
  rw [put, List.mem_cons, mem_erase]

/-- A sweep keeps every record that has not ended. -/
theorem mem_sweep {table : Table} {now : Nat} {entry : Entry} (ahead : now < entry.deadline) :
    entry ∈ (table.sweep now).entries ↔ entry ∈ table.entries := by
  rw [sweep]
  split
  · rfl
  · simp [Entry.isLive, ahead]

theorem isLive_eq_true_iff {table : Table} {key : String} {now : Nat} :
    table.isLive key now = true ↔
      ∃ deadline, ⟨key, deadline⟩ ∈ table.entries ∧ now < deadline := by
  simp only [isLive_eq_isSome, Option.isSome_iff_exists, liveUntil?_eq_some_iff]

end Table

namespace Plain

/-- No two records have one key. -/
def Distinct (plain : Plain) : Prop :=
  plain.entries.Pairwise fun earlier later => earlier.key ≠ later.key

theorem mem_erase {plain : Plain} {key : String} {entry : Entry} :
    entry ∈ (plain.erase key).entries ↔ entry ∈ plain.entries ∧ entry.key ≠ key := by
  simp [erase]

theorem mem_put {plain : Plain} {key : String} {deadline : Nat} {entry : Entry} :
    entry ∈ (plain.put key deadline).entries ↔
      entry = ⟨key, deadline⟩ ∨ entry ∈ plain.entries ∧ entry.key ≠ key := by
  rw [put, List.mem_cons, mem_erase]

theorem Distinct.erase {plain : Plain} (distinct : plain.Distinct) (key : String) :
    (plain.erase key).Distinct :=
  List.Pairwise.filter _ distinct

/-- To write a key leaves no key twice, since its old entry goes. -/
theorem Distinct.put {plain : Plain} (distinct : plain.Distinct) (key : String) (deadline : Nat) :
    (plain.put key deadline).Distinct := by
  refine List.pairwise_cons.mpr ⟨?_, distinct.erase key⟩
  intro entry member
  exact (mem_erase.mp member).2.symm

theorem isLive_eq_true_iff {plain : Plain} (distinct : plain.Distinct) {key : String} {now : Nat} :
    plain.isLive key now = true ↔
      ∃ deadline, ⟨key, deadline⟩ ∈ plain.entries ∧ now < deadline := by
  simp only [isLive, deadline?, Option.any_eq_true, Option.map_eq_some_iff,
    find?_key_eq_some_iff distinct, decide_eq_true_eq]
  constructor
  · rintro ⟨deadline, ⟨entry, ⟨member, rfl⟩, rfl⟩, ahead⟩
    exact ⟨entry.deadline, member, ahead⟩
  · rintro ⟨deadline, member, ahead⟩
    exact ⟨deadline, ⟨_, ⟨member, rfl⟩, rfl⟩, ahead⟩

/-- The count is that of the keys that are live: each is counted, and none is counted twice. -/
theorem exists_live_keys {plain : Plain} (distinct : plain.Distinct) (now : Nat) :
    ∃ keys : List String,
      keys.Nodup ∧
      keys.length = plain.liveCount now ∧
      ∀ key, key ∈ keys ↔ plain.isLive key now = true := by
  refine ⟨(plain.entries.filter (·.isLive now)).map (·.key), ?_, List.length_map _, ?_⟩
  · exact List.pairwise_map.mpr (List.Pairwise.filter _ distinct)
  · intro key
    simp only [isLive_eq_true_iff distinct, List.mem_map, List.mem_filter, Entry.isLive,
      decide_eq_true_eq]
    constructor
    · rintro ⟨entry, ⟨member, ahead⟩, rfl⟩
      exact ⟨entry.deadline, member, ahead⟩
    · rintro ⟨deadline, member, ahead⟩
      exact ⟨_, ⟨member, ahead⟩, rfl⟩

end Plain

/-- Records that are the same as far as they have not ended are as many, though they may be held in
another order. -/
theorem length_live_eq
    {first second : List Entry}
    (distinctFirst : first.Pairwise fun earlier later => earlier.key ≠ later.key)
    (distinctSecond : second.Pairwise fun earlier later => earlier.key ≠ later.key)
    {now : Nat}
    (same : ∀ entry : Entry, now < entry.deadline → (entry ∈ first ↔ entry ∈ second)) :
    (first.filter (·.isLive now)).length = (second.filter (·.isLive now)).length := by
  have nodup : ∀ entries : List Entry,
      (entries.Pairwise fun earlier later => earlier.key ≠ later.key) →
      (entries.filter (·.isLive now)).Nodup := by
    intro entries distinct
    refine List.Pairwise.filter _ (distinct.imp fun different => ?_)
    rintro rfl
    exact different rfl
  refine List.Perm.length_eq ?_
  rw [List.perm_ext_iff_of_nodup (nodup _ distinctFirst) (nodup _ distinctSecond)]
  intro entry
  simp only [List.mem_filter, Entry.isLive, decide_eq_true_eq]
  constructor
  · rintro ⟨member, ahead⟩
    exact ⟨(same entry ahead).mp member, ahead⟩
  · rintro ⟨member, ahead⟩
    exact ⟨(same entry ahead).mpr member, ahead⟩

/-! ## The two side by side -/

/-- A table and a plain map hold the same records that have not ended at a reading of the clock. -/
structure Agrees (now : Nat) (table : Table) (plain : Plain) : Prop where
  distinct : plain.Distinct
  same : ∀ entry : Entry, now < entry.deadline →
    (entry ∈ table.entries ↔ entry ∈ plain.entries)

namespace Agrees

variable {now : Nat} {table : Table} {plain : Plain}

theorem empty (now : Nat) : Agrees now .empty .empty where
  distinct := List.Pairwise.nil
  same _ _ := Iff.rfl

/-- A table and a map that agree now agree later. -/
theorem later (agrees : Agrees now table plain) {later : Nat} (order : now ≤ later) :
    Agrees later table plain where
  distinct := agrees.distinct
  same entry ahead := agrees.same entry (Nat.lt_of_le_of_lt order ahead)

theorem isLive_eq (agrees : Agrees now table plain) (key : String) :
    table.isLive key now = plain.isLive key now := by
  rw [Bool.eq_iff_iff, Table.isLive_eq_true_iff, Plain.isLive_eq_true_iff agrees.distinct]
  constructor
  · rintro ⟨deadline, member, ahead⟩
    exact ⟨deadline, (agrees.same ⟨key, deadline⟩ ahead).mp member, ahead⟩
  · rintro ⟨deadline, member, ahead⟩
    exact ⟨deadline, (agrees.same ⟨key, deadline⟩ ahead).mpr member, ahead⟩

/-- The two count the same records. -/
theorem liveCount_eq (agrees : Agrees now table plain) :
    table.liveCount now = plain.liveCount now :=
  length_live_eq table.distinct agrees.distinct agrees.same

theorem erase (agrees : Agrees now table plain) (key : String) :
    Agrees now (table.erase key) (plain.erase key) where
  distinct := agrees.distinct.erase key
  same entry ahead := by rw [Table.mem_erase, Plain.mem_erase, agrees.same entry ahead]

/-- The two agree after a write, although only one of them sweeps. -/
theorem put (agrees : Agrees now table plain) (key : String) (deadline : Nat) :
    Agrees now ((table.sweep now).put ⟨key, deadline⟩) (plain.put key deadline) where
  distinct := agrees.distinct.put key deadline
  same entry ahead := by
    rw [Table.mem_put, Plain.mem_put, Table.mem_sweep ahead, agrees.same entry ahead]

/-- A call gets the same answer from both, and leaves both with the same records. -/
theorem perform (agrees : Agrees now table plain) (call : Call α) :
    (table.perform now call).1 = (plain.perform now call).1 ∧
      Agrees now (table.perform now call).2 (plain.perform now call).2 := by
  cases call with
  | record key lifetime =>
      rw [Table.perform_record, Plain.perform]
      cases deadline? now lifetime with
      | none => exact ⟨rfl, agrees⟩
      | some deadline => exact ⟨rfl, agrees.put key deadline⟩
  | lookUp key =>
      refine ⟨?_, agrees⟩
      rw [Table.perform, Plain.perform, agrees.isLive_eq]
  | claim key lifetime =>
      rw [Table.perform_claim, Plain.perform, agrees.isLive_eq]
      cases plain.isLive key now with
      | true => exact ⟨rfl, agrees⟩
      | false =>
          cases deadline? now lifetime with
          | none => exact ⟨rfl, agrees⟩
          | some deadline => exact ⟨rfl, agrees.put key deadline⟩
  | remove key => exact ⟨rfl, agrees.erase key⟩

/-- One query is answered alike, and the table and the map agree after it. -/
theorem ask
    {moment : Moment}
    (agrees : Agrees moment.reading table plain) :
    (Table.keeper.ask table moment).1 = (Plain.keeper.ask plain moment).1 ∧
      Agrees moment.reading (Table.keeper.ask table moment).2
        (Plain.keeper.ask plain moment).2 := by
  have calls {α : Type} (call : Call α) (wrap : Except Failure α → Answer) :
      wrap (table.perform moment.reading call).1 = wrap (plain.perform moment.reading call).1 ∧
        Agrees moment.reading (table.perform moment.reading call).2
          (plain.perform moment.reading call).2 :=
    ⟨congrArg wrap (agrees.perform call).1, (agrees.perform call).2⟩
  obtain ⟨reading, query⟩ := moment
  cases query with
  | record key lifetime => exact calls (.record key lifetime) .stored
  | lookUp key => exact calls (.lookUp key) .found
  | claim key lifetime => exact calls (.claim key lifetime) .claimed
  | remove key => exact calls (.remove key) .stored
  | countLive => exact ⟨congrArg Answer.counted agrees.liveCount_eq, agrees⟩

/-- From records that agree on, a timeline gets the same answers from both. -/
theorem answers_eq
    {timeline : List Moment}
    (agrees : Agrees now table plain)
    (ahead : ∀ moment ∈ timeline, now ≤ moment.reading)
    (ordered : timeline.Pairwise fun earlier later => earlier.reading ≤ later.reading) :
    Table.keeper.answers table timeline = Plain.keeper.answers plain timeline := by
  induction timeline generalizing now table plain with
  | nil => rfl
  | cons moment rest ih =>
      obtain ⟨after, ordered⟩ := List.pairwise_cons.mp ordered
      have present := agrees.later (ahead moment List.mem_cons_self)
      obtain ⟨same, next⟩ := present.ask
      rw [Keeper.answers, Keeper.answers, same, ih next after ordered]

end Agrees

/-- A table that sweeps and a plain map that never does, both empty at first, give the same answers
to every timeline. -/
theorem answers_table_eq_answers_plain
    (timeline : List Moment)
    (ordered : timeline.Pairwise fun earlier later => earlier.reading ≤ later.reading) :
    Table.keeper.answers .empty timeline = Plain.keeper.answers .empty timeline :=
  (Agrees.empty 0).answers_eq (fun _ _ => Nat.zero_le _) ordered

/-- A key that is recorded for a second can be claimed when the second is over and not a millisecond
before.  A record without end changes nothing. -/
theorem answers_table_eq_answers_plain_second :
    ∃ timeline : List Moment,
      timeline.Pairwise (fun earlier later => earlier.reading ≤ later.reading) ∧
      Table.keeper.answers .empty timeline = Plain.keeper.answers .empty timeline ∧
      Plain.keeper.answers .empty timeline =
        [.stored (.ok ()), .claimed (.ok false), .counted 1, .claimed (.ok true),
          .stored (.error (.lifetimeOutOfRange lastSecond)), .found (.ok .present),
          .stored (.ok ()), .counted 0] := by
  let timeline : List Moment :=
    [⟨0, .record "csrf:t" 1⟩, ⟨999, .claim "csrf:t" 5⟩, ⟨999, .countLive⟩,
      ⟨1000, .claim "csrf:t" 5⟩, ⟨1000, .record "csrf:t" lastSecond⟩, ⟨5999, .lookUp "csrf:t"⟩,
      ⟨5999, .remove "csrf:t"⟩, ⟨5999, .countLive⟩]
  have ordered :
      timeline.Pairwise (fun earlier later => earlier.reading ≤ later.reading) := by decide
  exact ⟨timeline, ordered, answers_table_eq_answers_plain timeline ordered, by decide +kernel⟩

end Store
end AntiForgery
