import AntiForgery.Proofs.Store.Sweeping

/-!
# How large a table grows

Records that have ended stay in a table until a write sweeps them out, so a table may hold more than is
live.  It never holds more than its threshold, and the threshold is the floor or twice a number of
records that were live when a write swept.  So a table that was never busy stays small, however many
records have come and gone.
-/

namespace AntiForgery
namespace Store

/-- What is held after a timeline. -/
def Keeper.after (keeper : Keeper σ) : σ → List Moment → σ
  | records, [] => records
  | records, moment :: rest => keeper.after (keeper.ask records moment).2 rest

/-- Whether an answer to what is asked at a moment tells that a record was written. -/
def Moment.isWrite (moment : Moment) (answer : Answer) : Bool :=
  match moment.query, answer with
  | .record .., .stored (.ok _) => true
  | .claim .., .claimed (.ok true) => true
  | _, _ => false

namespace Table

/-- The number of records that are live when a moment comes that writes; none for any other moment. -/
def load (table : Table) (moment : Moment) : Nat :=
  if moment.isWrite (keeper.ask table moment).1 then table.liveCount moment.reading else 0

/-- The largest number of records that were live just before a write of a timeline. -/
def peak (table : Table) : List Moment → Nat
  | [] => 0
  | moment :: rest => max (table.load moment) ((keeper.ask table moment).2.peak rest)

/-- What becomes of a table when it is asked something: it stays as it is, or loses a key, or is swept
where that is due and gets one more record.  Only in the last case the answer tells of a write. -/
inductive Turn (table : Table) (moment : Moment) : Answer → Table → Prop
  | kept
      (answer : Answer)
      (silent : moment.isWrite answer = false) :
      Turn table moment answer table
  | erased
      (answer : Answer)
      (silent : moment.isWrite answer = false)
      (key : String) :
      Turn table moment answer (table.erase key)
  | written
      (answer : Answer)
      (told : moment.isWrite answer = true)
      (entry : Entry) :
      Turn table moment answer ((table.sweep moment.reading).put entry)

theorem turn_ask (table : Table) (moment : Moment) :
    Turn table moment (keeper.ask table moment).1 (keeper.ask table moment).2 := by
  obtain ⟨reading, query⟩ := moment
  cases query with
  | record key lifetime =>
      simp only [Keeper.ask, keeper, perform_record]
      cases deadline? reading lifetime with
      | none => exact .kept _ rfl
      | some deadline => exact .written _ rfl ⟨key, deadline⟩
  | lookUp key => exact .kept _ rfl
  | claim key lifetime =>
      simp only [Keeper.ask, keeper, perform_claim]
      cases table.isLive key reading with
      | true => exact .kept _ rfl
      | false =>
          cases deadline? reading lifetime with
          | none => exact .kept _ rfl
          | some deadline => exact .written _ rfl ⟨key, deadline⟩
  | remove key => exact .erased _ rfl key
  | countLive => exact .kept _ rfl

/-! ## Sizes -/

theorem length_erase_le (table : Table) (key : String) :
    (table.erase key).entries.length ≤ table.entries.length :=
  List.length_filter_le _ _

/-- To write a key makes the table larger by one entry at the most. -/
theorem length_put_le (table : Table) (entry : Entry) :
    (table.put entry).entries.length ≤ table.entries.length + 1 :=
  Nat.succ_le_succ (table.length_erase_le entry.key)

/-- Below the threshold no sweep takes place. -/
theorem sweep_of_lt {table : Table} (room : table.entries.length < table.threshold) (now : Nat) :
    table.sweep now = table := by
  rw [sweep, if_pos room]

/-- A sweep that takes place leaves what is live, and twice as much room, or the floor. -/
theorem sweep_of_le {table : Table} (full : table.threshold ≤ table.entries.length) (now : Nat) :
    (table.sweep now).entries.length = table.liveCount now ∧
      (table.sweep now).threshold = max (2 * table.liveCount now) sweepFloor := by
  rw [sweep, if_neg (Nat.not_lt.mpr full)]
  exact ⟨rfl, rfl⟩

/-- The table holds no more than its threshold, which is the floor or at most twice a load. -/
structure Fits (load : Nat) (table : Table) : Prop where
  size : table.entries.length ≤ table.threshold
  room : table.threshold ≤ max (2 * load) sweepFloor

namespace Fits

variable {load : Nat} {table : Table}

theorem empty : Fits 0 .empty where
  size := Nat.le_refl 0
  room := Nat.zero_le _

theorem mono (fits : Fits load table) {larger : Nat} (order : load ≤ larger) :
    Fits larger table where
  size := fits.size
  room := by
    have room := fits.room
    omega

theorem erase (fits : Fits load table) (key : String) : Fits load (table.erase key) where
  size := Nat.le_trans (table.length_erase_le key) fits.size
  room := fits.room

/-- After a sweep there is room for one more record, whether the sweep has taken place or not. -/
theorem put (fits : Fits load table) (now : Nat) (entry : Entry) :
    Fits (max load (table.liveCount now)) ((table.sweep now).put entry) := by
  have grown := (table.sweep now).length_put_le entry
  have same : ((table.sweep now).put entry).threshold = (table.sweep now).threshold := rfl
  have room := fits.room
  by_cases full : table.threshold ≤ table.entries.length
  · obtain ⟨left, raised⟩ := sweep_of_le full now
    have floor : 1 ≤ sweepFloor := by decide
    exact ⟨by omega, by omega⟩
  · rw [sweep_of_lt (Nat.lt_of_not_le full)] at grown same ⊢
    exact ⟨by omega, by omega⟩

/-- Whatever a table is asked, it goes on fitting, for the load that a write finds if there is one. -/
theorem ask (fits : Fits load table) (moment : Moment) :
    Fits (max load (table.load moment)) (keeper.ask table moment).2 := by
  have turn := table.turn_ask moment
  have same : Fits (max load (table.load moment)) table := fits.mono (Nat.le_max_left _ _)
  rw [Table.load] at same ⊢
  generalize (keeper.ask table moment).1 = answer at turn same ⊢
  generalize (keeper.ask table moment).2 = after at turn ⊢
  cases turn with
  | kept silent => exact same
  | erased silent key => exact same.erase key
  | written told entry =>
      rw [if_pos told]
      exact fits.put moment.reading entry

/-- Over a timeline a table goes on fitting for the largest load that a write finds. -/
theorem after (fits : Fits load table) (timeline : List Moment) :
    Fits (max load (table.peak timeline)) (keeper.after table timeline) := by
  induction timeline generalizing load table with
  | nil => exact fits.mono (Nat.le_max_left _ _)
  | cons moment rest ih =>
      rw [peak, Keeper.after, ← Nat.max_assoc]
      exact ih (fits.ask moment)

end Fits

/-- A table that was empty at first never holds more records than its threshold, and never more than
the floor, or twice the largest number of records that were live just before a write, if that is more.
Every point of a timeline is the end of a shorter one, so both hold at every point, and they hold
whether or not the clock goes back. -/
theorem length_after_le (timeline : List Moment) :
    let table := keeper.after .empty timeline
    table.entries.length ≤ table.threshold ∧
      table.entries.length ≤ max 1024 (2 * Table.empty.peak timeline) := by
  intro table
  have fits : Fits (max 0 (Table.empty.peak timeline)) table := Fits.empty.after timeline
  have floor : sweepFloor = 1024 := rfl
  have size := fits.size
  have room := fits.room
  exact ⟨size, by omega⟩

/-- Two records that have ended are still held when a third is written, and no write has found a live
one. -/
example :
    let timeline : List Moment :=
      [⟨0, .record "session:a" 1⟩, ⟨1000, .record "session:b" 1⟩, ⟨2000, .claim "csrf:t" 1⟩]
    (keeper.after .empty timeline).entries.length = 3 ∧ Table.empty.peak timeline = 0 := by
  decide +kernel

end Table
end Store
end AntiForgery
