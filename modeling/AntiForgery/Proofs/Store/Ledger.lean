import AntiForgery.Proofs.Store.Growth

/-!
# What sweeping costs

A sweep looks at every record of the table, so a single write may take long.  A sweep leaves a threshold
that is at least twice what it leaves in the table, and only a write makes the table larger.  So before
the next sweep there are at least half as many writes as it has records to look at.  A ledger keeps the
accounts, and what its writes have not yet paid for is the potential that carries the argument.
-/

namespace AntiForgery
namespace Store

namespace Table

/-- How many records `sweep` looks at: all of them, unless the table is below its threshold. -/
def swept (table : Table) : Nat :=
  if table.entries.length < table.threshold then 0 else table.entries.length

/-- How many records are looked at for a sweep when something is asked.  Only a write sweeps. -/
def visits (table : Table) (moment : Moment) : Nat :=
  if moment.isWrite (keeper.ask table moment).1 then table.swept else 0

end Table

/-- A table with the accounts of its writes and its sweeps. -/
structure Ledger where
  /-- The table. -/
  table : Table
  /-- The number of writes so far. -/
  writes : Nat
  /-- The number of writes since the last sweep, with the one that swept; all of them, if none has. -/
  recent : Nat
  /-- The number of records that the sweeps so far have looked at. -/
  visited : Nat

namespace Ledger

/-- An empty table to which nothing has been written. -/
def opened : Ledger := ⟨.empty, 0, 0, 0⟩

/-- Asks the table, and enters a write and what it has swept. -/
def ask (ledger : Ledger) (moment : Moment) : Ledger :=
  let (answer, table) := Table.keeper.ask ledger.table moment
  if moment.isWrite answer then
    { table
      writes := ledger.writes + 1
      recent :=
        if ledger.table.entries.length < ledger.table.threshold then ledger.recent + 1 else 1
      visited := ledger.visited + ledger.table.visits moment }
  else { ledger with table }

/-- The ledger after a timeline. -/
def after (ledger : Ledger) (timeline : List Moment) : Ledger :=
  timeline.foldl ask ledger

@[simp] theorem ask_table (ledger : Ledger) (moment : Moment) :
    (ledger.ask moment).table = (Table.keeper.ask ledger.table moment).2 := by
  simp only [ask]
  split <;> rfl

/-- Keeping accounts changes nothing about the table. -/
theorem after_table (ledger : Ledger) (timeline : List Moment) :
    (ledger.after timeline).table = Table.keeper.after ledger.table timeline := by
  induction timeline generalizing ledger with
  | nil => rfl
  | cons moment rest ih =>
      rw [after, List.foldl_cons, Keeper.after, ← ask_table]
      exact ih (ledger.ask moment)

/-- The writes are those that the answers tell of. -/
theorem after_writes (ledger : Ledger) (timeline : List Moment) :
    (ledger.after timeline).writes =
      ledger.writes +
        (timeline.zip (Table.keeper.answers ledger.table timeline)).countP
          fun asked => asked.1.isWrite asked.2 := by
  induction timeline generalizing ledger with
  | nil => rfl
  | cons moment rest ih =>
      have counted : (ledger.ask moment).writes = ledger.writes +
          if moment.isWrite (Table.keeper.ask ledger.table moment).1 then 1 else 0 := by
        simp only [ask]
        split <;> rfl
      have later : (ledger.after (moment :: rest)).writes =
          ((ledger.ask moment).after rest).writes := rfl
      rw [later, ih, ask_table, counted, Keeper.answers, List.zip_cons_cons, List.countP_cons,
        Nat.add_assoc, Nat.add_comm (ite _ _ _)]

/-- What the writes since the last sweep have brought in is at least what the table has grown beyond half
its threshold, and every other write has paid for two records that were looked at. -/
structure Balanced (ledger : Ledger) : Prop where
  room : 2 * ledger.table.entries.length ≤ ledger.table.threshold + 2 * ledger.recent
  paid : ledger.visited + 2 * ledger.recent ≤ 2 * ledger.writes

namespace Balanced

theorem opened : opened.Balanced := ⟨Nat.le_refl 0, Nat.le_refl 0⟩

variable {ledger : Ledger}

/-- A sweep looks at no more than two records for each write since the last one. -/
theorem swept_le (balanced : ledger.Balanced) : ledger.table.swept ≤ 2 * ledger.recent := by
  have room := balanced.room
  rw [Table.swept]
  split
  · exact Nat.zero_le _
  · omega

/-- A sweep visits no more than twice the entries that were written since the last one. -/
theorem visits_le (balanced : ledger.Balanced) (moment : Moment) :
    ledger.table.visits moment ≤ 2 * ledger.recent := by
  rw [Table.visits]
  split
  · exact balanced.swept_le
  · exact Nat.zero_le _

/-- The table is balanced anew when a sweep takes place: the writes before it pay for the sweep, and the
write that made it counts for the next one. -/
theorem ask (balanced : ledger.Balanced) (moment : Moment) : (ledger.ask moment).Balanced := by
  have room := balanced.room
  have paid := balanced.paid
  have afford := balanced.swept_le
  have turn := ledger.table.turn_ask moment
  simp only [Ledger.ask, Table.visits]
  generalize (Table.keeper.ask ledger.table moment).1 = answer at turn ⊢
  generalize (Table.keeper.ask ledger.table moment).2 = table at turn ⊢
  cases turn with
  | kept silent =>
      simp only [silent, Bool.false_eq_true, if_false]
      exact balanced
  | erased silent key =>
      have shrunk := ledger.table.length_erase_le key
      have same : (ledger.table.erase key).threshold = ledger.table.threshold := rfl
      simp only [silent, Bool.false_eq_true, if_false]
      refine ⟨?_, paid⟩
      simp only [same]
      omega
  | written told entry =>
      have grown := (ledger.table.sweep moment.reading).length_put_le entry
      have same : ((ledger.table.sweep moment.reading).put entry).threshold =
          (ledger.table.sweep moment.reading).threshold := rfl
      by_cases full : ledger.table.threshold ≤ ledger.table.entries.length
      · obtain ⟨left, raised⟩ := Table.sweep_of_le full moment.reading
        simp only [told, if_true, if_neg (Nat.not_lt.mpr full)]
        constructor
        · simp only [same, raised]
          omega
        · simp only
          omega
      · have below := Nat.lt_of_not_le full
        rw [Table.sweep_of_lt below] at grown same ⊢
        have free : ledger.table.swept = 0 := by rw [Table.swept, if_pos below]
        simp only [told, if_true, if_pos below, free]
        constructor
        · simp only [same]
          omega
        · simp only
          omega

theorem after (balanced : ledger.Balanced) (timeline : List Moment) :
    (ledger.after timeline).Balanced := by
  induction timeline generalizing ledger with
  | nil => exact balanced
  | cons moment rest ih => exact ih (balanced.ask moment)

end Balanced

/-- A sweep that looks at some records comes after at least half as many writes since the last sweep, the
one that made that sweep among them, and all sweeps together look at no more than two records for each
write.  Every point of a timeline is the end of a shorter one, so both hold at every point; it does not
matter how many records have ended, or whether any has. -/
theorem visited_after_le (timeline : List Moment) :
    let ledger := opened.after timeline
    ledger.table = Table.keeper.after .empty timeline ∧
      ledger.writes =
        (timeline.zip (Table.keeper.answers .empty timeline)).countP
          (fun asked => asked.1.isWrite asked.2) ∧
      (∀ moment, ledger.table.visits moment ≤ 2 * ledger.recent) ∧
      ledger.visited ≤ 2 * ledger.writes := by
  intro ledger
  have balanced : ledger.Balanced := Balanced.opened.after timeline
  have paid := balanced.paid
  have counted := opened.after_writes timeline
  rw [show opened.writes = 0 from rfl, Nat.zero_add] at counted
  exact ⟨opened.after_table timeline, counted, balanced.visits_le, by omega⟩

/-- The first write sweeps a table that is empty; the claim that fails and the removal are no writes. -/
example :
    let timeline : List Moment :=
      [⟨0, .record "session:a" 1⟩, ⟨0, .claim "session:a" 1⟩, ⟨5, .claim "csrf:t" 1⟩,
        ⟨9, .remove "csrf:t"⟩]
    let ledger := opened.after timeline
    (ledger.writes, ledger.recent, ledger.visited) = (2, 2, 0) := by
  decide +kernel

end Ledger
end Store
end AntiForgery
