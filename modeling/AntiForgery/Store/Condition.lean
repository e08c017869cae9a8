import AntiForgery.Store.Table

/-!
# A store and its condition

The table with its clock, behind a switch that says how the store behaves.  A call that the switch
stops never reaches the table.
-/

namespace AntiForgery
namespace Store

/-- How a store behaves. -/
inductive Condition where
  /-- Every call reaches the table. -/
  | sound
  /-- Every call fails. -/
  | broken
  /-- Calls about spent tokens fail. -/
  | outage
  /-- Calls that write fail. -/
  | readOnly
  /-- No record is ever found, though it still keeps a key from being claimed. -/
  | blind
  deriving DecidableEq, Repr

/-- The answer that a condition gives in place of the table's, if it does. -/
def Condition.intercept? : Condition → Call α → Option (Except Failure α)
  | .sound, _ => none
  | .broken, _ => some (.error (.unavailable "down"))
  | .outage, call =>
      if isSpentKey call.key then some (.error (.unavailable "replay store down")) else none
  | .readOnly, call =>
      if call.writes then some (.error (.unavailable "read only")) else none
  | .blind, .lookUp _ => some (.ok .absent)
  | .blind, _ => none

end Store

/-- A table, its clock and its condition. -/
structure Store where
  /-- How the store behaves. -/
  condition : Store.Condition
  /-- The records. -/
  table : Store.Table
  /-- The store's clock in milliseconds, which starts at zero. -/
  clock : Nat
  deriving DecidableEq, Repr

namespace Store

/-- A store without records. -/
def new (condition : Condition) : Store := ⟨condition, .empty, 0⟩

/-- Asks the store. -/
def perform (call : Call α) (store : Store) : Except Failure α × Store :=
  match store.condition.intercept? call with
  | some answer => (answer, store)
  | none =>
      let (answer, table) := store.table.perform store.clock call
      (answer, { store with table })

/-- Moves the clock by milliseconds. -/
def advance (milliseconds : Nat) (store : Store) : Store :=
  { store with clock := store.clock + milliseconds }

/-- The number of records in the table that have not ended, whatever the condition. -/
def liveCount (store : Store) : Nat :=
  store.table.liveCount store.clock

end Store
end AntiForgery
