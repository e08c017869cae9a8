import AntiForgery.Store.Call

/-!
# Records in memory

Keys with the point in time at which each of them ends.  A record that has ended reads as absent,
and is swept out when a write finds the table as large as its threshold.  A sweep sets the threshold
to twice what is left, so that the next one is at least as many writes away as it has records to
look at, and never below a floor.
-/

namespace AntiForgery
namespace Store

/-- A key and when it ends, in milliseconds of the store's clock. -/
structure Entry where
  /-- The key. -/
  key : String
  /-- The first reading at which the record has ended. -/
  deadline : Nat
  deriving DecidableEq, Repr

/-- Whether a record has not ended. -/
def Entry.isLive (now : Nat) (entry : Entry) : Bool :=
  now < entry.deadline

/-- The last whole second that the store's clock can show. -/
def lastSecond : Nat := 9223372036854775807

/-- The reading at which a lifetime in seconds that begins now is over, if the clock gets there. -/
def deadline? (now lifetime : Nat) : Option Nat :=
  if now / 1000 + lifetime ≤ lastSecond then some (now + 1000 * lifetime) else none

/-- The records held, and the size at which the next write sweeps. -/
structure Table where
  /-- The records. -/
  entries : List Entry
  /-- The number of records at which the next write sweeps. -/
  threshold : Nat
  /-- There is at most one record under each key. -/
  distinct : entries.Pairwise fun earlier later => earlier.key ≠ later.key
  deriving DecidableEq, Repr

namespace Table

/-- The table without records. -/
def empty : Table := ⟨[], 0, .nil⟩

/-- The least threshold that a sweep sets. -/
def sweepFloor : Nat := 1024

/-- The record under a key, whether it has ended or not. -/
def find? (key : String) (table : Table) : Option Entry :=
  table.entries.find? (·.key == key)

/-- Whether a record under the key has not ended. -/
def isLive (key : String) (now : Nat) (table : Table) : Bool :=
  match table.find? key with
  | none => false
  | some entry => entry.isLive now

/-- Drops the records that have ended, if the table has reached its threshold. -/
def sweep (now : Nat) (table : Table) : Table :=
  if table.entries.length < table.threshold then table
  else
    let live := table.entries.filter (·.isLive now)
    ⟨live, max (2 * live.length) sweepFloor, table.distinct.filter _⟩

/-- The table without a key. -/
def erase (key : String) (table : Table) : Table where
  entries := table.entries.filter (·.key != key)
  threshold := table.threshold
  distinct := table.distinct.filter _

/-- The table with one record under a key. -/
def put (entry : Entry) (table : Table) : Table where
  entries := entry :: (table.erase entry.key).entries
  threshold := table.threshold
  distinct := by
    refine List.pairwise_cons.mpr ⟨fun other member => ?_, (table.erase entry.key).distinct⟩
    simp only [erase, List.mem_filter, bne_iff_ne] at member
    exact member.2.symm

/-- Writes a record.  A deadline that the clock does not reach changes nothing. -/
def insert (key : String) (lifetime now : Nat) (table : Table) : Except Failure Table :=
  match deadline? now lifetime with
  | none => .error (.lifetimeOutOfRange lifetime)
  | some deadline => .ok ((table.sweep now).put ⟨key, deadline⟩)

/-- The number of records that have not ended. -/
def liveCount (now : Nat) (table : Table) : Nat :=
  (table.entries.filter (·.isLive now)).length

/-- Answers a call at a reading of the clock. -/
def perform (now : Nat) (table : Table) : Call α → Except Failure α × Table
  | .record key lifetime =>
      match table.insert key lifetime now with
      | .error failure => (.error failure, table)
      | .ok written => (.ok (), written)
  | .lookUp key =>
      (.ok (if table.isLive key now then .present else .absent), table)
  | .claim key lifetime =>
      if table.isLive key now then (.ok false, table)
      else
        match table.insert key lifetime now with
        | .error failure => (.error failure, table)
        | .ok written => (.ok true, written)
  | .remove key => (.ok (), table.erase key)

end Table
end Store
end AntiForgery
