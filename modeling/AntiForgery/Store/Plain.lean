import AntiForgery.Store.Table

/-!
# Records without sweeping

The meaning of a table: keys with the point in time at which each of them ends, and nothing else.
No record is ever dropped because it has ended; it only reads as absent.  What a table answers is to
be compared with what this answers.
-/

namespace AntiForgery
namespace Store

/-- Keys and when they end, at most once each. -/
structure Plain where
  /-- The records. -/
  entries : List Entry
  deriving DecidableEq, Repr

namespace Plain

/-- No records. -/
def empty : Plain := ⟨[]⟩

/-- The reading at which the record under a key ends. -/
def deadline? (key : String) (plain : Plain) : Option Nat :=
  (plain.entries.find? (·.key == key)).map (·.deadline)

/-- Whether the deadline of a key is strictly after the clock. -/
def isLive (key : String) (now : Nat) (plain : Plain) : Bool :=
  (plain.deadline? key).any (now < ·)

/-- The records without a key. -/
def erase (key : String) (plain : Plain) : Plain :=
  ⟨plain.entries.filter (·.key != key)⟩

/-- The records with one deadline for a key. -/
def put (key : String) (deadline : Nat) (plain : Plain) : Plain :=
  ⟨⟨key, deadline⟩ :: (plain.erase key).entries⟩

/-- The number of keys that are live. -/
def liveCount (now : Nat) (plain : Plain) : Nat :=
  (plain.entries.filter (·.isLive now)).length

/-- Answers a call at a reading of the clock. -/
def perform (now : Nat) (plain : Plain) : Call α → Except Failure α × Plain
  | .record key lifetime =>
      match Store.deadline? now lifetime with
      | none => (.error (.lifetimeOutOfRange lifetime), plain)
      | some deadline => (.ok (), plain.put key deadline)
  | .lookUp key => (.ok (if plain.isLive key now then .present else .absent), plain)
  | .claim key lifetime =>
      if plain.isLive key now then (.ok false, plain)
      else
        match Store.deadline? now lifetime with
        | none => (.error (.lifetimeOutOfRange lifetime), plain)
        | some deadline => (.ok true, plain.put key deadline)
  | .remove key => (.ok (), plain.erase key)

end Plain
end Store
end AntiForgery
