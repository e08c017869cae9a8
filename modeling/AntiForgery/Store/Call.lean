import AntiForgery.Store.Failure

/-!
# Calls to a store

What can be asked of a store of keys that end on their own, with the kind of answer that each call
gets.  Sessions and spent tokens share one store under keys with different beginnings.
-/

namespace AntiForgery
namespace Store

/-- Whether a key is there. -/
inductive Presence where
  /-- No record is alive under the key. -/
  | absent
  /-- A record is alive under the key. -/
  | present
  deriving DecidableEq, Repr

/-- What can be asked of a store, with the type of the answer. -/
inductive Call : Type → Type where
  /-- Records a key for so many seconds, in place of what is there. -/
  | record (key : String) (lifetime : Nat) : Call Unit
  /-- Asks whether a key is there. -/
  | lookUp (key : String) : Call Presence
  /-- Records a key for so many seconds unless it is there; the answer says if it was recorded. -/
  | claim (key : String) (lifetime : Nat) : Call Bool
  /-- Removes a key, if it is there. -/
  | remove (key : String) : Call Unit

/-- The key that a call is about. -/
def Call.key : Call α → String
  | .record key _ => key
  | .lookUp key => key
  | .claim key _ => key
  | .remove key => key

/-- Whether a call may change what the store holds. -/
def Call.writes : Call α → Bool
  | .lookUp _ => false
  | _ => true

/-- What the keys of spent tokens begin with. -/
def spentPrefix : String := "csrf:"

/-- What the keys of sessions begin with. -/
def sessionPrefix : String := "session:"

/-- The key that records a token as spent. -/
def spentKey (token : String) : String := spentPrefix ++ token

/-- Whether a key is one of a spent token. -/
def isSpentKey (key : String) : Bool :=
  spentPrefix.toList.isPrefixOf key.toList

end Store
end AntiForgery
