import AntiForgery.Refusal
import AntiForgery.Session.Id
import AntiForgery.World

/-!
# The register of sessions

Starting a session, asking for it, and ending it: a session is live as long as its key is in the
store.
-/

namespace AntiForgery
namespace Session

/-- Starts a session under a new id and records it for so many seconds. -/
def start (lifetime : Nat) : Action (Except Refusal Id) := do
  let id ← Action.onEntropy Id.draw
  match ← Action.ask (.record id.storageKey lifetime) with
  | .error failure => return .error (.store failure)
  | .ok () =>
      Action.log .info ("✅ Session saved: session:" ++ id.text)
      return .ok id

/-- Whether a session is live. -/
def isLive (id : Id) : Action (Except Refusal Bool) := do
  match ← Action.ask (.lookUp id.storageKey) with
  | .error failure => return .error (.store failure)
  | .ok lookup => return .ok (lookup == .present)

/-- Ends a session. -/
def finish (id : Id) : Action (Except Refusal Unit) := do
  match ← Action.ask (.remove id.storageKey) with
  | .error failure => return .error (.store failure)
  | .ok () =>
      Action.log .info ("✅ Session deleted: session:" ++ id.text)
      return .ok ()

end Session
end AntiForgery
