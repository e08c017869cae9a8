import AntiForgery.Session.Settings
import AntiForgery.Token.Desk

/-!
# The service

What stays the same from request to request: the token engine and the settings of sessions.
-/

namespace AntiForgery

/-- What stays the same from request to request. -/
structure Service where
  /-- What issues and checks tokens. -/
  engine : Token.Engine
  /-- How long sessions last, and how their cookie is protected. -/
  session : Session.Settings
  deriving DecidableEq, Repr

/-- Sets the service up for a secret and a window, and says so in the journal. -/
def Service.setUp (secret : List UInt8) (window : Seconds) (session : Session.Settings) :
    Action (Except Token.Error Service) := do
  match Token.Engine.ofSecret secret window with
  | .error error => return .error error
  | .ok engine =>
      Action.log .info ("✅ CSRF engine initialized (expiry " ++ toString window.toInt ++ "s)")
      return .ok ⟨engine, session⟩

end AntiForgery
