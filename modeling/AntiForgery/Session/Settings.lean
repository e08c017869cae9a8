import AntiForgery.Clock

/-!
# Session settings

How long a session lasts, and how its cookie is protected.
-/

namespace AntiForgery
namespace Session

/-- What is configured about sessions. -/
structure Settings where
  /-- How many days a session lasts. -/
  durationDays : Int64
  /-- Whether the cookie may travel over secure connections only. -/
  secureCookies : Bool
  deriving DecidableEq, Repr

/-- How many seconds a session lasts: at least one, and never more than a clock can count. -/
def Settings.lifetime (settings : Settings) : Nat :=
  (Seconds.times settings.durationDays Seconds.perDay).toLifetime

end Session
end AntiForgery
