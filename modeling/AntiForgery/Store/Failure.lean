/-!
# Failures of a store

Why a store could not do what it was asked, and how it says so.
-/

namespace AntiForgery
namespace Store

/-- Why a store could not do what it was asked. -/
inductive Failure where
  /-- The store is out of service, with the reason that it gives. -/
  | unavailable (reason : String)
  /-- No clock reaches the point at which a record of this lifetime would end. -/
  | lifetimeOutOfRange (lifetime : Nat)
  /-- A server reported an error, or its address was no good. -/
  | server (report : String)
  /-- A server replied with something that is no answer to the command. -/
  | unusableReply
  deriving DecidableEq, Repr

/-- The wording of a failure. -/
def Failure.message : Failure → String
  | .unavailable reason => "Store backend error: " ++ reason
  | .lifetimeOutOfRange lifetime =>
      "Store backend error: TTL of " ++ toString lifetime ++ "s is out of range"
  | .server report => "Redis error: " ++ report
  | .unusableReply => "Redis error: Response was of incompatible type - TypeError"

end Store
end AntiForgery
