import AntiForgery.Token.Error

/-!
# Refusals

Why a request is not carried out.  A refusal has a full wording for the operator and a public one
for the client; the two agree only where the client is told what it did wrong, so nothing about the
store or the cipher leaves the program.
-/

namespace AntiForgery

/-- Why a request is not carried out. -/
inductive Refusal where
  /-- The store failed. -/
  | store (failure : Store.Failure)
  /-- The client did not say who it is. -/
  | unidentified (reason : String)
  /-- The client may not do this. -/
  | forbidden
  /-- The request holds a value that is out of bounds. -/
  | outOfBounds (reason : String)
  /-- The cipher failed. -/
  | encryption (report : String)
  /-- Something failed that never should. -/
  | internal (report : String)
  deriving DecidableEq, Repr

namespace Refusal

/-- The full wording. -/
def message : Refusal → String
  | .store failure => "Store error: " ++ failure.message
  | .unidentified reason => "Authentication failed: " ++ reason
  | .forbidden => "Authorization failed"
  | .outOfBounds reason => "Validation error: " ++ reason
  | .encryption report => "Encryption error: " ++ report
  | .internal report => "Internal server error: " ++ report

/-- The wording for the client. -/
def publicMessage : Refusal → String
  | .store _ => "Store error"
  | .unidentified reason => reason
  | .forbidden => "Forbidden"
  | .outOfBounds reason => reason
  | .encryption _ => "Encryption error"
  | .internal _ => "Internal server error"

end Refusal
end AntiForgery
