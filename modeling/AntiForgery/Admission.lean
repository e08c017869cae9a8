import AntiForgery.Refusal
import AntiForgery.Text.Blank
import AntiForgery.Text.Utf8

/-!
# Bounds at the border

How large a session id and a token from outside may be.  What they hold is judged later.
-/

namespace AntiForgery
namespace Admission

/-- The most bytes that a session id may have. -/
def sessionIdLimit : Nat := 255

/-- The most bytes that a token may have. -/
def tokenLimit : Nat := 4096

/-- Admits a session id that holds more than white space and is not too long. -/
def sessionId (text : String) : Except Refusal Unit :=
  if Text.isBlankText text then .error (.outOfBounds "Session id cannot be empty")
  else if sessionIdLimit < Text.byteCount text then
    .error (.outOfBounds "Session id must be at most 255 characters")
  else .ok ()

/-- Admits a token that is not empty and not too long. -/
def token (text : String) : Except Refusal Unit :=
  if text = "" then .error (.outOfBounds "Token cannot be empty")
  else if tokenLimit < Text.byteCount text then .error (.outOfBounds "Token is too long")
  else .ok ()

end Admission
end AntiForgery
