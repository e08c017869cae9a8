import AntiForgery.Json.Quoted
import AntiForgery.Refusal
import AntiForgery.World

/-!
# Answers

An answer to a request, and the answers that refusals give.  A refusal is written into the journal
in full, while the client sees its status and its public wording only.
-/

namespace AntiForgery
namespace Http

/-- An answer. -/
structure Response where
  /-- The status code. -/
  status : Nat
  /-- The headers: names in lower case, and values. -/
  headers : List (String × String)
  /-- The bytes of the body. -/
  body : List UInt8
  deriving DecidableEq, Repr

/-- Whether a byte may stand in the value of a header. -/
def isHeaderByte (byte : UInt8) : Bool :=
  (0x20 ≤ byte && byte != 0x7F) || byte == 0x09

/-- Whether a text may be the value of a header. -/
def isHeaderValue (text : String) : Bool :=
  (Text.utf8 text).all isHeaderByte

namespace Response

/-- The answer without headers and body. -/
def bare (status : Nat) : Response := ⟨status, [], []⟩

/-- An answer with a body in JSON. -/
def json (status : Nat) (body : List UInt8) : Response :=
  ⟨status, [("content-type", "application/json")], body⟩

/-- An answer in prose.  Its wording is for the reader alone and is left out. -/
def prose (status : Nat) : Response :=
  ⟨status, [("content-type", "text/plain; charset=utf-8")], []⟩

/-- The answer with one more header. -/
def withHeader (name value : String) (response : Response) : Response :=
  { response with headers := response.headers ++ [(name, value)] }

/-- The answer without its body. -/
def withoutBody (response : Response) : Response :=
  { response with body := [] }

/-- The object with one member. -/
def member (name : String) (value : List UInt8) : List UInt8 :=
  Text.utf8 "\x7b" ++ Json.quote name ++ Text.utf8 ":" ++ value ++ Text.utf8 "\x7d"

/-- The object that says that something went well. -/
def success (note : String) : List UInt8 :=
  Text.utf8 "\x7b\"success\":true,\"message\":" ++ Json.quote note ++ Text.utf8 "\x7d"

end Response

/-- The status code of a refusal. -/
def refusalStatus : Refusal → Nat
  | .store _ => 500
  | .unidentified _ => 401
  | .forbidden => 403
  | .outOfBounds _ => 400
  | .encryption _ => 500
  | .internal _ => 500

/-- What the journal says about a refusal. -/
def refusalLine : Refusal → Journal.Line
  | .store failure => ⟨.error, "Store error: " ++ failure.message⟩
  | .unidentified reason => ⟨.warn, "Authentication failed: " ++ reason⟩
  | .forbidden => ⟨.warn, "Authorization failed"⟩
  | .outOfBounds reason => ⟨.debug, "Validation error: " ++ reason⟩
  | .encryption report => ⟨.error, "Encryption error: " ++ report⟩
  | .internal report => ⟨.error, "Internal error: " ++ report⟩

/-- The answer that a refusal gives. -/
def refusalResponse (refusal : Refusal) : Response :=
  .json (refusalStatus refusal) (Response.member "error" (Json.quote refusal.publicMessage))

/-- Refuses a request. -/
def refuse (refusal : Refusal) : Action Response := do
  Action.log (refusalLine refusal).level (refusalLine refusal).message
  return refusalResponse refusal

end Http
end AntiForgery
