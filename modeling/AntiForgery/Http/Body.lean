import AntiForgery.Http.MediaType
import AntiForgery.Http.Request
import AntiForgery.Http.Response
import AntiForgery.Json.Record

/-!
# Bodies in JSON

Reading the record that the body of a request holds.  The kind of the body is looked at first, then
its size, and then what it holds; the first fault decides the status.
-/

namespace AntiForgery
namespace Http
namespace Body

/-- The most bytes that a body may have. -/
def limit : Nat := 2097152

/-- Why the body of a request gives no record. -/
inductive Fault where
  /-- The body is not said to be JSON. -/
  | mediaType
  /-- The body is too long. -/
  | size
  /-- The body is not what was asked for. -/
  | content (fault : Json.Fault)
  deriving DecidableEq, Repr

/-- The status code of a fault. -/
def Fault.status : Fault → Nat
  | .mediaType => 415
  | .size => 413
  | .content .malformed => 400
  | .content .mismatch => 422

/-- The answer that a fault gives. -/
def Fault.response (fault : Fault) : Response := .prose fault.status

/-- Whether a request says that its body is JSON. -/
def isJson (request : Request) : Bool :=
  match request.value? "content-type" with
  | none => false
  | some value => value.all isVisible && MediaType.isJson value

/-- The record in the body of a request. -/
def read (first : Json.Field α) (second : Json.Field β) (request : Request) :
    Except Fault (α × β) :=
  if !isJson request then .error .mediaType
  else if limit < request.body.length then .error .size
  else
    match Json.readRecord first second request.body with
    | .error fault => .error (.content fault)
    | .ok record => .ok record

/-- The field of a session id. -/
def sessionField : Json.Field String := ⟨"session_id", Json.readText, none⟩

/-- The field of a token. -/
def tokenField : Json.Field String := ⟨"token", Json.readText, none⟩

/-- The field of a time of issue, which may be left out. -/
def issuedField : Json.Field (Option Int64) := ⟨"timestamp", Json.readOptionalInteger, some none⟩

end Body
end Http
end AntiForgery
