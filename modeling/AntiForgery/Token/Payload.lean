import AntiForgery.Clock
import AntiForgery.Json.Record

/-!
# Payloads

What a token says under its seal: the session that it was issued to, and when.  It is written as an
object of two members and read as a record of two fields.
-/

namespace AntiForgery
namespace Token

/-- What a token says. -/
structure Payload where
  /-- The session that the token was issued to. -/
  session : String
  /-- When it was issued. -/
  issued : Seconds
  deriving DecidableEq, Repr

namespace Payload

/-- The field of the session. -/
def sessionField : Json.Field String := ⟨"session_id", Json.readText, none⟩

/-- The field of the time of issue. -/
def issuedField : Json.Field Seconds := ⟨"timestamp", Json.readInteger, none⟩

/-- The bytes of a payload. -/
def encode (payload : Payload) : List UInt8 :=
  Text.utf8 "\x7b\"session_id\":" ++ Json.quote payload.session ++
    Text.utf8 ",\"timestamp\":" ++ Integer.digits payload.issued.toInt ++ Text.utf8 "\x7d"

/-- The payload that bytes spell.  They have to be a text throughout. -/
def decode? (bytes : List UInt8) : Option Payload :=
  if (Text.ofUtf8? bytes).isNone then none
  else
    match Json.readRecord sessionField issuedField bytes with
    | .error _ => none
    | .ok (session, issued) => some ⟨session, issued⟩

end Payload
end Token
end AntiForgery
