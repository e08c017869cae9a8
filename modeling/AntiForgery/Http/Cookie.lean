import AntiForgery.Http.Date
import AntiForgery.Http.Request
import AntiForgery.Session.Id
import AntiForgery.Session.Settings
import AntiForgery.Text.Blank
import AntiForgery.Text.Percent
import AntiForgery.Text.Pieces

/-!
# Cookies

Reading the cookies of a request and writing the one that the service sets.  A cookie is a name and
a value around the first equals sign; both lose the white space around them and then their percent
signs.  Of two cookies with one name the later one counts.
-/

namespace AntiForgery
namespace Http

/-- A cookie of a request. -/
structure Cookie where
  /-- The name. -/
  name : String
  /-- The value. -/
  value : String
  deriving DecidableEq, Repr

namespace Cookie

/-- A name or a value as it is meant: without white space at its ends and without percent signs. -/
def plain? (chars : List Char) : Option String :=
  Text.ofUtf8? (Text.percentDecode (Text.utf8 (String.ofList (Text.trimChars chars))))

/-- The cookie that a piece of the header spells. -/
def ofChars? (chars : List Char) : Option Cookie :=
  match chars.dropWhile (· != '=') with
  | [] => none
  | _ :: value =>
      let name := chars.takeWhile (· != '=')
      if (Text.trimChars name).isEmpty then none
      else
        match plain? name, plain? value with
        | some name, some value => some ⟨name, value⟩
        | _, _ => none

/-- The cookies of a header's value; a value that is no text has none. -/
def ofHeader (value : List UInt8) : List Cookie :=
  match Text.ofUtf8? value with
  | none => []
  | some text => (Text.pieces ';' text.toList).filterMap ofChars?

/-- The cookies of a request in order. -/
def ofRequest (request : Request) : List Cookie :=
  (request.values "cookie").flatMap ofHeader

/-- The name of the cookie that holds the session id. -/
def sessionName : String := "session_id"

/-- The value of the last cookie with a name. -/
def find? (name : String) (cookies : List Cookie) : Option String :=
  (cookies.reverse.find? (·.name == name)).map (·.value)

/-- The session that a request claims to belong to. -/
def session? (request : Request) : Option Session.Id :=
  (find? sessionName (ofRequest request)).bind Session.Id.parse?

/-- The header that gives a client its session id. -/
def grant (id : Session.Id) (settings : Session.Settings) : String :=
  sessionName ++ "=" ++ id.text ++ "; HttpOnly; SameSite=Lax; " ++
    (if settings.secureCookies then "Secure; " else "") ++
    "Path=/; Max-Age=" ++ toString settings.lifetime

/-- How far in the past a cookie ends that is taken away: a year, in seconds. -/
def pastSeconds : Int := 365 * 86400

/-- The header that takes the session id away. -/
def revoke (wall : Seconds) : String :=
  sessionName ++ "=; Path=/; Max-Age=0; Expires=" ++ Date.header (wall.toInt - pastSeconds)

end Cookie
end Http
end AntiForgery
