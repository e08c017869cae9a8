import AntiForgery.Cipher.Envelope
import AntiForgery.Clock
import AntiForgery.Net.SocketAddress
import AntiForgery.Text.Blank
import AntiForgery.Text.Pieces

/-!
# Configuration

What the program is told by variables: named texts, any of which may be missing.  The variables are
read in a fixed order and the first fault ends the reading.  Only the secret has no default.
-/

namespace AntiForgery

/-- Where sessions and spent tokens are kept. -/
inductive Backend where
  /-- On a Redis server. -/
  | redis
  /-- In memory. -/
  | memory
  deriving DecidableEq, Repr

/-- What the program is told. -/
structure Config where
  /-- The address to listen on. -/
  bindAddress : Net.SocketAddress
  /-- Where sessions and spent tokens are kept. -/
  backend : Backend
  /-- Where the Redis server is. -/
  redisUrl : String
  /-- How many days a session lasts. -/
  sessionDays : Int64
  /-- The secret under which tokens are sealed. -/
  secret : List UInt8
  /-- How many seconds a token is good for. -/
  tokenWindow : Seconds
  /-- The origins from which browsers may call. -/
  origins : List String
  /-- Whether cookies travel over secure connections only. -/
  production : Bool
  deriving DecidableEq, Repr

namespace Config

/-- The value of each variable that is set. -/
abbrev Lookup := String → Option String

/-- Why the variables give no configuration. -/
inductive Error where
  /-- There is no secret. -/
  | secretMissing
  /-- The secret is not hexadecimal. -/
  | secretNotHex (fault : Hex.DecodeError)
  /-- The secret has a size that no cipher takes. -/
  | secretSize
  /-- The value of a variable is no integer. -/
  | notInteger (name : String) (fault : Integer.ParseError)
  /-- The value of a variable is not between one and a limit. -/
  | outOfRange (name : String) (limit : Int64)
  /-- There is no such place to keep records. -/
  | unknownBackend (name : String)
  /-- The address to listen on is no socket address. -/
  | badAddress
  deriving DecidableEq, Repr

namespace Error

/-- The wording of an error. -/
def message : Error → String
  | .secretMissing => "CSRF_SECRET must be set (generate with: openssl rand -hex 32)"
  | .secretNotHex _ => "CSRF_SECRET must be valid hexadecimal"
  | .secretSize => "CSRF_SECRET must be 16, 24 or 32 bytes (32, 48 or 64 hex characters)"
  | .notInteger name _ => "Invalid " ++ name
  | .outOfRange name limit => name ++ " must be between 1 and " ++ toString limit.toInt
  | .unknownBackend name => "Unknown STORE_BACKEND: " ++ name
  | .badAddress => "Invalid BIND_ADDR"

/-- What lies behind an error, the nearest cause first. -/
def causes : Error → List String
  | .secretNotHex fault => [fault.message]
  | .notInteger _ fault => [fault.message]
  | .badAddress => ["invalid socket address syntax"]
  | _ => []

end Error

/-- The longest time that a token may be good for: thirty days, in seconds. -/
def expireLimit : Int64 := 2592000

/-- The longest time that a session may last, in days. -/
def durationLimit : Int64 := 365

/-- The bytes of the secret. -/
def readSecret (lookup : Lookup) : Except Error (List UInt8) :=
  match lookup "CSRF_SECRET" with
  | none => .error .secretMissing
  | some text =>
      match Hex.decode (Text.utf8 (Text.trim text)) with
      | .error fault => .error (.secretNotHex fault)
      | .ok secret => if secret.length ∈ Cipher.secretSizes then .ok secret else .error .secretSize

/-- An integer between one and a limit, or a default. -/
def readInteger (lookup : Lookup) (name : String) (default limit : Int64) :
    Except Error Int64 :=
  match lookup name with
  | none => .ok default
  | some text =>
      match Integer.parse text with
      | .error fault => .error (.notInteger name fault)
      | .ok value =>
          if 1 ≤ value ∧ value ≤ limit then .ok value else .error (.outOfRange name limit)

/-- Where records are kept. -/
def readBackend (lookup : Lookup) : Except Error Backend :=
  match lookup "STORE_BACKEND" with
  | none => .ok .redis
  | some text =>
      let name := String.ofList (text.toList.map Char.toLower)
      if name = "redis" then .ok .redis
      else if name = "memory" then .ok .memory
      else .error (.unknownBackend name)

/-- The origins between commas, without white space around them and without empty ones. -/
def originsOf (text : String) : List String :=
  (((Text.pieces ',' text.toList).map Text.trimChars).filter (!·.isEmpty)).map String.ofList

/-- The origins from which browsers may call. -/
def readOrigins (lookup : Lookup) : List String :=
  originsOf ((lookup "ALLOWED_ORIGINS").getD "http://localhost:3000")

/-- The address to listen on. -/
def readAddress (lookup : Lookup) : Except Error Net.SocketAddress :=
  match Net.SocketAddress.parse? ((lookup "BIND_ADDR").getD "127.0.0.1:3000") with
  | none => .error .badAddress
  | some address => .ok address

/-- The configuration that the variables give. -/
def ofLookup (lookup : Lookup) : Except Error Config := do
  let secret ← readSecret lookup
  let tokenWindow ← readInteger lookup "CSRF_EXPIRE_SECONDS" 3600 expireLimit
  let sessionDays ← readInteger lookup "SESSION_DURATION_DAYS" 7 durationLimit
  let backend ← readBackend lookup
  let bindAddress ← readAddress lookup
  return {
    bindAddress
    backend
    redisUrl := (lookup "REDIS_URL").getD "redis://127.0.0.1:6379"
    sessionDays
    secret
    tokenWindow
    origins := readOrigins lookup
    production := lookup "APP_ENV" == some "production" }

end Config
end AntiForgery
