import AntiForgery.Http.Body
import AntiForgery.Http.Gate

/-!
# Endpoints

What each path of the service does, once a request has passed what stands in front of it.
-/

namespace AntiForgery
namespace Http

/-- What is open to every client. -/
inductive PublicEndpoint where
  /-- Issues a token for a session id in the body. -/
  | create
  /-- Checks a token for a session id in the body, and spends it. -/
  | check
  /-- Starts a session. -/
  | start
  deriving DecidableEq, Repr

/-- What is open to live sessions only. -/
inductive GuardedEndpoint where
  /-- Does nothing; the gate in front of it adds a token. -/
  | issue
  /-- Ends the session. -/
  | finish
  deriving DecidableEq, Repr

/-- Issues a token for a session id in the body. -/
def createToken (service : Service) (request : Request) : Action Response := do
  match Body.read Body.sessionField Body.issuedField request with
  | .error fault => return fault.response
  | .ok (session, issued) =>
      match Admission.sessionId session with
      | .error refusal => refuse refusal
      | .ok () =>
          match ← Token.issue service.engine session (issued.getD (← Action.now)) with
          | .error refusal => refuse refusal
          | .ok token => return .json 200 (Response.member "token" (Json.quote token))

/-- The word for a truth value. -/
def truthWord (value : Bool) : List UInt8 :=
  Text.utf8 (if value then "true" else "false")

/-- The answer to a check. -/
def verdict (valid : Bool) : Response :=
  .json 200 (Response.member "valid" (truthWord valid))

/-- Whether a session id and a token may reach the engine. -/
def isAdmitted (session token : String) : Bool :=
  (Admission.sessionId session).isOk && (Admission.token token).isOk

/-- Checks a token for a session id in the body, and spends it. -/
def checkToken (service : Service) (request : Request) : Action Response := do
  match Body.read Body.sessionField Body.tokenField request with
  | .error fault => return fault.response
  | .ok (session, token) =>
      if isAdmitted session token then
        match ← Token.redeem service.engine session token with
        | .error refusal => refuse refusal
        | .ok valid => return verdict valid
      else
        Action.log .debug "CSRF check rejected at the boundary (bad session id or token size)"
        return verdict false

/-- Starts a session and gives the client its id in a cookie. -/
def startSession (service : Service) : Action Response := do
  match ← Session.start service.session.lifetime with
  | .error refusal => refuse refusal
  | .ok id =>
      Action.log .info ("✅ Session cookie added: session_id=" ++ id.text)
      return (Response.json 201 (Response.success "Session started")).withHeader "set-cookie"
        (Cookie.grant id service.session)

/-- Says that a token was issued; the gate adds it. -/
def issueToken : Action Response :=
  return .json 200 (Response.success "CSRF token issued")

/-- Ends a session and takes its cookie away. -/
def endSession (id : Session.Id) : Action Response := do
  match ← Session.finish id with
  | .error refusal => refuse refusal
  | .ok () =>
      return (Response.json 200 (Response.success "Session ended")).withHeader "set-cookie"
        (Cookie.revoke (← Action.now))

namespace PublicEndpoint

/-- What the endpoint does. -/
def serve (service : Service) (request : Request) : PublicEndpoint → Action Response
  | .create => createToken service request
  | .check => checkToken service request
  | .start => startSession service

/-- The methods that the endpoint takes. -/
def methods : PublicEndpoint → List String
  | _ => ["POST"]

end PublicEndpoint

namespace GuardedEndpoint

/-- What the endpoint does for a session. -/
def serve (id : Session.Id) : GuardedEndpoint → Action Response
  | .issue => issueToken
  | .finish => endSession id

/-- The methods that the endpoint takes. -/
def methods : GuardedEndpoint → List String
  | .issue => ["GET", "HEAD"]
  | .finish => ["POST"]

end GuardedEndpoint
end Http
end AntiForgery
