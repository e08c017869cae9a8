import AntiForgery.Admission
import AntiForgery.Http.Cookie
import AntiForgery.Http.Response
import AntiForgery.Service
import AntiForgery.Session.Register

/-!
# Gates

What stands in front of the protected endpoints.  The first gate lets a request pass that belongs to
a live session.  The second gate asks a request that may change something for a token of that
session, which is spent at once, and gives a request that changes nothing a fresh token to take
along.
-/

namespace AntiForgery
namespace Http
namespace Gate

/-- The header that carries tokens both ways. -/
def tokenHeader : String := "x-csrf-token"

/-- Whether a method changes nothing. -/
def isSafe (method : String) : Bool :=
  method == "GET" || method == "HEAD" || method == "OPTIONS"

/-- Lets a request of a live session pass, and tells what follows which session it is. -/
def session (request : Request) (inner : Session.Id → Action Response) : Action Response := do
  Action.log .debug "🔐 Checking session..."
  match Cookie.session? request with
  | none =>
      Action.log .warn "❌ No session_id cookie found"
      return .bare 403
  | some id =>
      match ← Session.isLive id with
      | .error refusal =>
          Action.log .error ("❌ Session lookup failed: " ++ refusal.message)
          return .bare 500
      | .ok false =>
          Action.log .warn ("❌ Session expired or unknown: " ++ id.text)
          return .bare 403
      | .ok true =>
          Action.log .debug ("✅ Session valid: " ++ id.text)
          inner id

/-- Adds a fresh token to an answer, if the token can be the value of a header. -/
def attachToken (service : Service) (id : Session.Id) (response : Response) :
    Action Response := do
  match ← Token.issue service.engine id.text (← Action.now) with
  | .error refusal => refuse refusal
  | .ok token =>
      if isHeaderValue token then return response.withHeader tokenHeader token
      else refuse (.internal "CSRF header encoding failed: failed to parse header value")

/-- The token that a request carries, if its header is there and visible. -/
def presentedToken (request : Request) : Action (Except Refusal String) := do
  match request.value? tokenHeader with
  | none =>
      Action.log .warn "❌ CSRF: Header x-csrf-token não encontrado"
      return .error (.unidentified "Missing CSRF token header")
  | some value =>
      match visibleText? value with
      | none =>
          Action.log .warn "❌ CSRF: Header com formato inválido"
          return .error (.unidentified "Invalid CSRF token format")
      | some token => return .ok token

/-- Lets a request pass that carries a good token for its session, and spends the token. -/
def demandToken (service : Service) (id : Session.Id) (request : Request)
    (inner : Action Response) : Action Response := do
  match ← presentedToken request with
  | .error refusal => refuse refusal
  | .ok token =>
      match Admission.token token with
      | .error _ =>
          Action.log .warn "❌ CSRF: token vazio ou grande demais"
          refuse .forbidden
      | .ok () =>
          match ← Token.redeem service.engine id.text token with
          | .error refusal => refuse refusal
          | .ok false => refuse .forbidden
          | .ok true => inner

/-- Deals with the token of a request: asks for one, or adds one to the answer. -/
def token (service : Service) (id : Session.Id) (request : Request) (inner : Action Response) :
    Action Response := do
  if isSafe request.method then
    let response ← inner
    attachToken service id response
  else demandToken service id request inner

end Gate
end Http
end AntiForgery
