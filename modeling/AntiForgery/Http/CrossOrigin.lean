import AntiForgery.Http.Router

/-!
# Calls from other origins

Which pages may call the service from a browser.  The answer to a browser that asks first, and the
headers of every other answer, follow from one list of origins; an origin is admitted if it is in
the list, byte for byte.
-/

namespace AntiForgery
namespace Http

/-- The origins that are admitted. -/
structure CrossOrigin where
  /-- The origins, none of which is a wildcard. -/
  origins : List String
  deriving DecidableEq, Repr

namespace CrossOrigin

/-- Why a list of origins makes no policy. -/
inductive Fault where
  /-- An origin holds a character that no header may hold. -/
  | notHeader
  /-- An origin stands for all of them, which a list must not hold. -/
  | wildcard
  deriving DecidableEq, Repr

/-- The policy of a list of origins.  A text that is no header is noticed before a wildcard. -/
def ofOrigins (origins : List String) : Except Fault CrossOrigin :=
  if !origins.all isHeaderValue then .error .notHeader
  else if origins.contains "*" then .error .wildcard
  else .ok ⟨origins⟩

/-- The origin that a request comes from, if it is admitted. -/
def admitted? (policy : CrossOrigin) (request : Request) : Option String :=
  match request.value? "origin" with
  | none => none
  | some value => policy.origins.find? fun origin => Text.utf8 origin == value

/-- The header that names the admitted origin. -/
def originHeaders (policy : CrossOrigin) (request : Request) : List (String × String) :=
  match policy.admitted? request with
  | none => []
  | some origin => [("access-control-allow-origin", origin)]

/-- The headers that every answer has. -/
def commonHeaders : List (String × String) :=
  [("vary", "origin, access-control-request-method, access-control-request-headers"),
    ("access-control-allow-credentials", "true")]

/-- The methods that a page may use. -/
def methods : List String := ["GET", "POST", "PUT", "DELETE", "PATCH", "OPTIONS"]

/-- The headers that a page may set. -/
def requestHeaders : List String :=
  ["content-type", "authorization", "accept", "cookie", Gate.tokenHeader]

/-- How long a browser may keep the answer to its question, in seconds. -/
def maxAge : Nat := 86400

/-- The answer to a browser that asks what it may do. -/
def permission (policy : CrossOrigin) (request : Request) : Response where
  status := 200
  headers := commonHeaders ++ policy.originHeaders request ++
    [("access-control-allow-methods", String.intercalate "," methods),
      ("access-control-allow-headers", String.intercalate "," requestHeaders),
      ("access-control-max-age", toString maxAge)]
  body := []

/-- An answer with the headers that let a page read it. -/
def expose (policy : CrossOrigin) (request : Request) (response : Response) : Response :=
  { response with
    headers := response.headers ++ commonHeaders ++ policy.originHeaders request ++
      [("access-control-expose-headers", Gate.tokenHeader)] }

/-- Answers a request under the policy: the question what is allowed by the policy itself, and any
other request by the service. -/
def handle (policy : CrossOrigin) (service : Service) (request : Request) : Action Response :=
  if request.method == "OPTIONS" then return policy.permission request
  else do
    let response ← Http.handle service request
    return policy.expose request response

end CrossOrigin
end Http
end AntiForgery
