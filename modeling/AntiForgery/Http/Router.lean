import AntiForgery.Http.Endpoint

/-!
# The router

From a request to its answer: the path chooses the endpoint, and the method has to be one that the
endpoint takes.  The gates of a guarded endpoint are passed first, also with a method that it does
not take, so a client without a session learns nothing about it.
-/

namespace AntiForgery
namespace Http

/-- What a path leads to. -/
inductive Route where
  /-- An endpoint that is open to every client. -/
  | free (endpoint : PublicEndpoint)
  /-- An endpoint behind the gates. -/
  | guarded (endpoint : GuardedEndpoint)
  deriving DecidableEq, Repr

namespace Route

/-- The path of each endpoint. -/
def table : List (String × Route) :=
  [("/api/csrf/create", .free .create),
    ("/api/csrf/check", .free .check),
    ("/api/session", .free .start),
    ("/api/csrf", .guarded .issue),
    ("/api/session/logout", .guarded .finish)]

/-- What a path leads to, if anything. -/
def ofPath? (path : String) : Option Route :=
  (table.find? (·.1 == path)).map (·.2)

/-- The methods that the endpoint takes. -/
def methods : Route → List String
  | .free endpoint => endpoint.methods
  | .guarded endpoint => endpoint.methods

/-- What is behind the gates of a guarded endpoint: the endpoint, if the method is right. -/
def serveGuarded (request : Request) (endpoint : GuardedEndpoint) (id : Session.Id) :
    Action Response :=
  if endpoint.methods.contains request.method then endpoint.serve id
  else return .bare 405

/-- The answer of an endpoint behind what stands in front of it. -/
def serve (service : Service) (request : Request) : Route → Action Response
  | .free endpoint =>
      if endpoint.methods.contains request.method then endpoint.serve service request
      else return .bare 405
  | .guarded endpoint =>
      Gate.session request fun id =>
        Gate.token service id request (serveGuarded request endpoint id)

/-- Adds the methods that would be right to the answer to a method that is not. -/
def noteMethods (route : Route) (method : String) (response : Response) : Response :=
  if route.methods.contains method then response
  else response.withHeader "allow" (String.intercalate "," route.methods)

end Route

/-- Answers a request.  An answer to `HEAD` has no body. -/
def handle (service : Service) (request : Request) : Action Response := do
  let response ←
    match Route.ofPath? request.path with
    | none => pure (.bare 404)
    | some route => do
        let response ← route.serve service request
        pure (route.noteMethods request.method response)
  return if request.method == "HEAD" then response.withoutBody else response

end Http
end AntiForgery
