import AntiForgery.Config
import AntiForgery.Http.CrossOrigin

/-!
# The server

The service behind its cross-origin policy, as the configuration describes it.
-/

namespace AntiForgery

/-- The service and the policy in front of it. -/
structure Server where
  /-- The service. -/
  service : Service
  /-- Which pages may call it. -/
  policy : Http.CrossOrigin
  deriving DecidableEq, Repr

namespace Server

/-- Why a server cannot be set up. -/
inductive Fault where
  /-- The secret keys no cipher. -/
  | secret (error : Token.Error)
  /-- The origins make no policy. -/
  | origins (fault : Http.CrossOrigin.Fault)
  deriving DecidableEq, Repr

/-- Sets up the service of a configuration. -/
def serviceOf (config : Config) : Action (Except Token.Error Service) :=
  Service.setUp config.secret config.tokenWindow
    ⟨config.sessionDays, config.production⟩

/-- Sets up the server of a configuration. -/
def setUp (config : Config) : Action (Except Fault Server) := do
  match ← serviceOf config with
  | .error error => return .error (.secret error)
  | .ok service =>
      match Http.CrossOrigin.ofOrigins config.origins with
      | .error fault => return .error (.origins fault)
      | .ok policy => return .ok ⟨service, policy⟩

/-- Answers a request. -/
def handle (server : Server) (request : Http.Request) : Action Http.Response :=
  server.policy.handle server.service request

end Server
end AntiForgery
