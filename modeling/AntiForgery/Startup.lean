import AntiForgery.Redis.Address
import AntiForgery.Server

/-!
# Starting up

From variables to a server that only has to be bound to its address, or the first reason why there
is none.  A reason has a wording and, behind it, the wordings of what caused it.
-/

namespace AntiForgery
namespace Startup

/-- Why the program does not start. -/
inductive Fault where
  /-- The variables give no configuration. -/
  | config (error : Config.Error)
  /-- The address of the store is no good. -/
  | store (fault : Redis.AddressFault)
  /-- The server cannot be set up. -/
  | server (fault : Server.Fault)
  /-- The address to listen on is taken. -/
  | addressInUse
  deriving DecidableEq, Repr

namespace Fault

/-- The wording of a fault. -/
def message : Fault → String
  | .config error => error.message
  | .store fault => fault.failure.message
  | .server (.secret error) => error.message
  | .server (.origins .notHeader) => "failed to parse header value"
  | .server (.origins .wildcard) => "A list of origins cannot hold the wildcard origin"
  | .addressInUse => "Address already in use (os error 98)"

/-- What lies behind a fault, the nearest cause first. -/
def causes : Fault → List String
  | .config error => error.causes
  | .store fault => [fault.message]
  | .server _ => []
  | .addressInUse => []

end Fault

/-- What is wrong with the place where records are to be kept, if that shows in advance. -/
def checkStore (config : Config) : Except Fault Unit :=
  match config.backend with
  | .memory => .ok ()
  | .redis => (Redis.Address.check config.redisUrl).mapError .store

/-- Sets up the server that variables describe; `isTaken` says which addresses are taken. -/
def prepare (lookup : Config.Lookup) (isTaken : Net.SocketAddress → Bool) :
    Action (Except Fault (Config × Server)) := do
  match Config.ofLookup lookup with
  | .error error => return .error (.config error)
  | .ok config =>
      match checkStore config with
      | .error fault => return .error fault
      | .ok () =>
          match ← Server.setUp config with
          | .error fault => return .error (.server fault)
          | .ok server =>
              if isTaken config.bindAddress then return .error .addressInUse
              else return .ok (config, server)

end Startup
end AntiForgery
