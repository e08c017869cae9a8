import AntiForgery.Startup

/-!
# The program

Reads the variables of the environment and reports whether a server could be started with them.
-/

namespace AntiForgery
namespace Main

/-- The variables that the program reads. -/
def variableNames : List String :=
  ["CSRF_SECRET", "CSRF_EXPIRE_SECONDS", "SESSION_DURATION_DAYS", "STORE_BACKEND",
    "ALLOWED_ORIGINS", "BIND_ADDR", "REDIS_URL", "APP_ENV"]

/-- The lines that tell why the program does not start. -/
def report (fault : Startup.Fault) : List String :=
  ("Error: " ++ fault.message) ::
    (if fault.causes.isEmpty then [] else "" :: "Caused by:" :: fault.causes.map ("    " ++ ·))

/-- The values of the variables that are set. -/
def environment : IO (List (String × String)) :=
  variableNames.filterMapM fun name => do
    match ← IO.getEnv name with
    | none => return none
    | some value => return some (name, value)

end Main
end AntiForgery

/-- Starts up, and reports why it cannot or what it would listen on. -/
def main : IO UInt32 := do
  let values ← AntiForgery.Main.environment
  let world : AntiForgery.World := ⟨.new .sound, 0, .ofList [], []⟩
  let (outcome, world) :=
    (AntiForgery.Startup.prepare (fun name => values.lookup name) fun _ => false).run world
  for line in world.journal do
    IO.println line.text
  match outcome with
  | .error fault =>
      for line in AntiForgery.Main.report fault do
        IO.eprintln line
      return 1
  | .ok (config, _) =>
      IO.println ("Ready for http://" ++ config.bindAddress.text)
      return 0
