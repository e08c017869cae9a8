/-!
# The journal

What the program tells its operator while it works: lines of text, each with its weight.
-/

namespace AntiForgery
namespace Journal

/-- How much a line matters. -/
inductive Level where
  /-- Of interest to developers. -/
  | debug
  /-- Normal operation. -/
  | info
  /-- Something was refused. -/
  | warn
  /-- Something failed. -/
  | error
  deriving DecidableEq, Repr

/-- The name of a level. -/
def Level.name : Level → String
  | .debug => "DEBUG"
  | .info => "INFO"
  | .warn => "WARN"
  | .error => "ERROR"

/-- A line of the journal. -/
structure Line where
  /-- How much it matters. -/
  level : Level
  /-- What it says. -/
  message : String
  deriving DecidableEq, Repr

/-- A line as it is shown: its level, a blank, and what it says. -/
def Line.text (line : Line) : String :=
  line.level.name ++ " " ++ line.message

end Journal
end AntiForgery
