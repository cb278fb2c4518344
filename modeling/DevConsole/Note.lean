/-! # Notes

Besides its output, which the user sees, the console keeps notes of what it does for
whoever looks after the host.  A note has a level and a text.
-/
namespace DevConsole

/-- How much a note matters, from faults down to traces of every output line. -/
inductive Level where
  | error
  | warn
  | info
  | debug
  | trace
deriving DecidableEq

/-- The name of a level. -/
def Level.name : Level → String
  | error => "ERROR"
  | warn => "WARN"
  | info => "INFO"
  | debug => "DEBUG"
  | trace => "TRACE"

/-- Whether notes of the level are shown without being asked for. -/
def Level.isShown : Level → Bool
  | error | warn | info => true
  | debug | trace => false

/-- A note for whoever looks after the host. -/
structure Note where
  level : Level
  text : String
deriving DecidableEq

end DevConsole
