import DevConsole.Binary32.Basic
import DevConsole.Color
import DevConsole.Note
import DevConsole.ScriptDirectory
import DevConsole.Text.Lines

/-! # The environment of commands

The *surroundings* of a command are what it may look at and change: the debug overlays, the
tooltip, the requests to the host, the directory of scripts, the number of scripts that are
running, and the state of the host itself.  Its output is not among them: a command adds to
it and clears it, but cannot look at it.

Where output goes is left open.  A *sink* takes text in a color and keeps it as lines, one
for each piece between newlines (`lines_append`); a sink may also note each line that
it takes.  A *transcript* is the plainest sink: the lines and nothing else.
-/
namespace DevConsole

/-- A line of output. -/
structure Line where
  text : String
  color : Color
deriving DecidableEq

/-- The lines that a text in a color makes. -/
def Line.ofText (text : String) (color : Color) : List Line :=
  (Text.pieces text).map fun piece => ⟨piece, color⟩

/-- A destination of output: it keeps lines in the order in which they came. -/
class Sink (Out : Type) where
  lines : Out → List Line
  append : String → Color → Out → Out
  clear : Out → Out
  echo : String → List Note
  lines_append : ∀ text color out,
    lines (append text color out) = lines out ++ Line.ofText text color
  lines_clear : ∀ out, lines (clear out) = []

/-- Lines of output and nothing else. -/
structure Transcript where
  lines : Array Line := #[]

instance : Sink Transcript where
  lines out := out.lines.toList
  append text color out := ⟨out.lines ++ Line.ofText text color⟩
  clear _ := ⟨#[]⟩
  echo _ := []
  lines_append _ _ _ := by simp
  lines_clear _ := rfl

/-- What the host may draw over the picture. -/
structure Overlays where
  colliders : Bool := false
  fps : Bool := false
deriving DecidableEq

/-- A text at the bottom of the screen and the seconds it has left. -/
structure Tooltip where
  text : String
  remaining : Binary32
deriving DecidableEq

/-- The tooltip after `dt` seconds. -/
def Tooltip.elapse (dt : Binary32) (t : Tooltip) : Tooltip :=
  { t with remaining := t.remaining - dt }

/-- Whether the tooltip has time left. -/
def Tooltip.isAlive (t : Tooltip) : Bool := Binary32.zero.lt t.remaining

/-- A request to the host. -/
inductive Signal where
  | quit
  | reloadResources
deriving DecidableEq

/-- What commands look at and change. -/
structure Surroundings (Host : Type) where
  /-- What the host may draw over the picture. -/
  overlays : Overlays := {}
  /-- The text at the bottom of the screen, if there is one. -/
  tooltip : Option Tooltip := none
  /-- The requests that the host has not seen yet, in order. -/
  signals : List Signal := []
  /-- The directory of scripts. -/
  scripts : ScriptDirectory
  /-- The number of scripts that are running. -/
  depth : Nat := 0
  /-- The state of the host. -/
  host : Host

/-- The surroundings of commands and the destination of their output. -/
structure Environment (Host Out : Type) extends Surroundings Host where
  /-- Where output goes. -/
  out : Out

end DevConsole
