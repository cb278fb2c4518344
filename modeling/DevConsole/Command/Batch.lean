import DevConsole.Command.Registry
import DevConsole.Text.Blank

/-! # Batches

A batch is a text of command lines.  Lines lose their outer blanks; those that are then
empty or start with `//` are comments.  The others are executed in order, and the first
that fails stops the batch: the failure then carries the number of its line, counted from
one over all lines.  Nothing that ran before is undone.
-/
namespace DevConsole.Batch

variable {Host Out : Type}

/-- Whether a line, without its outer blanks, is not executed. -/
def isComment (line : String) : Bool := line.isEmpty || Text.begins "//" line

/-- The lines of a text with their numbers, counted from one. -/
def numbered (source : String) : List (Nat × String) :=
  (Text.lines source).mapIdx fun i line => (i + 1, Text.trim line)

/-- The lines that are executed, with their numbers. -/
def effective (source : String) : List (Nat × String) :=
  (numbered source).filter fun l => !isComment l.2

/-- Executes numbered lines up to the first that fails. -/
def runLines (execute : String → Action Host Out (Option Value)) :
    List (Nat × String) → Action Host Out Unit
  | [] => pure ()
  | (number, line) :: rest => do
    let _ ← (execute line).mapFailure (.batch number)
    runLines execute rest

/-- Executes the lines of a text. -/
def run (execute : String → Action Host Out (Option Value)) (source : String) :
    Action Host Out Unit :=
  runLines execute (effective source)

end DevConsole.Batch
