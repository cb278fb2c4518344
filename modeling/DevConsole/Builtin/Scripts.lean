import DevConsole.Command.Arguments
import DevConsole.Command.Batch

/-! # Running scripts

The command `exec` runs a script of the script directory as a batch.  Where there is no
directory yet it is made, and that is all.  A script may run scripts in turn, but no more
than `depthLimit` of them run at a time; one script more is refused before it is read.
-/
namespace DevConsole.Builtin

variable {Host Out : Type} [Sink Out]

/-- How many scripts run at a time at most. -/
def depthLimit : Nat := 16

/-- Makes the directory of scripts and says so. -/
def makeDirectory : Action Host Out Unit := do
  let env ← Action.get
  match env.scripts.create with
  | .error fault => .fail (.file fault)
  | .ok scripts =>
    Action.modify fun s => { s with scripts }
    Action.note .info ("Created exec directory " ++ scripts.path)
    Action.append "Exec folder not found, creating..." .lime

/-- The content of a script as text. -/
def source (e : ScriptDirectory.Entry) : Except Failure String :=
  match e.content with
  | .text source => .ok source
  | .undecodable => .error (.file .notText)
  | .unreadable => .error (.file .denied)
  | .directory => .error (.file .isDirectory)

/-- Only a text can be read. -/
theorem content_of_source {e : ScriptDirectory.Entry} {text : String} (h : source e = .ok text) :
    e.content = .text text := by
  unfold source at h
  split at h <;> cases h
  assumption

/-- Runs the script that goes by a name among the entries of the directory. -/
def runScript (interpreter : Interpreter Host Out) (entries : List ScriptDirectory.Entry)
    (name : String) : Action Host Out Unit := do
  let env ← Action.get
  match entries.find? (·.isScript name) with
  | none => .fail (.command (.scriptNotFound name))
  | some entry =>
    if depthLimit ≤ env.depth then
      .fail (.command (.scriptsTooDeep depthLimit))
    else
      let text ← Action.ofExcept (source entry)
      Action.emit [.opened (env.scripts.pathOf entry.name)]
      Action.deeper (Batch.run interpreter.execute text)

/-- Runs the script of a name. -/
def exec : Command Host Out where
  signature :=
    { name := "exec"
      parameters := [{ name := "file", kind := .string }]
      summary := some ("Executes all the commands in a .exec file.\n" ++
        ".exec files are stored in the exec directory.") }
  body interpreter arguments := do
    let name ← Action.ofExcept (Arguments.string arguments 0)
    let env ← Action.get
    match env.scripts.entries? with
    | none => makeDirectory
    | some entries => runScript interpreter entries name
    pure none

end DevConsole.Builtin
