import DevConsole.Command.Coercion
import DevConsole.Command.Registry
import DevConsole.Command.Tokens
import DevConsole.Text.Quoted

/-! # Dispatch

From a line to the command that runs.  A command is a *candidate* for a line when its
name begins the line, both in upper case and the line without outer blanks.  Candidates
are tried in the order of their registration, and the first one that the tokens of the
line fit is *selected*.  `Registry.resolve` says which that is without running anything;
`Registry.execute` runs it.

The body of a command may execute further lines.  `Registry.dispatch` is one level of that: the
command of the line runs, and the lines that it executes are left to somebody else.
`Registry.nest` stacks such levels.  Lines nest at most `nestingLimit` deep, so execution
always ends.
-/
namespace DevConsole

/-- What a line resolves to. -/
inductive Resolution (Host Out : Type) where
  | unknown (name : String)
  | unmatched (name : String)
  | selected (command : Command Host Out) (arguments : List Value)

namespace Registry

variable {Host Out : Type}

/-! ## Candidates -/

/-- The form of a line in which names are looked for. -/
def normalize (line : String) : String := Text.upper (Text.trim line)

/-- Whether the name of a signature begins a normalized line. -/
def answers (s : Signature) (normalized : String) : Bool :=
  Text.begins (Text.upper s.name) normalized

/-- The commands whose names begin a line, in the order of their registration. -/
def candidates (r : Registry Host Out) (line : String) : List (Command Host Out) :=
  let normalized := normalize line
  r.commands.filter fun c => answers c.signature normalized

/-- The first word of a line, as failures name it. -/
def commandName (line : String) : String :=
  String.ofList ((normalize line).toList.takeWhile (· != ' '))

/-! ## Resolution -/

/-- The first command that the tokens fit, with its arguments. -/
def firstBound? (catalogue : Catalogue) (tokens : List String) :
    List (Command Host Out) → Option (Command Host Out × List Value)
  | [] => none
  | c :: cs =>
    match c.signature.bind catalogue tokens with
    | .bound arguments => some (c, arguments)
    | _ => firstBound? catalogue tokens cs

/-- The note on a token that did not fit. -/
def rejectionNote (s : Signature) (why : Rejection) : Note :=
  ⟨.debug, s.usage ++ " rejected: " ++ Text.quoted why.token ++ " for <" ++ why.parameter.name ++
    "> is " ++ why.mismatch.message⟩

/-- The notes on the commands before the first one that the tokens fit. -/
def rejectionNotes (catalogue : Catalogue) (tokens : List String) :
    List (Command Host Out) → List Note
  | [] => []
  | c :: cs =>
    match c.signature.bind catalogue tokens with
    | .bound _ => []
    | .rejected why => rejectionNote c.signature why :: rejectionNotes catalogue tokens cs
    | .arity => rejectionNotes catalogue tokens cs

/-- The tokens of a line without its outer blanks. -/
def tokens (line : String) : List String := Tokens.ofLine (Text.trim line)

/-- What a line resolves to.  The candidates are looked up by the normalized line, which the
look-up normalizes once more. -/
def resolve (r : Registry Host Out) (line : String) : Resolution Host Out :=
  match r.candidates (normalize line) with
  | [] => .unknown (commandName line)
  | candidates =>
    match firstBound? r.catalogue (tokens line) candidates with
    | some (command, arguments) => .selected command arguments
    | none => .unmatched (commandName line)

/-- The notes on the candidates that are tried in vain for a line. -/
def rejections (r : Registry Host Out) (line : String) : List Note :=
  rejectionNotes r.catalogue (tokens line) (r.candidates (normalize line))

/-! ## Execution -/

/-- How deep lines that execute lines may nest. -/
def nestingLimit : Nat := 10000

/-- Runs the command of a line; lines that the command executes go to `execute`. -/
def dispatch (r : Registry Host Out) (execute : String → Action Host Out (Option Value))
    (line : String) : Action Host Out (Option Value) := do
  Action.notes (r.rejections line)
  match r.resolve line with
  | .unknown name => .fail (.commandNotFound name)
  | .unmatched name => .fail (.noMatchingOverload name)
  | .selected command arguments =>
    Action.announce command.signature arguments
    command.body ⟨r.catalogue, execute⟩ arguments

/-- Dispatches lines that nest up to `levels` deep; lines inside them go to `execute`. -/
def nest (r : Registry Host Out) (execute : String → Action Host Out (Option Value)) :
    Nat → String → Action Host Out (Option Value)
  | 0 => execute
  | levels + 1 => r.dispatch (nest r execute levels)

/-- Refuses a line that is nested too deeply. -/
def refuse (_ : String) : Action Host Out (Option Value) := .fail (.nestedTooDeeply nestingLimit)

/-- Executes a line. -/
def execute (r : Registry Host Out) (line : String) : Action Host Out (Option Value) :=
  r.nest refuse nestingLimit line

/-- What the body of the command of a line may know and call. -/
def interpreter (r : Registry Host Out) : Interpreter Host Out :=
  ⟨r.catalogue, r.nest refuse (nestingLimit - 1)⟩

theorem execute_eq_dispatch (r : Registry Host Out) (line : String) :
    r.execute line = r.dispatch r.interpreter.execute line := rfl

/-! ## What dispatching a line does -/

section Dispatch

variable {r : Registry Host Out} {execute : String → Action Host Out (Option Value)}
  {line : String}

theorem perform_dispatch_unknown {name : String} (h : r.resolve line = .unknown name)
    (s : Surroundings Host) :
    (r.dispatch execute line).perform s =
      ⟨.error (.commandNotFound name), s, (r.rejections line).map .noted⟩ := by
  unfold dispatch
  rw [Action.perform_bind_ok (by rfl)]
  simp [h, Action.notes]

theorem perform_dispatch_unmatched {name : String} (h : r.resolve line = .unmatched name)
    (s : Surroundings Host) :
    (r.dispatch execute line).perform s =
      ⟨.error (.noMatchingOverload name), s, (r.rejections line).map .noted⟩ := by
  unfold dispatch
  rw [Action.perform_bind_ok (by rfl)]
  simp [h, Action.notes]

theorem perform_dispatch_selected {c : Command Host Out} {arguments : List Value}
    (h : r.resolve line = .selected c arguments) (s : Surroundings Host) :
    (r.dispatch execute line).perform s =
      let e := (c.body ⟨r.catalogue, execute⟩ arguments).perform s
      ⟨e.result, e.after,
        (r.rejections line).map .noted ++ .invoked c.signature arguments s.depth :: e.trace⟩ := by
  unfold dispatch
  rw [Action.perform_bind_ok (by rfl)]
  simp only [h, Action.notes, Action.perform_emit]
  rw [Action.perform_bind_ok (by rfl)]
  rfl

end Dispatch

end Registry

end DevConsole
