import DevConsole.Command.Arguments
import DevConsole.Command.Dispatch

/-! # Help

The commands that tell about commands.  `help` with a name shows a block for every
command whose name begins that name, the first under the name and all others as
overloads; without one it tells how to go on.  `commands` lists all signatures.
-/
namespace DevConsole.Builtin

variable {Host Out : Type} [Sink Out]

/-- The lines of a help block with their colors, one text each. -/
def helpBlock (isFirst : Bool) (s : Signature) : List (String × Color) :=
  [("", .white),
   (if isFirst then "--== \"" ++ s.name ++ "\" help ==--" else "--== OVERLOAD ==--", .gold),
   (s.summary.getD "No summary information specified.", .aqua),
   ("Usage: " ++ s.usage, .aqua)] ++
  (s.returns.elim [] fun kind => [("Returns: " ++ kind.name, .aqua)]) ++
  [("", .white)]

/-- The help blocks of the signatures, the first one under its name. -/
def helpBlocks : Catalogue → List (String × Color)
  | [] => []
  | s :: rest => helpBlock true s ++ rest.flatMap (helpBlock false)

/-- What the help shows for a name. -/
def helpOn (catalogue : Catalogue) (name : String) : List (String × Color) :=
  let normalized := Registry.normalize name
  match catalogue.filter fun s => Registry.answers s normalized with
  | [] => [("Command \"" ++ name ++ "\" not found!", .red)]
  | found => helpBlocks found

/-- Adds texts in their colors to the output. -/
def appendAll : List (String × Color) → Action Host Out Unit
  | [] => pure ()
  | (text, color) :: rest => do
    Action.append text color
    appendAll rest

/-- Shows the summary and the usage of the commands of a name. -/
def help : Command Host Out where
  signature :=
    { name := "help"
      parameters :=
        [{ name := "commandName", kind := .string, constraint := .dynamic .commands false }]
      summary := some "Prints out the summary and usage information about a command." }
  body interpreter arguments := do
    let name ← Action.ofExcept (Arguments.string arguments 0)
    appendAll (helpOn interpreter.catalogue name)
    pure none

/-- Tells how to get help. -/
def generalHelp : Command Host Out where
  signature := { name := "help", summary := some "Prints out a generic help message." }
  body _ _ := do
    appendAll
      [("Use \"help <command name>\" to get\nspecific information about that\ncommand.", .yellow),
       ("", .white),
       ("Use \"commands\" to get a list of\nall the registered commands.", .yellow)]
    pure none

/-- The line for a signature in the list of commands. -/
def listing (s : Signature) : String :=
  s.returns.elim s.usage fun kind => s.usage ++ "  Returns: " ++ kind.name

/-- Lists all signatures. -/
def listCommands : Command Host Out where
  signature := { name := "commands", summary := some "Prints out every registered command." }
  body interpreter _ := do
    appendAll (interpreter.catalogue.map fun s => (listing s, .white))
    pure none

end DevConsole.Builtin
