import DevConsole.Command.Signature
import DevConsole.Text.Quoted

/-! # Descriptions of signatures

A complete account of a signature on one line, for whoever looks after the host: every
field by its name, texts in quotes, lists in brackets.
-/
namespace DevConsole

/-- Items between brackets, with commas between them. -/
def bracketed (items : List String) : String := "[" ++ String.intercalate ", " items ++ "]"

/-- Named fields after the name of what has them. -/
def record (name : String) (fields : List (String × String)) (more : Bool) : String :=
  let shown := fields.map (fun f => f.1 ++ ": " ++ f.2) ++ (if more then [".."] else [])
  name ++ " \x7b " ++ String.intercalate ", " shown ++ " \x7d"

/-- A truth value in a description. -/
def describeBool (b : Bool) : String := if b then "true" else "false"

/-- The name of a set of choices. -/
def ChoiceSet.name : ChoiceSet → String
  | commands => "Commands"
  | colors => "Colors"

/-- The account of a constraint. -/
def Constraint.describe : Constraint → String
  | free => "None"
  | fixed choices hard =>
    record "Fixed" [("choices", bracketed (choices.map Text.quoted)), ("hard", describeBool hard)]
      false
  | dynamic set hard => record "Dynamic" [("set", set.name), ("hard", describeBool hard)] false

/-- The account of a parameter. -/
def Parameter.describe (p : Parameter) : String :=
  record "ParameterSpec"
    [("name", Text.quoted p.name), ("ty", p.kind.name), ("constraint", p.constraint.describe)] false

/-- The account of a signature. -/
def Signature.describe (s : Signature) : String :=
  record "CommandDescriptor"
    [("name", Text.quoted s.name),
     ("params", bracketed (s.parameters.map Parameter.describe)),
     ("returns", s.returns.elim "Void" fun kind => "Value(" ++ kind.name ++ ")"),
     ("summary", s.summary.elim "None" fun text => "Some(" ++ Text.quoted text ++ ")")] true

end DevConsole
