import DevConsole.Binary32.Decimal

/-! # Values and their kinds

Arguments and results of commands are whole numbers of 32 bits, floating-point numbers
of 32 bits, truth values and texts.  Every value has exactly one kind, and the text of a
value is what the console prints for it.
-/
namespace DevConsole

/-- The kinds of values. -/
inductive Kind where
  | int
  | float
  | bool
  | string
deriving DecidableEq

/-- The name of a kind. -/
def Kind.name : Kind → String
  | int => "Int"
  | float => "Float"
  | bool => "Bool"
  | string => "String"

/-- A value that a command takes or gives back. -/
inductive Value where
  | int (n : Int32)
  | float (x : Binary32)
  | bool (b : Bool)
  | string (s : String)
deriving DecidableEq

namespace Value

/-- The kind of a value. -/
def kind : Value → Kind
  | int _ => .int
  | float _ => .float
  | bool _ => .bool
  | string _ => .string

/-- The text of a value. -/
def text : Value → String
  | int n => Numeral.ofInt32 n
  | float x => x.text
  | bool b => if b then "true" else "false"
  | string s => s

end Value

end DevConsole
