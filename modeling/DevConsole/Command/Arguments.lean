import DevConsole.Failure

/-! # Access to arguments

The body of a command asks for its arguments by position and kind.  Asking for one that
is not there, or for another kind than it has, is a fault of the command; a command that
asks for what its signature declares never meets it.
-/
namespace DevConsole.Arguments

/-- The argument at a position, counted from zero. -/
def value (arguments : List Value) (i : Nat) : Except Failure Value :=
  match arguments[i]? with
  | some v => .ok v
  | none => .error (.command (.missingArgument i))

/-- The fault of asking for a value as another kind than its own. -/
def wrongKind (i : Nat) (expected : Kind) (v : Value) : Failure :=
  .command (.wrongKind i expected v.kind)

/-- The whole number at a position. -/
def int (arguments : List Value) (i : Nat) : Except Failure Int32 := do
  match ← value arguments i with
  | .int n => .ok n
  | v => .error (wrongKind i .int v)

/-- The floating-point number at a position. -/
def float (arguments : List Value) (i : Nat) : Except Failure Binary32 := do
  match ← value arguments i with
  | .float x => .ok x
  | v => .error (wrongKind i .float v)

/-- The truth value at a position. -/
def bool (arguments : List Value) (i : Nat) : Except Failure Bool := do
  match ← value arguments i with
  | .bool b => .ok b
  | v => .error (wrongKind i .bool v)

/-- The text at a position. -/
def string (arguments : List Value) (i : Nat) : Except Failure String := do
  match ← value arguments i with
  | .string s => .ok s
  | v => .error (wrongKind i .string v)

/-- The argument of a kind at a position, as a value. -/
def ofKind (arguments : List Value) (i : Nat) : Kind → Except Failure Value
  | .int => (int arguments i).map .int
  | .float => (float arguments i).map .float
  | .bool => (bool arguments i).map .bool
  | .string => (string arguments i).map .string

end DevConsole.Arguments
