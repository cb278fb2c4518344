import DevConsole.Toml.Lexeme

/-! # Documents of TOML

A document is a sequence of lines.  Each is blank, a comment, a header that opens a table
or one more table of a list, or a key with its value for the table opened last.  Values
may hold values, in arrays over several lines and in inline tables on one line, but only
down to a fixed depth.
-/
namespace DevConsole.Toml

open Reader

/-! ## Values -/

/-- How deep arrays and inline tables may be nested. -/
def nestingDepth : Nat := 79

/-- The items of an array up to its closing bracket, `n` at most. -/
def items (value : Reader Node) : Nat → Reader (List Node)
  | 0 => failure
  | n + 1 => do
    gaps
    match ← peek with
    | some ']' => do exactly [']']; return []
    | _ =>
      let item ← value
      gaps
      match ← next with
      | ']' => return [item]
      | ',' => return item :: (← items value n)
      | _ => failure

/-- An array. -/
def array (value : Reader Node) : Reader Node := do
  exactly ['[']
  let cs ← get
  return .array (← items value (cs.length + 1))

/-- A key, an equals sign and a value. -/
def keyValue (value : Reader Node) : Reader ((List String × String) × Node) := do
  let k ← key
  exactly ['=']
  spaces
  return (k, ← value)

/-- The keys and values of an inline table up to its closing brace, `n` at most. -/
def inlineEntries (value : Reader Node) : Nat → Entries → Reader Entries
  | 0, _ => failure
  | n + 1, entries => do
    let ((path, name), node) ← keyValue value
    spaces
    match entries.addDotted path name node .inline with
    | none => failure
    | some entries =>
      match ← next with
      | '\x7d' => return entries
      | ',' => inlineEntries value n entries
      | _ => failure

/-- An inline table. -/
def inlineTable (value : Reader Node) : Reader Node := do
  exactly ['\x7b']
  spaces
  match ← peek with
  | some '\x7d' => do exactly ['\x7d']; return .table .inline []
  | _ =>
    let cs ← get
    return .table .inline (← inlineEntries value (cs.length + 1) [])

/-- A value with arrays and inline tables nested at most `depth` deep. -/
def value : Nat → Reader Node
  | 0 => scalar
  | depth + 1 => do
    match ← peek with
    | some '[' => array (value depth)
    | some '\x7b' => inlineTable (value depth)
    | _ => scalar

/-! ## Lines -/

/-- The document as far as it is read: its entries, and the path of the table opened
last. -/
structure Draft where
  /-- The entries of the root. -/
  entries : Entries := []
  /-- The path of the table opened last. -/
  current : List String := []

/-- The draft after a header: the path from the root to the opened table. -/
def Draft.openTable (isElement : Bool) (path : List String) (name : String) (d : Draft) :
    Option Draft :=
  let change : Origin → Entries → Option Entries := fun _ es =>
    if isElement then es.openElement? name else es.open? name
  (Entries.extend .header change path .explicit d.entries).map fun entries =>
    ⟨entries, path ++ [name]⟩

/-- The draft with one more key in the table opened last. -/
def Draft.addKey (path : List String) (name : String) (node : Node) (d : Draft) : Option Draft :=
  let change : Origin → Entries → Option Entries := fun origin es =>
    es.addDotted path name node origin
  (Entries.extend .header change d.current .explicit d.entries).map fun entries =>
    { d with entries }

/-- A value that the text before it decides on, or a refusal. -/
def decided {α : Type} : Option α → Reader α
  | some a => pure a
  | none => failure

/-- A header, to the end of its line. -/
def header (d : Draft) : Reader Draft := do
  exactly ['[']
  let isElement := (← peek) == some '['
  if isElement then exactly ['['] else pure ()
  let (path, name) ← key
  exactly (if isElement then [']', ']'] else [']'])
  lineRest
  decided (d.openTable isElement path name)

/-- A key with its value, to the end of its line. -/
def assignment (d : Draft) : Reader Draft := do
  let ((path, name), node) ← keyValue (value nestingDepth)
  lineRest
  decided (d.addKey path name node)

/-- One line, which starts with something else than a blank. -/
def line (d : Draft) : Reader Draft := do
  match ← peek with
  | some '#' => do comment; newline <|> atEnd; return d
  | some '[' => header d
  | some '\n' | some '\r' => do newline; return d
  | _ => assignment d

/-- The lines up to the end of the text, `n` at most. -/
def lines : Nat → Draft → Reader Draft
  | 0, _ => failure
  | n + 1, d => do
    spaces
    if (← get).isEmpty then return d
    else lines n (← line d)

/-- The byte order mark, which may stand in front of a document. -/
def byteOrderMark : Char := '\uFEFF'

/-- The entries of a document. -/
def read? (text : String) : Option Entries :=
  let cs := text.toList
  let cs := if cs.head? = some byteOrderMark then cs.tail else cs
  ((lines (cs.length + 1) {}).run cs).map fun r => r.1.entries

end DevConsole.Toml
