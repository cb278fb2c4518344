import DevConsole.Binary32.Decimal

/-! # Tables of a TOML document

A document is a table: keys with what they stand for, in the order of the text.  Which
later lines may still add to a table depends on how it came about.  A table is *explicit*
once a header names it, *implied* when only a longer header goes through it, *dotted*
when a dotted key made it, and *inline* when it was written between braces.

`extend` follows a path of keys from a table, makes the tables that are missing, and
changes the table at its end.  A header may pass through every table but an inline one; a
dotted key only through tables that no header has named.  Where the path meets a list of
tables it goes on in the last of them.
-/
namespace DevConsole.Toml

/-- How a table came about. -/
inductive Origin where
  | explicit
  | implied
  | dotted
  | inline
deriving DecidableEq

/-- What a key stands for. -/
inductive Node where
  | string (s : String)
  | integer (z : Int)
  | float (x : Spelled)
  | boolean (b : Bool)
  | datetime (s : String)
  | array (items : List Node)
  | table (origin : Origin) (entries : List (String × Node))
  | tables (earlier : List (List (String × Node))) (last : List (String × Node))

/-- The keys of a table with what they stand for, each key once. -/
abbrev Entries := List (String × Node)

/-- The two kinds of paths. -/
inductive Path where
  | header
  | dotted
deriving DecidableEq

/-- The origin of the tables that a path makes. -/
def Path.makes : Path → Origin
  | header => .implied
  | dotted => .dotted

/-- Whether a path may pass through a table that came about in the given way. -/
def Path.enters : Path → Origin → Bool
  | header, origin => origin != .inline
  | dotted, origin => origin == .implied || origin == .dotted

namespace Entries

/-- The entries with another node under a key that is among them. -/
def replace (key : String) (node : Node) (entries : Entries) : Entries :=
  entries.map fun e => if e.1 == key then (key, node) else e

/-- Follows a path and changes the table at its end, where `change` is given how that
table came about; elements of a list of tables count as explicit. -/
def extend (path : Path) (change : Origin → Entries → Option Entries) :
    List String → Origin → Entries → Option Entries
  | [], origin, entries => change origin entries
  | key :: keys, _, entries =>
    match entries.lookup key with
    | none =>
      (extend path change keys path.makes []).map fun child =>
        entries ++ [(key, .table path.makes child)]
    | some (.table origin child) =>
      if path.enters origin then
        (extend path change keys origin child).map fun child =>
          entries.replace key (.table origin child)
      else none
    | some (.tables earlier last) =>
      (extend path change keys .explicit last).map fun last =>
        entries.replace key (.tables earlier last)
    | some _ => none

/-- Adds a key that the entries do not have yet. -/
def add (key : String) (node : Node) (entries : Entries) : Option Entries :=
  if (entries.lookup key).isSome then none else some (entries ++ [(key, node)])

/-- Adds a key at the end of a dotted path, which must end in a dotted table unless it is
empty. -/
def addDotted (keys : List String) (key : String) (node : Node) (origin : Origin)
    (entries : Entries) : Option Entries :=
  extend .dotted
    (fun last es => if keys.isEmpty || last == .dotted then es.add key node else none)
    keys origin entries

/-- Names a table by a header; it must be new or implied. -/
def open? (key : String) (entries : Entries) : Option Entries :=
  match entries.lookup key with
  | none => some (entries ++ [(key, .table .explicit [])])
  | some (.table .implied child) => some (entries.replace key (.table .explicit child))
  | some _ => none

/-- Adds an empty table to the list of tables under a key, which may be new. -/
def openElement? (key : String) (entries : Entries) : Option Entries :=
  match entries.lookup key with
  | none => some (entries ++ [(key, .tables [] [])])
  | some (.tables earlier last) => some (entries.replace key (.tables (earlier ++ [last]) []))
  | some _ => none

end Entries

end DevConsole.Toml
