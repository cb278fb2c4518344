import DevConsole.Text.Case
import DevConsole.Failure

/-! # The directory of scripts

Scripts are files of command lines whose names end in `.exec`, all in one flat directory.
The directory may be missing, and a file may stand in its place.  A script is found by
what stands before `.exec` in its name, in any case; that must not be empty, the ending
itself has to be in lower case, and a directory of that name is no script.
-/
namespace DevConsole

namespace ScriptDirectory

/-- What stands under a name.  A file may be there and yet not be read. -/
inductive Content where
  | text (source : String)
  | undecodable
  | unreadable
  | directory
deriving DecidableEq

/-- A name in the directory and what stands under it. -/
structure Entry where
  /-- The whole name, with its ending. -/
  name : String
  /-- What stands under it. -/
  content : Content

/-- What is found at the path of the directory. -/
inductive State where
  | missing
  | blocked
  | entries (entries : List Entry)

/-- The content of a file with the given bytes. -/
def Content.ofBytes (bytes : ByteArray) : Content :=
  match String.fromUTF8? bytes with
  | some source => .text source
  | none => .undecodable

/-- The ending of the names of scripts. -/
def ending : List Char := ['.', 'e', 'x', 'e', 'c']

/-- What stands before the ending, if that is something. -/
def stem? (name : String) : Option String :=
  let cs := name.toList
  let stem := cs.take (cs.length - ending.length)
  if ending.isSuffixOf cs && !stem.isEmpty then some (String.ofList stem) else none

/-- Whether the entry is the script that goes by `stem`. -/
def Entry.isScript (stem : String) (e : Entry) : Bool :=
  match e.content with
  | .directory => false
  | _ => (stem? e.name).any fun s => Text.upper s == Text.upper stem

end ScriptDirectory

/-- The directory of scripts: where it is and what is there. -/
structure ScriptDirectory where
  path : String
  state : ScriptDirectory.State

namespace ScriptDirectory

/-- The entries, if the directory is there. -/
def entries? (d : ScriptDirectory) : Option (List Entry) :=
  match d.state with
  | .entries es => some es
  | _ => none

/-- The directory after an attempt to make it.  A file in its place stops that, and
nothing is made under an empty path. -/
def create (d : ScriptDirectory) : Except FileFailure ScriptDirectory :=
  match d.state with
  | .missing => .ok (if d.path.isEmpty then d else { d with state := .entries [] })
  | .blocked => .error .alreadyExists
  | .entries _ => .ok d

/-- The path of a name in the directory. -/
def pathOf (d : ScriptDirectory) (name : String) : String :=
  if d.path.isEmpty || d.path.toList.getLast? == some '/' then d.path ++ name
  else d.path ++ "/" ++ name

end ScriptDirectory

end DevConsole
