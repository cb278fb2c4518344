import DevConsole.Session

/-! # The command line

Reads lines from standard input, runs them in a session, and writes what the session
writes.  The configuration file is the first argument, or else the value of an
environment variable.  Notes go to standard error.
-/
namespace DevConsole

/-- The environment variable that names a configuration file. -/
def configVariable : String := "NES_CONSOLE_CONFIG"

/-- What is found at the path of a configuration file. -/
def readConfigFile (path : String) : IO ConfigFile := do
  let place := (← IO.currentDir) / path
  if ← place.isDir then return .directory
  else if ← place.pathExists then return .content (← IO.FS.readBinFile place)
  else return .missing

/-- What stands under a name in the directory of scripts. -/
def readScriptContent (e : IO.FS.DirEntry) : IO ScriptDirectory.Content := do
  if ← e.path.isDir then return .directory
  try return .ofBytes (← IO.FS.readBinFile e.path)
  catch _ => return .unreadable

/-- What is found at the path of the directory of scripts. -/
def readScriptState (path : String) : IO ScriptDirectory.State := do
  let place := (← IO.currentDir) / path
  if path.isEmpty then return .missing
  else if ← place.isDir then
    let mut entries := #[]
    for e in ← place.readDir do
      entries := entries.push ⟨e.fileName, ← readScriptContent e⟩
    return .entries entries.toList
  else if ← place.pathExists then return .blocked
  else return .missing

/-- Makes the directory of scripts where a session has made it. -/
def makeScriptDirectory (before after : ScriptDirectory.State) (path : String) : IO Unit :=
  match before, after with
  | .missing, .entries _ => IO.FS.createDirAll path
  | _, _ => pure ()

/-- Writes what a part of a session wrote and noted. -/
def emit (p : Session.Progress) : IO Unit := do
  let out ← IO.getStdout
  for line in p.output do
    out.putStrLn (Session.written line)
  out.flush
  for note in p.notes do
    if note.level.isShown then IO.eprintln ("[" ++ note.level.name ++ "] " ++ note.text)

/-- The bytes of a stream up to the next newline or its end, after those of `line`. -/
partial def readLine (input : IO.FS.Stream) (line : ByteArray) : IO ByteArray := do
  let bytes ← input.read 1
  if bytes.isEmpty then return line
  else if bytes.toList.contains 10 then return line ++ bytes
  else readLine input (line ++ bytes)

/-- Enters the lines of standard input, up to a request to quit. -/
partial def loop (s : Session) : IO UInt32 := do
  match Text.linesOfBytes (← readLine (← IO.getStdin) .empty) with
  | [] => return 0
  | none :: _ => return 1
  | some line :: _ =>
    let state ← readScriptState s.scripts.path
    let p := (s.withScriptState state).enter line
    makeScriptDirectory state p.session.scripts.state s.scripts.path
    emit p
    if p.quit then return 0 else loop p.session

end DevConsole

open DevConsole in
/-- Runs a session on standard input. -/
def main (arguments : List String) : IO UInt32 := do
  let first ← arguments.head?.mapM readConfigFile
  let second ← (← IO.getEnv configVariable).mapM readConfigFile
  match Session.configuration first second with
  | .error e =>
    IO.eprintln ("Error: loading console config: " ++ e.message)
    return 1
  | .ok config =>
    let p := Session.start config ⟨config.scriptPath, .missing⟩
    emit p
    loop p.session
