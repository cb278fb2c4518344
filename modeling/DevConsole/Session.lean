import DevConsole.ConfigFile
import DevConsole.Console
import DevConsole.World

/-! # A session without a screen

A session reads lines, types each of them into an open console one key a frame, and
writes what the console adds to its output.  The world stands still while the console
blocks it; between two lines the console is closed for one frame so that the world moves
on.  A request to quit ends the session after the line that made it.

What is written is kept by a *printout* of the output: how many lines of it are written
already, and since which removal.  After a removal the printout starts over.
-/
namespace DevConsole

/-- How much of the output is written already. -/
structure Printout where
  /-- How often all lines had been removed when it was last written. -/
  generation : Nat := 0
  /-- The number of lines that were there at that time. -/
  written : Nat := 0

/-- The lines that are not written yet, and the printout once they are. -/
def Printout.flush (p : Printout) (s : Scrollback) : List Line × Printout :=
  let done := if s.generation = p.generation then p.written else 0
  (s.lines.toList.drop done, ⟨s.generation, s.size⟩)

/-- A session: a console with a world, a clipboard, and the printout of the output. -/
structure Session where
  console : Console World
  clipboard : String := ""
  printout : Printout := {}

namespace Session

/-! ## Frames -/

/-- The length of a frame in seconds. -/
def frameTime : Binary32 := .ofFraction 1 60

/-- The first line of every session. -/
def greeting : String := "NES console. Type \"help\" or \"commands\"."

/-- A written line: failures are marked, and they are known by their color. -/
def written (line : Line) : String :=
  if line.color = .red then "error: " ++ line.text else line.text

/-- What came of a part of a session. -/
structure Progress where
  /-- The session afterwards. -/
  session : Session
  /-- The lines that were written. -/
  output : List Line := []
  /-- The notes that were taken. -/
  notes : List Note := []
  /-- Whether there was a request to quit. -/
  quit : Bool := false

/-- The console with another world. -/
def mapWorld (f : World → World) (s : Session) : Session :=
  { s with
    console := { s.console with env := { s.console.env with host := f s.console.env.host } } }

/-- The world moves on unless the console blocks it. -/
def stepWorld (s : Session) : Session :=
  if s.console.blocksHost then s else s.mapWorld (World.step frameTime)

/-- One frame of console and world. -/
def frame (f : Frame) (s : Session) : Session × List Note :=
  let t := s.console.tick f s.clipboard frameTime
  ({ s with console := t.console, clipboard := t.clipboard }.stepWorld, t.notes)

/-- Frames one after the other. -/
def frames : List Frame → Session → Session × List Note
  | [], s => (s, [])
  | f :: fs, s =>
    let (s, notes) := s.frame f
    let (s, more) := frames fs s
    (s, notes ++ more)

/-- Opens or closes the console. -/
def setOpen (wanted : Bool) (s : Session) : Session × List Note :=
  let (console, notes) := s.console.setOpen wanted
  ({ s with console }, notes)

/-! ## Lines -/

/-- Writes what is not written yet. -/
def flush (s : Session) : Session × List Line :=
  let (output, printout) := s.printout.flush s.console.scrollback
  ({ s with printout }, output)

/-- One frame with the console closed. -/
def gameFrame (s : Session) : Session × List Note :=
  let (s, closing) := s.setOpen false
  let (s, notes) := s.frame .idle
  (s, closing ++ notes)

/-- The start of a session: an open console with the commands of the world, and the
greeting. -/
def start (config : Config) (scripts : ScriptDirectory) : Progress :=
  let console : Console World := .new config scripts {}
  let created := console.creationNotes
  let (console, _, registered) := console.registerAll World.commands
  let (console, opened) := console.setOpen true
  let (console, greeted) := console.log greeting .yellow
  let (session, output) := flush { console }
  { session, output, notes := created ++ registered ++ opened ++ greeted }

/-- Types a line, writes what it added, and looks for a request to quit; unless there is
one, the world gets its frame. -/
def enter (line : String) (s : Session) : Progress :=
  let (s, opened) := if s.console.isOpen then (s, []) else s.setOpen true
  let (s, typed) := s.frames (Frame.ofLine line)
  let (s, output) := s.flush
  let (signals, console) := s.console.takeSignals
  let s := { s with console }
  if signals.contains .quit then { session := s, output, notes := opened ++ typed, quit := true }
  else
    let (s, after) := s.gameFrame
    { session := s, output, notes := opened ++ typed ++ after }

/-- The directory of scripts as the session knows it. -/
def scripts (s : Session) : ScriptDirectory := s.console.env.scripts

/-- The session with another state of the directory of scripts. -/
def withScriptState (state : ScriptDirectory.State) (s : Session) : Session :=
  { s with
    console :=
      { s.console with
        env := { s.console.env with scripts := { s.console.env.scripts with state } } } }

/-! ## Whole sessions -/

/-- What a session leaves behind: what it wrote, its final state, and whether its input
could be read to the end or to a request to quit. -/
structure Report where
  session : Session
  output : List Line
  complete : Bool

/-- Enters lines up to a request to quit, or up to one that is no text. -/
def run : List (Option String) → Session → Report
  | [], s => ⟨s, [], true⟩
  | none :: _, s => ⟨s, [], false⟩
  | some line :: rest, s =>
    let p := s.enter line
    if p.quit then ⟨p.session, p.output, true⟩
    else
      let r := run rest p.session
      { r with output := p.output ++ r.output }

/-- The configuration of a session: that of the file given first, else that of the file
given second, else the default. -/
def configuration (first second : Option ConfigFile) : Except Failure Config :=
  match first.or second with
  | some file => file.load
  | none => .ok {}

/-- A whole session on lines, of which some may not be text. -/
def playLines (config : Config) (scripts : ScriptDirectory) (lines : List (Option String)) :
    Report :=
  let p := start config scripts
  let r := run lines p.session
  { r with output := p.output ++ r.output }

/-- A whole session on a stream of bytes. -/
def play (config : Config) (scripts : ScriptDirectory) (input : ByteArray) : Report :=
  playLines config scripts (Text.linesOfBytes input)

end Session

end DevConsole
