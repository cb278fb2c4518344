import DevConsole.Builtin
import DevConsole.Config
import DevConsole.Editor
import DevConsole.Frame
import DevConsole.Scrollback

/-! # The console

A console joins a registry, a line editor and an environment whose output is the
scrollback.  The host calls `tick` once a frame with what the keyboard and the wheel did.

The tooltip counts down in every frame.  The open key opens and closes the console and
never reaches the editor.  While the console is open the wheel moves the view, the
modifiers say how, and the key goes to the editor.  A submitted line is echoed, executed,
and its value or failure is printed after it; nothing a command does leaves the frame as
an error.
-/
namespace DevConsole

/-- A console for a host with state `Host`. -/
structure Console (Host : Type) where
  /-- The settings. -/
  config : Config
  /-- The commands. -/
  registry : Registry Host Scrollback
  /-- The line under edit. -/
  editor : Editor
  /-- Whether keys reach the editor. -/
  isOpen : Bool := false
  /-- What commands look at and change; its output is the scrollback. -/
  env : Environment Host Scrollback

/-- What a frame leaves behind: the console, the clipboard and the events. -/
structure Console.Ticked (Host : Type) where
  console : Console Host
  clipboard : String
  trace : List Event := []

/-- The notes that were taken in a frame, in order. -/
def Console.Ticked.notes {Host : Type} (t : Console.Ticked Host) : List Note := Event.notes t.trace

namespace Console

variable {Host : Type}

/-! ## Making a console and adding to it -/

/-- A closed console with the built-in commands. -/
def new (config : Config) (scripts : ScriptDirectory) (host : Host) : Console Host where
  config := config
  registry := Builtin.registry
  editor := .ofPeriod config.blinkPeriod
  env := { out := .ofHeight config.maxLinesOnScreen, scripts := scripts, host := host }

/-- The notes on the making of a console. -/
def creationNotes (c : Console Host) : List Note :=
  Builtin.registrationNotes Host Scrollback ++
    [⟨.info, "Console ready with " ++ Numeral.ofNat c.registry.size ++ " command signatures"⟩]

/-- Adds a command of the host. -/
def register (c : Console Host) (command : Command Host Scrollback) :
    Except Failure (Console Host) × List Note :=
  let (result, notes) := c.registry.register command
  (result.map fun registry => { c with registry }, notes)

/-- Adds commands of the host, up to the first whose signature has a fault. -/
def registerAll (c : Console Host) (commands : List (Command Host Scrollback)) :
    Console Host × Option Failure × List Note :=
  let (registry, fault, notes) := c.registry.registerAll commands
  ({ c with registry }, fault, notes)

/-- Adds commands of the host one after the other, whether or not some of them are refused. -/
def registerEach (c : Console Host) : List (Command Host Scrollback) → Console Host
  | [] => c
  | command :: commands =>
    match (c.register command).1 with
    | .error _ => registerEach c commands
    | .ok c' => registerEach c' commands

/-- Adding commands changes the registry and nothing else. -/
theorem registerEach_eq (c : Console Host) (commands : List (Command Host Scrollback)) :
    c.registerEach commands = { c with registry := c.registry.registerEach commands } := by
  induction commands generalizing c with
  | nil => rfl
  | cons command commands ih =>
    have hregister : (c.register command).1 =
        (c.registry.register command).1.map fun registry => { c with registry } := rfl
    rw [registerEach, Registry.registerEach, hregister]
    cases (c.registry.register command).1 with
    | error fault => exact ih c
    | ok r => exact ih { c with registry := r }

theorem registry_registerEach (c : Console Host) (commands : List (Command Host Scrollback)) :
    (c.registerEach commands).registry = c.registry.registerEach commands := by
  rw [registerEach_eq]

/-! ## Running actions and lines -/

/-- The output and the view on it. -/
def scrollback (c : Console Host) : Scrollback := c.env.out

/-- The console with another scrollback. -/
def mapScrollback (f : Scrollback → Scrollback) (c : Console Host) : Console Host :=
  { c with env := { c.env with out := f c.env.out } }

/-- Runs an action in the environment of the console. -/
def perform {α : Type} (c : Console Host) (x : Action Host Scrollback α) :
    Except Failure α × Console Host × List Event :=
  let o := x c.env
  (o.result, { c with env := o.env }, o.trace)

section Fields

variable {α : Type} (c : Console Host) (x : Action Host Scrollback α) (f : Scrollback → Scrollback)

@[simp] theorem config_perform : (c.perform x).2.1.config = c.config := rfl

@[simp] theorem editor_perform : (c.perform x).2.1.editor = c.editor := rfl

@[simp] theorem isOpen_perform : (c.perform x).2.1.isOpen = c.isOpen := rfl

@[simp] theorem config_mapScrollback : (c.mapScrollback f).config = c.config := rfl

@[simp] theorem editor_mapScrollback : (c.mapScrollback f).editor = c.editor := rfl

@[simp] theorem isOpen_mapScrollback : (c.mapScrollback f).isOpen = c.isOpen := rfl

end Fields

theorem perform_eq {α : Type} (c : Console Host) (x : Action Host Scrollback α) :
    c.perform x =
      let e := x.perform c.env.toSurroundings
      (e.result, { c with env := { e.after with out := Sink.receiveAll c.env.out e.trace } },
        e.trace) := rfl

/-- Executes a line with no script running. -/
def execution (c : Console Host) (line : String) : Action Host Scrollback (Option Value) := do
  Action.modify fun s => { s with depth := 0 }
  c.registry.execute line

/-- Executes a line. -/
def execute (c : Console Host) (line : String) :
    Except Failure (Option Value) × Console Host × List Note :=
  let (result, c, trace) := c.perform (c.execution line)
  (result, c, Event.notes trace)

/-- Adds a text to the output. -/
def log (c : Console Host) (text : String) (color : Color) : Console Host × List Note :=
  let (_, c, trace) := c.perform (Action.append text color)
  (c, Event.notes trace)

/-- Prints what came of a line. -/
def report (line : String) : Except Failure (Option Value) → Action Host Scrollback Unit
  | .ok none => pure ()
  | .ok (some v) => Action.print ("> " ++ v.text)
  | .error e => do
    Action.note .debug (Text.quoted line ++ " failed: " ++ e.message)
    Action.append e.message .red

/-- Echoes a line, takes the view to it, and unless it is empty executes it and prints what
came of it. -/
def submit (c : Console Host) (line : String) : Console Host × List Event :=
  let (_, c, echoed) := c.perform (Action.append ("> " ++ line) .gray)
  let c := c.mapScrollback .resetScroll
  if line.isEmpty then (c, echoed)
  else
    let (result, c, executed) := c.perform (c.execution line)
    let (_, c, reported) := c.perform (report line result)
    (c, echoed ++ executed ++ reported)

theorem submit_eq (c : Console Host) (line : String) :
    (c.submit line).1 =
      let echoed := (c.perform (Action.append ("> " ++ line) .gray)).2.1.mapScrollback .resetScroll
      if line.isEmpty then echoed
      else
        let executed := echoed.perform (echoed.execution line)
        (executed.2.1.perform (report line executed.1)).2.1 := by
  unfold submit
  split
  rename_i heq
  rw [heq]
  split <;> rfl

/-! ## Open and closed -/

/-- Opens or closes the console; a disabled one stays closed. -/
def setOpen (wanted : Bool) (c : Console Host) : Console Host × List Note :=
  let isOpen := wanted && c.config.enabled
  ({ c with isOpen },
    if isOpen == c.isOpen then []
    else [⟨.debug, if isOpen then "Console opened" else "Console closed"⟩])

/-- Whether the host should leave out its own step. -/
def blocksHost (c : Console Host) : Bool := c.isOpen && c.config.stopsExecution

/-- Whether the host should draw recent output over its picture. -/
def overlayVisible (c : Console Host) : Bool :=
  !c.isOpen && c.config.enabled && c.config.uiVisible

/-- The requests that the host has not seen yet, and the console without them. -/
def takeSignals (c : Console Host) : List Signal × Console Host :=
  (c.env.signals, { c with env := { c.env with signals := [] } })

/-! ## Frames -/

/-- Lets the tooltip run for `dt` seconds; one that has no time left is gone. -/
def elapseTooltip (dt : Binary32) (c : Console Host) : Console Host :=
  { c with
    env := { c.env with tooltip := (c.env.tooltip.map (·.elapse dt)).filter (·.isAlive) } }

theorem surroundings_elapseTooltip (dt : Binary32) (c : Console Host) :
    (c.elapseTooltip dt).env.toSurroundings =
      { c.env.toSurroundings with
        tooltip := (c.env.tooltip.map (·.elapse dt)).filter (·.isAlive) } := rfl

@[simp] theorem config_elapseTooltip (dt : Binary32) (c : Console Host) :
    (c.elapseTooltip dt).config = c.config := rfl

@[simp] theorem editor_elapseTooltip (dt : Binary32) (c : Console Host) :
    (c.elapseTooltip dt).editor = c.editor := rfl

@[simp] theorem isOpen_elapseTooltip (dt : Binary32) (c : Console Host) :
    (c.elapseTooltip dt).isOpen = c.isOpen := rfl

/-- How far a movement of the wheel goes. -/
def wheelDistance (c : Console Host) (frame : Frame) : Binary32 :=
  let distance := frame.wheel * c.config.wheelStep
  if frame.modifiers.control then distance * c.config.wheelFastMultiplier else distance

/-- Moves the view as the wheel did: sideways with shift, else up and down. -/
def scroll (c : Console Host) (frame : Frame) : Console Host :=
  if frame.modifiers.shift then c.mapScrollback (.scrollHorizontal (c.wheelDistance frame))
  else c.mapScrollback (.scrollVertical (c.wheelDistance frame))

@[simp] theorem config_scroll (c : Console Host) (frame : Frame) :
    (c.scroll frame).config = c.config := by
  unfold scroll
  split <;> simp

@[simp] theorem editor_scroll (c : Console Host) (frame : Frame) :
    (c.scroll frame).editor = c.editor := by
  unfold scroll
  split <;> simp

@[simp] theorem isOpen_scroll (c : Console Host) (frame : Frame) :
    (c.scroll frame).isOpen = c.isOpen := by
  unfold scroll
  split <;> simp

/-- Passes a key to the editor and does what it asks for. -/
def press (c : Console Host) (key : Key) (m : Modifiers) (clipboard : String) : Ticked Host :=
  let (editor, clipboard, response) := c.editor.press key m clipboard
  let c := { c with editor }
  match response with
  | .nothing => ⟨c, clipboard, []⟩
  | .close =>
    let (c, notes) := c.setOpen false
    ⟨c, clipboard, notes.map .noted⟩
  | .submit line =>
    let (c, trace) := c.submit line
    ⟨c, clipboard, trace⟩

theorem press_char (c : Console Host) (ch : Char) (clipboard : String) :
    c.press (.char ch) {} clipboard =
      ⟨{ c with editor := (c.editor.insert [ch]).stopBrowsing.restartBlink }, clipboard, []⟩ := by
  rw [press, Editor.press_char]

theorem press_enter (c : Console Host) (m : Modifiers) (clipboard : String) :
    c.press .enter m clipboard =
      let submitted := { c with editor := c.editor.submit }.submit c.editor.text
      ⟨submitted.1, clipboard, submitted.2⟩ := by
  rw [press, Editor.press_enter]

/-- What happens to an open console in a frame, the open key apart. -/
def tickOpen (c : Console Host) (frame : Frame) (clipboard : String) (dt : Binary32) :
    Ticked Host :=
  let c := c.scroll frame
  let c := { c with editor := c.editor.tick dt }
  match frame.key with
  | none => ⟨c, clipboard, []⟩
  | some key => c.press key frame.modifiers clipboard

/-- Whether the frame brings the open key. -/
def isToggle (c : Console Host) (frame : Frame) : Bool :=
  frame.key.isSome && frame.key == c.config.openKey

/-- One frame of `dt` seconds. -/
def tick (c : Console Host) (frame : Frame) (clipboard : String) (dt : Binary32) : Ticked Host :=
  let c := c.elapseTooltip dt
  if !c.config.enabled then ⟨c, clipboard, []⟩
  else if c.isToggle frame then
    let (c, notes) := c.setOpen !c.isOpen
    ⟨c, clipboard, notes.map .noted⟩
  else if !c.isOpen then ⟨c, clipboard, []⟩
  else c.tickOpen frame clipboard dt

/-- Frames of `dt` seconds each, one after the other. -/
def ticks (dt : Binary32) : List Frame → Console Host → String → Ticked Host
  | [], c, clipboard => ⟨c, clipboard, []⟩
  | frame :: frames, c, clipboard =>
    let first := c.tick frame clipboard dt
    let rest := ticks dt frames first.console first.clipboard
    { rest with trace := first.trace ++ rest.trace }

/-- One frame after others. -/
theorem console_ticks_concat (dt : Binary32) (frames : List Frame) (frame : Frame)
    (c : Console Host) (clipboard : String) :
    (c.ticks dt (frames ++ [frame]) clipboard).console =
      ((c.ticks dt frames clipboard).console.tick frame (c.ticks dt frames clipboard).clipboard
        dt).console := by
  induction frames generalizing c clipboard with
  | nil => rfl
  | cons first frames ih => exact ih _ _

end Console

end DevConsole
