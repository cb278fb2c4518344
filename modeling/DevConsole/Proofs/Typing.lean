import DevConsole.Seat
import Mathlib.Logic.Function.Iterate

/-! # Typing a line and executing it

A line reaches the commands in two ways.  Somebody types it: one frame for each character and
one for the enter key, through the editor.  Or the host calls the console with it
(`Console.answer`).  Both leave the same surroundings and the same output behind, when the
tooltip has counted down in as many frames (`Seat.ticks_pushLine`).

What carries the proof is that the two consoles *agree* all the time (`Console.Agrees`): they
differ at most in their editors and in their views on the output, and no action can tell them
apart (`Console.perform_agrees`).  `Typed` adds what the editor holds after some of the
characters; each further one keeps it (`Typed.char`, `Typed.ticks`), and the enter key ends it
(`Typed.enter`).  The frames that wait at the seat are given to the console once, as a list
(`Seat.console_ticks`), so that the induction is on the characters alone.
-/
namespace DevConsole

/-! ## The editor -/

/-- A line with the cursor at its end, and the submitted lines. -/
structure Editor.Holds (e : Editor) (cs : List Char) (history : List String) : Prop where
  before : e.before = cs.reverse
  after : e.after = []
  history : e.history = history

namespace Editor.Holds

variable {e : Editor} {cs : List Char} {history : List String}

theorem of_isEmpty (h : e.isEmpty = true) : e.Holds [] e.history := by
  obtain ⟨hbefore, hafter⟩ : e.before = [] ∧ e.after = [] := by simpa [isEmpty] using h
  exact ⟨hbefore, hafter, rfl⟩

theorem tick (h : e.Holds cs history) (dt : Binary32) : (e.tick dt).Holds cs history :=
  ⟨h.before, h.after, h.history⟩

theorem char (h : e.Holds cs history) (c : Char) :
    (e.insert [c]).stopBrowsing.restartBlink.Holds (cs ++ [c]) history := by
  refine ⟨?_, h.after, h.history⟩
  rw [List.reverse_append, ← h.before]
  rfl

theorem text_eq (h : e.Holds cs history) : e.text = String.ofList cs := by
  rw [text, chars, h.before, h.after, List.reverse_reverse, List.append_nil]

/-- A submitted line is the newest one, unless it is empty. -/
theorem history_submit (h : e.Holds cs history) :
    e.submit.history = if cs.isEmpty then history else String.ofList cs :: history := by
  have hempty : e.isEmpty = cs.isEmpty := by
    rw [isEmpty, h.before, h.after, List.isEmpty_reverse, List.isEmpty_nil, Bool.and_true]
  rw [submit, hempty, h.text_eq, h.history]

end Editor.Holds

namespace Console

variable {Host : Type}

/-- Logs what came of a line: the value if there is one, or the failure. -/
def logResult (c : Console Host) : Except Failure (Option Value) → Console Host
  | .ok none => c
  | .ok (some v) => (c.log ("> " ++ v.text) .white).1
  | .error e => (c.log e.message .red).1

/-- Logs a line, executes it unless it is empty, and logs what came of it. -/
def answer (line : String) (c : Console Host) : Console Host :=
  let c := (c.log ("> " ++ line) .gray).1
  if line.isEmpty then c
  else (c.execute line).2.1.logResult (c.execute line).1

/-! ## Consoles that agree -/

/-- Consoles that no action can tell apart: they may differ in the editor, in the settings,
and in the view on the output. -/
structure Agrees (c d : Console Host) : Prop where
  registry : c.registry = d.registry
  surroundings : c.env.toSurroundings = d.env.toSurroundings
  lines : c.scrollback.lines = d.scrollback.lines
  generation : c.scrollback.generation = d.scrollback.generation

theorem Agrees.refl (c : Console Host) : Agrees c c := ⟨rfl, rfl, rfl, rfl⟩

theorem Agrees.trans {c d e : Console Host} (hcd : Agrees c d) (hde : Agrees d e) : Agrees c e :=
  ⟨hcd.registry.trans hde.registry, hcd.surroundings.trans hde.surroundings,
    hcd.lines.trans hde.lines, hcd.generation.trans hde.generation⟩

/-- No action looks at the editor. -/
theorem Agrees.withEditor {c d : Console Host} (h : Agrees c d) (e : Editor) :
    Agrees { c with editor := e } d :=
  ⟨h.registry, h.surroundings, h.lines, h.generation⟩

/-- Where the view is has no influence on the lines that an event leaves. -/
theorem receive_agrees {s t : Scrollback} (hlines : s.lines = t.lines)
    (hgeneration : s.generation = t.generation) (e : Event) :
    (Sink.receive s e).lines = (Sink.receive t e).lines ∧
      (Sink.receive s e).generation = (Sink.receive t e).generation := by
  cases e with
  | appended text color => exact ⟨congrArg (· ++ _) hlines, hgeneration⟩
  | cleared => exact ⟨rfl, congrArg (· + 1) hgeneration⟩
  | noted | invoked | opened => exact ⟨hlines, hgeneration⟩

theorem receiveAll_agrees {s t : Scrollback} (hlines : s.lines = t.lines)
    (hgeneration : s.generation = t.generation) (trace : List Event) :
    (Sink.receiveAll s trace).lines = (Sink.receiveAll t trace).lines ∧
      (Sink.receiveAll s trace).generation = (Sink.receiveAll t trace).generation := by
  induction trace generalizing s t with
  | nil => exact ⟨hlines, hgeneration⟩
  | cons e trace ih =>
    obtain ⟨hl, hg⟩ := receive_agrees hlines hgeneration e
    exact ih hl hg

/-- **An action has the same result on consoles that agree, and they agree afterwards.** -/
theorem perform_agrees {α : Type} {c d : Console Host} (h : Agrees c d)
    (x : Action Host Scrollback α) :
    (c.perform x).1 = (d.perform x).1 ∧ Agrees (c.perform x).2.1 (d.perform x).2.1 := by
  -- An action sees the surroundings only, and the output takes in what it left.
  have heffect : x.perform c.env.toSurroundings = x.perform d.env.toSurroundings := by
    rw [h.surroundings]
  have hout := receiveAll_agrees h.lines h.generation (x.perform d.env.toSurroundings).trace
  unfold perform Action.run
  rw [heffect]
  exact ⟨rfl, h.registry, rfl, hout.1, hout.2⟩

/-- Moving the view is no change that actions see. -/
theorem agrees_mapScrollback {f : Scrollback → Scrollback} (hlines : ∀ s, (f s).lines = s.lines)
    (hgeneration : ∀ s, (f s).generation = s.generation) (c : Console Host) :
    Agrees (c.mapScrollback f) c :=
  ⟨rfl, rfl, hlines _, hgeneration _⟩

/-- Notes leave a console as it is. -/
theorem perform_note (c : Console Host) (level : Level) (text : String) :
    (c.perform (Action.note level text)).2.1 = c := by
  rw [perform_eq, Action.note, Action.notes, Action.perform_emit]
  simp only [Sink.receiveAll_noted]

theorem perform_bind_ok {α β : Type} {c : Console Host} {x : Action Host Scrollback α} {a : α}
    {f : α → Action Host Scrollback β} (h : (c.perform x).1 = .ok a) :
    (c.perform (x >>= f)).2.1 = ((c.perform x).2.1.perform (f a)).2.1 := by
  have hx : (x.perform c.env.toSurroundings).result = .ok a := h
  simp only [perform_eq, Action.perform_bind_ok hx, Sink.receiveAll_append]

/-- Only the note on a failure tells the report of a result from its logging. -/
theorem perform_report (c : Console Host) (line : String)
    (result : Except Failure (Option Value)) :
    (c.perform (report line result)).2.1 = c.logResult result := by
  match result with
  | .ok none => rfl
  | .ok (some v) => rfl
  | .error e =>
    rw [report, perform_bind_ok (a := ()) (by rfl), perform_note]
    rfl

theorem execute_agrees {c d : Console Host} (h : Agrees c d) (line : String) :
    (c.perform (c.execution line)).1 = (d.execute line).1 ∧
      Agrees (c.perform (c.execution line)).2.1 (d.execute line).2.1 := by
  have hsame : c.execution line = d.execution line := by rw [execution, execution, h.registry]
  rw [hsame]
  exact perform_agrees h _

theorem logResult_agrees {c d : Console Host} (h : Agrees c d)
    (result : Except Failure (Option Value)) :
    Agrees (c.logResult result) (d.logResult result) := by
  match result with
  | .ok none => exact h
  | .ok (some v) => exact (perform_agrees h _).2
  | .error e => exact (perform_agrees h _).2

/-- **Submitting a line leaves what answering it leaves.** -/
theorem submit_agrees {c d : Console Host} (h : Agrees c d) (line : String) :
    Agrees (c.submit line).1 (d.answer line) := by
  have hecho := (perform_agrees h (Action.append ("> " ++ line) .gray)).2
  have hview := (agrees_mapScrollback Scrollback.lines_resetScroll
    Scrollback.generation_resetScroll _).trans hecho
  rw [submit_eq, answer]
  dsimp only
  split
  · exact hview
  · obtain ⟨hresult, hafter⟩ := execute_agrees hview line
    rw [perform_report, hresult]
    exact logResult_agrees hafter _

/-! ## What submitting leaves alone -/

theorem submit_keeps (c : Console Host) (line : String) :
    (c.submit line).1.config = c.config ∧ (c.submit line).1.editor = c.editor ∧
      (c.submit line).1.isOpen = c.isOpen := by
  rw [submit_eq]
  dsimp only
  split
  · simp
  · simp

/-! ## Frames -/

theorem agrees_scroll (c : Console Host) (frame : Frame) : Agrees (c.scroll frame) c := by
  unfold scroll
  split
  · exact agrees_mapScrollback (Scrollback.lines_scrollHorizontal _)
      (Scrollback.generation_scrollHorizontal _) c
  · exact agrees_mapScrollback (Scrollback.lines_scrollVertical _)
      (Scrollback.generation_scrollVertical _) c

theorem agrees_elapseTooltip {c d : Console Host} (h : Agrees c d) (dt : Binary32) :
    Agrees (c.elapseTooltip dt) (d.elapseTooltip dt) := by
  refine ⟨h.registry, ?_, h.lines, h.generation⟩
  rw [surroundings_elapseTooltip, surroundings_elapseTooltip, h.surroundings]

/-- The console when the key of a frame is about to reach the editor. -/
def attentive (dt : Binary32) (frame : Frame) (c : Console Host) : Console Host :=
  { c.scroll frame with editor := (c.scroll frame).editor.tick dt }

@[simp] theorem config_attentive (dt : Binary32) (frame : Frame) (c : Console Host) :
    (c.attentive dt frame).config = c.config := config_scroll c frame

@[simp] theorem editor_attentive (dt : Binary32) (frame : Frame) (c : Console Host) :
    (c.attentive dt frame).editor = c.editor.tick dt :=
  congrArg (Editor.tick dt) (editor_scroll c frame)

@[simp] theorem isOpen_attentive (dt : Binary32) (frame : Frame) (c : Console Host) :
    (c.attentive dt frame).isOpen = c.isOpen := isOpen_scroll c frame

theorem agrees_attentive (dt : Binary32) (frame : Frame) (c : Console Host) :
    Agrees (c.attentive dt frame) c :=
  (agrees_scroll c frame).withEditor _

/-- Any key but the open key reaches the editor of an open console. -/
theorem tick_press {c : Console Host} {key : Key} (henabled : c.config.enabled = true)
    (hopen : c.isOpen = true) (hkey : c.config.openKey ≠ some key) (m : Modifiers)
    (clipboard : String) (dt : Binary32) :
    c.tick (.press key m) clipboard dt =
      ((c.elapseTooltip dt).attentive dt (.press key m)).press key m clipboard := by
  have henabled' : (c.elapseTooltip dt).config.enabled = true := henabled
  have hopen' : (c.elapseTooltip dt).isOpen = true := hopen
  have htoggle : (c.elapseTooltip dt).isToggle (.press key m) = false :=
    beq_eq_false_iff_ne.2 hkey.symm
  unfold tick
  simp only [henabled', hopen', htoggle, Bool.not_true, Bool.false_eq_true, if_false]
  rfl

/-! ## Characters -/

/-- The console `d` is the console `c` after characters were typed into its empty line. -/
structure Typed (dt : Binary32) (c : Console Host) (cs : List Char) (d : Console Host) : Prop where
  agrees : Agrees d ((elapseTooltip dt)^[cs.length] c)
  config : d.config = c.config
  isOpen : d.isOpen = c.isOpen
  editor : d.editor.Holds cs c.editor.history

namespace Typed

variable {dt : Binary32} {c d : Console Host} {cs : List Char}

theorem start (h : c.editor.isEmpty = true) (dt : Binary32) : Typed dt c [] c :=
  ⟨Agrees.refl c, rfl, rfl, .of_isEmpty h⟩

/-- The console that gets the key of the next frame agrees with one more frame of waiting. -/
theorem attentive (h : Typed dt c cs d) (frame : Frame) :
    Agrees ((d.elapseTooltip dt).attentive dt frame) ((elapseTooltip dt)^[cs.length + 1] c) := by
  rw [Function.iterate_succ_apply']
  exact (agrees_attentive _ _ _).trans (agrees_elapseTooltip h.agrees dt)

/-- **A frame with one more character.** -/
theorem char {ch : Char} (h : Typed dt c cs d) (henabled : c.config.enabled = true)
    (hopen : c.isOpen = true) (hkey : c.config.openKey ≠ some (.char ch)) (clipboard : String) :
    Typed dt c (cs ++ [ch]) (d.tick (.press (.char ch) {}) clipboard dt).console := by
  have hagrees := h.attentive (.press (.char ch) {})
  have heditor := (h.editor.tick dt).char ch
  rw [tick_press (h.config ▸ henabled) (h.isOpen.trans hopen) (h.config ▸ hkey), press_char]
  -- The key changes the editor only, which no agreement is about.
  refine ⟨?_, ?_, ?_, ?_⟩
  · rw [List.length_append, List.length_singleton]
    exact hagrees.withEditor _
  · simpa using h.config
  · simpa using h.isOpen
  · simpa using heditor

/-- **The frame with the enter key.** -/
theorem enter (h : Typed dt c cs d) (henabled : c.config.enabled = true)
    (hopen : c.isOpen = true) (hkey : c.config.openKey ≠ some .enter) (clipboard : String) :
    let t := d.tick (.press .enter {}) clipboard dt
    Agrees t.console (((elapseTooltip dt)^[cs.length + 1] c).answer (String.ofList cs)) ∧
      t.console.editor = (d.editor.tick dt).submit ∧ t.console.config = c.config ∧
      t.console.isOpen = true := by
  have hagrees := h.attentive (.press .enter {})
  have htext : ((d.elapseTooltip dt).attentive dt (.press .enter {})).editor.text =
      String.ofList cs := by
    rw [editor_attentive, editor_elapseTooltip]
    exact (h.editor.tick dt).text_eq
  rw [tick_press (h.config ▸ henabled) (h.isOpen.trans hopen) (h.config ▸ hkey), press_enter, htext]
  obtain ⟨hconfig, heditor, hisOpen⟩ := submit_keeps
    { (d.elapseTooltip dt).attentive dt (.press .enter {}) with
      editor := ((d.elapseTooltip dt).attentive dt (.press .enter {})).editor.submit }
    (String.ofList cs)
  refine ⟨submit_agrees (hagrees.withEditor _) _, ?_, ?_, ?_⟩
  · rw [heditor, editor_attentive, editor_elapseTooltip]
  · rw [hconfig, config_attentive, config_elapseTooltip, h.config]
  · rw [hisOpen, isOpen_attentive, isOpen_elapseTooltip, h.isOpen, hopen]

/-- **Frames with the characters of a text.** -/
theorem ticks (henabled : c.config.enabled = true) (hopen : c.isOpen = true) {text : List Char}
    (hkeys : ∀ ch ∈ text, c.config.openKey ≠ some (.char ch)) (h : Typed dt c cs d)
    (clipboard : String) :
    Typed dt c (cs ++ text)
      (d.ticks dt (text.map fun ch => Frame.press (.char ch) {}) clipboard).console := by
  -- What was typed before grows by one character in each frame.
  induction text generalizing cs d clipboard with
  | nil =>
    rw [List.append_nil]
    exact h
  | cons ch text ih =>
    obtain ⟨hkey, hkeys⟩ := List.forall_mem_cons.1 hkeys
    rw [List.append_cons]
    exact ih hkeys (h.char henabled hopen hkey clipboard) _

end Typed

end Console

/-! ## Whole lines -/

namespace Seat

open Console

variable {Host : Type}

/-- **Typing a line is executing it.**  A line that waits at an open console with an empty line
and nothing before it is taken in one frame for each character and one more.  Then the editor
is empty again and has the line as its newest, and the surroundings and the output are those
of a console that answers the line after as many frames of waiting; the console stays open. -/
theorem ticks_pushLine {s : Seat Host} {line : String} (hqueue : s.queue = [])
    (henabled : s.console.config.enabled = true) (hopen : s.console.isOpen = true)
    (hempty : s.console.editor.isEmpty = true)
    (henter : s.console.config.openKey ≠ some .enter)
    (hkeys : ∀ ch ∈ line.toList, s.console.config.openKey ≠ some (.char ch)) (dt : Binary32) :
    let typed := ((s.pushLine line).ticks dt (line.length + 1)).console
    let answered := ((elapseTooltip dt)^[line.length + 1] s.console).answer line
    (∀ n, ((s.pushLine line).ticks dt n).pending = line.length + 1 - n) ∧
      typed.editor.text = "" ∧ typed.editor.cursor = 0 ∧ typed.editor.isBrowsing = false ∧
      typed.editor.history =
        (if line.isEmpty then s.console.editor.history else line :: s.console.editor.history) ∧
      typed.env.toSurroundings = answered.env.toSurroundings ∧
      typed.scrollback.lines = answered.scrollback.lines ∧
      typed.scrollback.generation = answered.scrollback.generation ∧
      typed.registry = answered.registry ∧ typed.config = s.console.config ∧
      typed.isOpen = true := by
  intro typed answered
  -- The frames that wait are those of the characters, and one with the enter key.
  have htyped : typed = (s.console.ticks dt (Frame.ofLine line) s.clipboard).console := by
    have hpushed : (s.pushLine line).queue = Frame.ofLine line := by
      rw [pushLine, hqueue]
      rfl
    show ((s.pushLine line).ticks dt (line.length + 1)).console = _
    rw [console_ticks, hpushed, ← Frame.length_ofLine, Frame.due_length]
    rfl
  have htext := (Typed.start hempty dt).ticks henabled hopen hkeys s.clipboard
  obtain ⟨hagrees, heditor, hconfig, hisOpen⟩ := htext.enter henabled hopen henter
    (s.console.ticks dt (Frame.ofText line) s.clipboard).clipboard
  rw [Frame.ofLine, console_ticks_concat] at htyped
  rw [← Frame.ofText, ← htyped] at hagrees heditor hconfig hisOpen
  rw [List.nil_append, String.ofList_toList, String.length_toList] at hagrees
  have hhistory := (htext.editor.tick dt).history_submit
  rw [← Frame.ofText, ← heditor, List.nil_append, String.ofList_toList] at hhistory
  refine ⟨fun n => ?_, ?_, ?_, ?_, ?_, hagrees.surroundings, hagrees.lines, hagrees.generation,
    hagrees.registry, hconfig, hisOpen⟩
  · rw [pending_ticks, pending, pushLine, hqueue, List.nil_append, Frame.length_ofLine]
  · rw [heditor]
    rfl
  · rw [heditor]
    rfl
  · rw [heditor]
    rfl
  · rw [hhistory]
    simp

/-- A line that names no command is typed into a new console, and the console stays open. -/
theorem ticks_pushLine_unknown :
    let s : Seat Unit :=
      { console := { Console.new {} ⟨"", .missing⟩ () with isOpen := true } }
    let dt : Binary32 := .ofFraction 1 60
    let typed := ((s.pushLine "jump é").ticks dt 7).console
    let answered := ((elapseTooltip dt)^[7] s.console).answer "jump é"
    typed.editor.history = ["jump é"] ∧ typed.scrollback.lines = answered.scrollback.lines ∧
      answered.scrollback.lines.toList.getLast? = some ⟨"Command not found: JUMP", .red⟩ ∧
      typed.isOpen = true := by
  intro s dt typed answered
  have hgrave : s.console.config.openKey = some .grave := by decide +kernel
  have hkeys : ∀ ch ∈ "jump é".toList, s.console.config.openKey ≠ some (.char ch) := by
    simp [hgrave, Key.grave]
  obtain ⟨-, -, -, -, hhistory, -, hlines, -, -, -, hisOpen⟩ :=
    ticks_pushLine (s := s) rfl rfl rfl rfl (by decide +kernel) hkeys dt
  exact ⟨hhistory, hlines, by decide +kernel, hisOpen⟩

end Seat

end DevConsole
