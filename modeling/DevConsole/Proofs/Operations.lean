import DevConsole.Proofs.Typing

/-! # What a host does with a console

A host logs a text, executes a line, lets a frame pass, opens or closes the console, or takes the
requests.  Each operation is a function of its own, with results of its own.  What they leave
behind is the same few things in every case, and is said here once.

In a frame at most one thing happens that commands could see: a line is submitted.  Which frames
those are can be told beforehand (`Console.submission?`), and in all others only the tooltip, the
editor, the view and the open state change (`Console.tick_of_no_submission`).

So whatever happens to a console is made up of rests, in which no more than that changes, of notes,
of texts that are added, and of lines that are executed: one console *leads* to another, with the
events on the way (`Console.Leads`).  What each of the four keeps, every run of operations keeps
(`Console.leads_operate`, `Console.operateAll`).
-/
namespace DevConsole

namespace Console

variable {Host : Type} {c d e : Console Host}

/-! ## Rests -/

/-- From the first console to the second, nothing changes that commands could see, except that the
tooltip may have less time left. -/
structure Rests (c d : Console Host) : Prop where
  config : d.config = c.config
  registry : d.registry = c.registry
  surroundings : d.env.toSurroundings = { c.env.toSurroundings with tooltip := d.env.tooltip }
  lines : d.scrollback.lines = c.scrollback.lines
  generation : d.scrollback.generation = c.scrollback.generation

theorem Rests.refl (c : Console Host) : Rests c c := ⟨rfl, rfl, rfl, rfl, rfl⟩

theorem Rests.trans (hcd : Rests c d) (hde : Rests d e) : Rests c e := by
  refine ⟨hde.config.trans hcd.config, hde.registry.trans hcd.registry, ?_,
    hde.lines.trans hcd.lines, hde.generation.trans hcd.generation⟩
  rw [hde.surroundings, hcd.surroundings]

theorem Agrees.rests (h : Agrees d c) (hconfig : d.config = c.config) : Rests c d := by
  refine ⟨hconfig, h.registry, ?_, h.lines, h.generation⟩
  have htooltip : d.env.tooltip = c.env.tooltip := congrArg Surroundings.tooltip h.surroundings
  rw [htooltip]
  exact h.surroundings

theorem rests_elapseTooltip (dt : Binary32) (c : Console Host) : Rests c (c.elapseTooltip dt) :=
  ⟨rfl, rfl, rfl, rfl, rfl⟩

theorem rests_setOpen (wanted : Bool) (c : Console Host) : Rests c (c.setOpen wanted).1 :=
  ⟨rfl, rfl, rfl, rfl, rfl⟩

theorem rests_attentive (dt : Binary32) (frame : Frame) (c : Console Host) :
    Rests c ((c.elapseTooltip dt).attentive dt frame) :=
  (rests_elapseTooltip dt c).trans
    ((agrees_attentive dt frame _).rests (config_attentive dt frame _))

/-! ## Frames without a submission -/

/-- The line that a frame submits, if it submits one. -/
def submission? (c : Console Host) (frame : Frame) : Option String :=
  if c.config.enabled && c.isOpen && !c.isToggle frame && frame.key == some .enter then
    some c.editor.text
  else
    none

theorem submission?_eq_some {frame : Frame} {line : String} :
    c.submission? frame = some line ↔
      c.config.enabled = true ∧ c.isOpen = true ∧ c.isToggle frame = false ∧
        frame.key = some .enter ∧ c.editor.text = line := by
  unfold submission?
  split
  · rename_i h
    simp only [Bool.and_eq_true, Bool.not_eq_true', beq_iff_eq] at h
    obtain ⟨⟨⟨henabled, hopen⟩, htoggle⟩, hkey⟩ := h
    simp [henabled, hopen, htoggle, hkey]
  · rename_i h
    simp only [Bool.and_eq_true, Bool.not_eq_true', beq_iff_eq] at h
    constructor
    · intro hnone
      cases hnone
    · rintro ⟨henabled, hopen, htoggle, hkey, -⟩
      exact absurd ⟨⟨⟨henabled, hopen⟩, htoggle⟩, hkey⟩ h

/-- Any key but enter is for the editor, or closes the console. -/
theorem press_of_ne_enter {key : Key} (h : key ≠ .enter) (m : Modifiers) (clipboard : String)
    (c : Console Host) :
    Rests c (c.press key m clipboard).console ∧
      ∃ notes : List Note, (c.press key m clipboard).trace = notes.map .noted := by
  unfold press
  rcases Editor.response_press h m clipboard c.editor with hresponse | hresponse
  · simp only [hresponse]
    exact ⟨⟨rfl, rfl, rfl, rfl, rfl⟩, [], rfl⟩
  · simp only [hresponse]
    exact ⟨⟨rfl, rfl, rfl, rfl, rfl⟩, _, rfl⟩

section Frames

variable {frame : Frame} (clipboard : String) (dt : Binary32)

theorem tick_of_disabled (h : c.config.enabled = false) :
    c.tick frame clipboard dt = ⟨c.elapseTooltip dt, clipboard, []⟩ := by
  have hdisabled : (!(c.elapseTooltip dt).config.enabled) = true := by
    rw [config_elapseTooltip, h]
    rfl
  exact if_pos hdisabled

/-- An enabled console looks for the open key first, and then whether it is open. -/
theorem tick_of_enabled (h : c.config.enabled = true) :
    c.tick frame clipboard dt =
      if c.isToggle frame then
        ⟨((c.elapseTooltip dt).setOpen !c.isOpen).1, clipboard,
          ((c.elapseTooltip dt).setOpen !c.isOpen).2.map .noted⟩
      else if !c.isOpen then ⟨c.elapseTooltip dt, clipboard, []⟩
      else (c.elapseTooltip dt).tickOpen frame clipboard dt := by
  have henabled : ¬ (!(c.elapseTooltip dt).config.enabled) = true := by
    rw [config_elapseTooltip, h]
    exact Bool.false_ne_true
  exact if_neg henabled

theorem tick_of_toggle (henabled : c.config.enabled = true) (h : c.isToggle frame = true) :
    c.tick frame clipboard dt =
      ⟨((c.elapseTooltip dt).setOpen !c.isOpen).1, clipboard,
        ((c.elapseTooltip dt).setOpen !c.isOpen).2.map .noted⟩ := by
  rw [tick_of_enabled clipboard dt henabled, if_pos h]

theorem tick_of_closed (henabled : c.config.enabled = true) (htoggle : c.isToggle frame = false)
    (h : c.isOpen = false) : c.tick frame clipboard dt = ⟨c.elapseTooltip dt, clipboard, []⟩ := by
  rw [tick_of_enabled clipboard dt henabled, htoggle, h]
  rfl

theorem tick_of_open (henabled : c.config.enabled = true) (htoggle : c.isToggle frame = false)
    (h : c.isOpen = true) :
    c.tick frame clipboard dt = (c.elapseTooltip dt).tickOpen frame clipboard dt := by
  rw [tick_of_enabled clipboard dt henabled, htoggle, h]
  rfl

/-- **In a frame that submits nothing a console rests**, and only notes are taken. -/
theorem tick_of_no_submission (h : c.submission? frame = none) :
    Rests c (c.tick frame clipboard dt).console ∧
      ∃ notes : List Note, (c.tick frame clipboard dt).trace = notes.map .noted := by
  have hwait := rests_elapseTooltip dt c
  by_cases henabled : c.config.enabled = true
  case neg =>
    rw [tick_of_disabled clipboard dt (Bool.eq_false_iff.2 henabled)]
    exact ⟨hwait, [], rfl⟩
  by_cases htoggle : c.isToggle frame = true
  case pos =>
    rw [tick_of_toggle clipboard dt henabled htoggle]
    exact ⟨hwait.trans (rests_setOpen _ _), _, rfl⟩
  rw [Bool.not_eq_true] at htoggle
  by_cases hopen : c.isOpen = true
  case neg =>
    rw [tick_of_closed clipboard dt henabled htoggle (Bool.eq_false_iff.2 hopen)]
    exact ⟨hwait, [], rfl⟩
  rw [tick_of_open clipboard dt henabled htoggle hopen]
  have hattentive := rests_attentive dt frame c
  unfold tickOpen
  cases hkey : frame.key with
  | none => exact ⟨hattentive, [], rfl⟩
  | some key =>
    -- The key would submit the line if it were enter.
    have hne : key ≠ .enter := by
      rintro rfl
      have hsome := submission?_eq_some.2 ⟨henabled, hopen, htoggle, hkey, rfl⟩
      rw [h] at hsome
      cases hsome
    obtain ⟨hrests, hnotes⟩ := press_of_ne_enter hne frame.modifiers clipboard
      ((c.elapseTooltip dt).attentive dt frame)
    exact ⟨hattentive.trans hrests, hnotes⟩

/-- The console that submits its line in a frame. -/
def submitting (dt : Binary32) (frame : Frame) (c : Console Host) : Console Host :=
  { (c.elapseTooltip dt).attentive dt frame with editor := (c.editor.tick dt).submit }

theorem rests_submitting (dt : Binary32) (frame : Frame) (c : Console Host) :
    Rests c (c.submitting dt frame) := by
  obtain ⟨hconfig, hregistry, hsurroundings, hlines, hgeneration⟩ := rests_attentive dt frame c
  exact ⟨hconfig, hregistry, hsurroundings, hlines, hgeneration⟩

/-- **A frame that submits a line waits and submits it.** -/
theorem tick_of_submission {line : String} (h : c.submission? frame = some line) :
    c.tick frame clipboard dt =
      ⟨((c.submitting dt frame).submit line).1, clipboard,
        ((c.submitting dt frame).submit line).2⟩ := by
  obtain ⟨henabled, hopen, htoggle, hkey, rfl⟩ := submission?_eq_some.1 h
  have heditor : ((c.elapseTooltip dt).attentive dt frame).editor = c.editor.tick dt :=
    editor_attentive dt frame _
  have htext : (c.editor.tick dt).text = c.editor.text := rfl
  rw [tick_of_open clipboard dt henabled htoggle hopen, tickOpen, hkey]
  show ((c.elapseTooltip dt).attentive dt frame).press .enter frame.modifiers clipboard = _
  rw [press_enter, heditor, htext]
  rfl

end Frames

/-! ## What leads from one console to another -/

/-- The first console becomes the second through rests, notes, texts and executed lines, and the
events are left behind on the way. -/
inductive Leads : Console Host → List Event → Console Host → Prop where
  | rest {c d : Console Host} (h : Rests c d) : Leads c [] d
  | note (c : Console Host) (notes : List Note) : Leads c (notes.map .noted) c
  | text (c : Console Host) (text : String) (color : Color) :
    Leads c (c.perform (Action.append text color)).2.2 (c.perform (Action.append text color)).2.1
  | line (c : Console Host) (line : String) :
    Leads c (c.perform (c.execution line)).2.2 (c.perform (c.execution line)).2.1
  | trans {c d e : Console Host} {first second : List Event} (before : Leads c first d)
      (after : Leads d second e) : Leads c (first ++ second) e

namespace Leads

theorem refl (c : Console Host) : Leads c [] c := rest (Rests.refl c)

theorem of_rests_notes {trace : List Event} (h : Rests c d)
    (htrace : ∃ notes : List Note, trace = notes.map .noted) : Leads c trace d := by
  obtain ⟨notes, rfl⟩ := htrace
  exact trans (rest h) (note d notes)

theorem rest_trans {trace : List Event} (h : Rests c d) (hde : Leads d trace e) :
    Leads c trace e :=
  trans (rest h) hde

/-- What came of a line is noted and printed. -/
theorem report (c : Console Host) (line : String) (result : Except Failure (Option Value)) :
    Leads c (c.perform (Console.report line result)).2.2
      (c.perform (Console.report line result)).2.1 := by
  match result with
  | .ok none => exact refl c
  | .ok (some v) => exact text c _ _
  | .error failure => exact trans (note c _) (text c failure.message .red)

theorem submit (c : Console Host) (line : String) :
    Leads c (c.submit line).2 (c.submit line).1 := by
  have hecho := text c ("> " ++ line) .gray
  have hview : Rests (c.perform (Action.append ("> " ++ line) .gray)).2.1
      ((c.perform (Action.append ("> " ++ line) .gray)).2.1.mapScrollback .resetScroll) :=
    (agrees_mapScrollback Scrollback.lines_resetScroll Scrollback.generation_resetScroll _).rests
      rfl
  unfold Console.submit
  dsimp only
  split
  · have hechoed := trans hecho (rest hview)
    rwa [List.append_nil] at hechoed
  · rw [List.append_assoc]
    exact trans hecho (rest_trans hview (trans (Leads.line _ line) (report _ line _)))

/-- **A frame.** -/
theorem tick (c : Console Host) (frame : Frame) (clipboard : String) (dt : Binary32) :
    Leads c (c.tick frame clipboard dt).trace (c.tick frame clipboard dt).console := by
  cases h : c.submission? frame with
  | none =>
    obtain ⟨hrests, hnotes⟩ := tick_of_no_submission clipboard dt h
    exact of_rests_notes hrests hnotes
  | some line =>
    rw [tick_of_submission clipboard dt h]
    exact rest_trans (rests_submitting dt frame c) (Leads.submit _ line)

theorem registry_eq {trace : List Event} (h : Leads c trace d) : d.registry = c.registry := by
  induction h with
  | rest h => exact h.registry
  | note | text | line => rfl
  | trans _ _ ih ih' => exact ih'.trans ih

theorem config_eq {trace : List Event} (h : Leads c trace d) : d.config = c.config := by
  induction h with
  | rest h => exact h.config
  | note | text | line => rfl
  | trans _ _ ih ih' => exact ih'.trans ih

/-- **The output takes in the events and nothing else.** -/
theorem scrollback_eq {trace : List Event} (h : Leads c trace d) :
    d.scrollback.lines = (Sink.receiveAll c.scrollback trace).lines ∧
      d.scrollback.generation = (Sink.receiveAll c.scrollback trace).generation := by
  induction h with
  | rest h => exact ⟨h.lines, h.generation⟩
  | note c notes => rw [Sink.receiveAll_noted]; exact ⟨rfl, rfl⟩
  | text | line => exact ⟨rfl, rfl⟩
  | trans _ _ ih ih' =>
    obtain ⟨hlines, hgeneration⟩ := receiveAll_agrees ih.1 ih.2 _
    rw [Sink.receiveAll_append]
    exact ⟨ih'.1.trans hlines, ih'.2.trans hgeneration⟩

end Leads

/-! ## Operations of the host -/

/-- What a host can do with a console. -/
inductive Operation where
  | log (text : String) (color : Color)
  | execute (line : String)
  | tick (frame : Frame) (clipboard : String) (dt : Binary32)
  | setOpen (wanted : Bool)
  | takeSignals

/-- The console after an operation, and the events of the operation. -/
def operate (c : Console Host) : Operation → Console Host × List Event
  | .log text color => ((c.log text color).1, (c.perform (Action.append text color)).2.2)
  | .execute line => ((c.execute line).2.1, (c.perform (c.execution line)).2.2)
  | .tick frame clipboard dt =>
    ((c.tick frame clipboard dt).console, (c.tick frame clipboard dt).trace)
  | .setOpen wanted => ((c.setOpen wanted).1, (c.setOpen wanted).2.map .noted)
  | .takeSignals => (c.takeSignals.2, [])

/-- Operations one after the other. -/
def operateAll (c : Console Host) : List Operation → Console Host × List Event
  | [] => (c, [])
  | op :: ops =>
    let first := c.operate op
    let rest := first.1.operateAll ops
    (rest.1, first.2 ++ rest.2)

/-- **An operation leads to the console after it**, unless it takes the requests, which is all that
it does then. -/
theorem leads_operate (c : Console Host) (op : Operation) :
    (op = .takeSignals ∧ c.operate op = (c.takeSignals.2, [])) ∨
      Leads c (c.operate op).2 (c.operate op).1 := by
  cases op with
  | log text color => exact .inr (.text c text color)
  | execute line => exact .inr (.line c line)
  | tick frame clipboard dt => exact .inr (.tick c frame clipboard dt)
  | setOpen wanted => exact .inr (.of_rests_notes (rests_setOpen wanted c) ⟨_, rfl⟩)
  | takeSignals => exact .inl ⟨rfl, rfl⟩

/-- The output takes in the events of an operation. -/
theorem scrollback_operate (c : Console Host) (op : Operation) :
    (c.operate op).1.scrollback.lines =
        (Sink.receiveAll c.scrollback (c.operate op).2).lines ∧
      (c.operate op).1.scrollback.generation =
        (Sink.receiveAll c.scrollback (c.operate op).2).generation := by
  rcases leads_operate c op with ⟨-, h⟩ | h
  · rw [h]
    exact ⟨rfl, rfl⟩
  · exact h.scrollback_eq

theorem scrollback_operateAll (c : Console Host) (ops : List Operation) :
    (c.operateAll ops).1.scrollback.lines =
        (Sink.receiveAll c.scrollback (c.operateAll ops).2).lines ∧
      (c.operateAll ops).1.scrollback.generation =
        (Sink.receiveAll c.scrollback (c.operateAll ops).2).generation := by
  induction ops generalizing c with
  | nil => exact ⟨rfl, rfl⟩
  | cons op ops ih =>
    obtain ⟨hlines, hgeneration⟩ := scrollback_operate c op
    obtain ⟨hlines', hgeneration'⟩ := receiveAll_agrees hlines hgeneration
      ((c.operate op).1.operateAll ops).2
    rw [operateAll, Sink.receiveAll_append]
    exact ⟨(ih _).1.trans hlines', (ih _).2.trans hgeneration'⟩

end Console

end DevConsole
