import DevConsole.Proofs.IndexedLine
import DevConsole.Proofs.Operations

/-! # Frames in which nothing runs

What a console does in a frame depends on four questions, asked in this order: whether it is
enabled, whether the key is the open key, whether it is open, and which key it is.  A *heeding*
console has come past the first three (`Heeds`), and only then the wheel, the modifiers and the key
count.  One that does not heed the frame lets its tooltip run, opens or closes if it was asked to,
and is the same console otherwise (`tick_of_not_heeds`).

A heeding console changes its view and its line in every frame, but it runs a command for the enter
key only (`only_enter_runs`).  So the submitted lines stay as they are in all other frames
(`history_tick`), like everything else that commands could see (`tick_of_no_submission`).

A console that is open is enabled: nothing opens a disabled one (`Reachable.enabled_of_isOpen`).
-/
namespace DevConsole.Console

variable {Host : Type} {c d : Console Host} {frame : Frame}

/-! ## Heeding a frame -/

/-- The console is enabled and open, and the frame does not bring the open key. -/
structure Heeds (c : Console Host) (frame : Frame) : Prop where
  enabled : c.config.enabled = true
  isOpen : c.isOpen = true
  no_toggle : c.isToggle frame = false

theorem isToggle_iff : c.isToggle frame = true ↔
    ∃ key, frame.key = some key ∧ c.config.openKey = some key := by
  rw [isToggle, Bool.and_eq_true, beq_iff_eq, Option.isSome_iff_exists]
  constructor
  · rintro ⟨⟨key, hkey⟩, hopen⟩
    exact ⟨key, hkey, hopen ▸ hkey⟩
  · rintro ⟨key, hkey, hopen⟩
    exact ⟨⟨key, hkey⟩, hkey.trans hopen.symm⟩

theorem not_heeds_iff : ¬ c.Heeds frame ↔
    c.config.enabled = false ∨ c.isOpen = false ∨
      ∃ key, frame.key = some key ∧ c.config.openKey = some key := by
  rw [← isToggle_iff]
  constructor
  · intro h
    by_cases henabled : c.config.enabled = true
    · by_cases hopen : c.isOpen = true
      · by_cases htoggle : c.isToggle frame = true
        · exact .inr (.inr htoggle)
        · exact absurd ⟨henabled, hopen, Bool.eq_false_iff.2 htoggle⟩ h
      · exact .inr (.inl (Bool.eq_false_iff.2 hopen))
    · exact .inl (Bool.eq_false_iff.2 henabled)
  · rintro h ⟨henabled, hopen, htoggle⟩
    rcases h with h | h | h
    · exact absurd henabled (Bool.eq_false_iff.1 h)
    · exact absurd hopen (Bool.eq_false_iff.1 h)
    · exact absurd h (Bool.eq_false_iff.1 htoggle)

/-- A heeding console submits its line in the frames that bring the enter key. -/
theorem submission?_eq_none_iff :
    c.submission? frame = none ↔ (c.Heeds frame → frame.key ≠ some .enter) := by
  rw [Option.eq_none_iff_forall_ne_some]
  constructor
  · intro h hheeds hkey
    exact h _ (submission?_eq_some.2
      ⟨hheeds.enabled, hheeds.isOpen, hheeds.no_toggle, hkey, rfl⟩)
  · intro h line hline
    obtain ⟨henabled, hopen, htoggle, hkey, -⟩ := submission?_eq_some.1 hline
    exact h ⟨henabled, hopen, htoggle⟩ hkey

section Frames

variable (clipboard : String) (dt : Binary32)

/-- **A console that does not heed a frame stays as it is**, but for the tooltip, and for the open
state when it is enabled and the frame brings the open key. -/
theorem tick_of_not_heeds (h : ¬ c.Heeds frame) :
    ∃ notes : List Note, c.tick frame clipboard dt =
      ⟨{ c.elapseTooltip dt with
          isOpen := if c.config.enabled && c.isToggle frame then !c.isOpen else c.isOpen },
        clipboard, notes.map .noted⟩ := by
  by_cases henabled : c.config.enabled = true
  case neg =>
    rw [Bool.not_eq_true] at henabled
    rw [tick_of_disabled clipboard dt henabled, henabled]
    exact ⟨[], rfl⟩
  by_cases htoggle : c.isToggle frame = true
  case pos =>
    -- An enabled console opens and closes as it is told.
    have hwanted : (!c.isOpen && (c.elapseTooltip dt).config.enabled) = !c.isOpen := by
      rw [config_elapseTooltip, henabled, Bool.and_true]
    rw [tick_of_toggle clipboard dt henabled htoggle, henabled, htoggle, setOpen, hwanted]
    exact ⟨_, rfl⟩
  rw [Bool.not_eq_true] at htoggle
  have hclosed : c.isOpen = false := Bool.eq_false_iff.2 fun hopen => h ⟨henabled, hopen, htoggle⟩
  rw [tick_of_closed clipboard dt henabled htoggle hclosed, htoggle, Bool.and_false]
  exact ⟨[], rfl⟩

/-- A key changes the line as the editor does, also when the line is submitted. -/
theorem editor_press (key : Key) (m : Modifiers) (c : Console Host) :
    (c.press key m clipboard).console.editor = (c.editor.press key m clipboard).1 := by
  unfold press
  dsimp only
  split
  · rfl
  · rfl
  · exact (submit_keeps _ _).2.1

/-- **The submitted lines stay in a frame that submits nothing.** -/
theorem history_tick (h : c.submission? frame = none) :
    (c.tick frame clipboard dt).console.editor.history = c.editor.history := by
  by_cases hheeds : c.Heeds frame
  case neg =>
    obtain ⟨notes, htick⟩ := tick_of_not_heeds clipboard dt hheeds
    rw [htick]
    rfl
  have heditor : ((c.elapseTooltip dt).attentive dt frame).editor = c.editor.tick dt :=
    editor_attentive dt frame _
  rw [tick_of_open clipboard dt hheeds.enabled hheeds.no_toggle hheeds.isOpen, tickOpen]
  cases hkey : frame.key with
  | none =>
    show ((c.elapseTooltip dt).attentive dt frame).editor.history = _
    rw [heditor]
    rfl
  | some key =>
    have hne : key ≠ .enter := by
      rintro rfl
      exact submission?_eq_none_iff.1 h hheeds hkey
    show ((attentive dt frame _).press key frame.modifiers clipboard).console.editor.history = _
    rw [editor_press, heditor]
    -- Any other key is an input that keeps them.
    refine Editor.history_apply (x := .key key frame.modifiers clipboard) fun m clipboard' heq => ?_
    cases heq
    exact absurd rfl hne

end Frames

/-! ## Consoles that can come up -/

/-- What comes of a new console by registering commands and by the operations of the host. -/
inductive Reachable : Console Host → Prop
  | new (config : Config) (scripts : ScriptDirectory) (host : Host) :
    Reachable (new config scripts host)
  | register {c d : Console Host} (reached : Reachable c) (command : Command Host Scrollback)
    (accepted : (c.register command).1 = .ok d) : Reachable d
  | operate {c : Console Host} (reached : Reachable c) (op : Operation) :
    Reachable (c.operate op).1

theorem register_eq (command : Command Host Scrollback)
    (h : (c.register command).1 = .ok d) : ∃ registry, d = { c with registry := registry } := by
  have hmap : (c.register command).1 =
      (c.registry.register command).1.map fun registry => { c with registry := registry } := rfl
  rw [hmap] at h
  cases hregistry : (c.registry.register command).1 with
  | error fault =>
    rw [hregistry] at h
    cases h
  | ok registry =>
    rw [hregistry] at h
    exact ⟨registry, (Except.ok.inj h).symm⟩

/-- No operation changes the settings. -/
theorem config_operate (c : Console Host) (op : Operation) :
    (c.operate op).1.config = c.config := by
  rcases leads_operate c op with ⟨-, heq⟩ | hleads
  · rw [heq]
    rfl
  · exact hleads.config_eq

/-- **An operation opens an enabled console only.** -/
theorem isOpen_operate (c : Console Host) (op : Operation)
    (h : (c.operate op).1.isOpen = true) : c.isOpen = true ∨ c.config.enabled = true := by
  cases op with
  | log | execute | takeSignals => exact .inl h
  | setOpen wanted => exact .inr ((Bool.and_eq_true _ _ ▸ h : _ ∧ _).2)
  | tick frame clipboard dt =>
    by_cases henabled : c.config.enabled = true
    · exact .inr henabled
    · have hdisabled : c.tick frame clipboard dt = ⟨c.elapseTooltip dt, clipboard, []⟩ :=
        tick_of_disabled clipboard dt (Bool.eq_false_iff.2 henabled)
      have hopen : (c.tick frame clipboard dt).console.isOpen = true := h
      rw [hdisabled] at hopen
      exact .inl hopen

/-- **A console that is open is enabled.** -/
theorem Reachable.enabled_of_isOpen (h : Reachable c) (hopen : c.isOpen = true) :
    c.config.enabled = true := by
  induction h with
  | new => cases hopen
  | register _ command accepted ih =>
    obtain ⟨registry, rfl⟩ := register_eq command accepted
    exact ih hopen
  | operate _ op ih =>
    rw [config_operate]
    rcases isOpen_operate _ op hopen with hbefore | henabled
    · exact ih hbefore
    · exact henabled

/-! ## What runs in a frame -/

/-- **Only the enter key on an open console runs anything.**  Take any console and any frame, except
one that brings the enter key to an enabled and open console whose open key is another.  Then no
command is invoked, the frame leaves nothing but notes, and the lines and the removals of the
output, the registry, the overlays, the requests and the submitted lines stay as they were.  A
console that is disabled or closed, or that gets its open key, is the same afterwards with its
tooltip counted down, line, view and clipboard included; only an enabled one that gets its open key
opens or closes.  And a console that can come up is enabled when it is open. -/
theorem only_enter_runs (Host : Type) :
    (∀ (c : Console Host) (frame : Frame) (clipboard : String) (dt : Binary32),
      ¬ (c.config.enabled = true ∧ c.isOpen = true ∧ frame.key = some .enter ∧
        c.config.openKey ≠ some .enter) →
      let t := c.tick frame clipboard dt
      ((∃ notes : List Note, t.trace = notes.map .noted) ∧
        ∀ signature arguments depth, .invoked signature arguments depth ∉ t.trace) ∧
      t.console.scrollback.lines = c.scrollback.lines ∧
      t.console.scrollback.generation = c.scrollback.generation ∧
      t.console.registry = c.registry ∧ t.console.env.overlays = c.env.overlays ∧
      t.console.env.signals = c.env.signals ∧ t.console.editor.history = c.editor.history) ∧
    (∀ (c : Console Host) (frame : Frame) (clipboard : String) (dt : Binary32),
      (c.config.enabled = false ∨ c.isOpen = false ∨
        ∃ key, frame.key = some key ∧ c.config.openKey = some key) →
      let t := c.tick frame clipboard dt
      t.console = { c.elapseTooltip dt with isOpen := t.console.isOpen } ∧
      t.console.isOpen =
        (if c.config.enabled && c.isToggle frame then !c.isOpen else c.isOpen) ∧
      t.console.editor = c.editor ∧ t.console.scrollback = c.scrollback ∧
      t.clipboard = clipboard) ∧
    ∀ c : Console Host, c.Reachable → c.isOpen = true → c.config.enabled = true := by
  refine ⟨fun c frame clipboard dt h => ?_, fun c frame clipboard dt h => ?_,
    fun c => Reachable.enabled_of_isOpen⟩
  · have hnone : c.submission? frame = none := by
      refine submission?_eq_none_iff.2 fun hheeds hkey => ?_
      refine h ⟨hheeds.enabled, hheeds.isOpen, hkey, fun hopen => ?_⟩
      exact Bool.eq_false_iff.1 hheeds.no_toggle (isToggle_iff.2 ⟨_, hkey, hopen⟩)
    obtain ⟨hrests, notes, htrace⟩ := tick_of_no_submission clipboard dt hnone
    refine ⟨⟨⟨notes, htrace⟩, fun signature arguments depth hin => ?_⟩, hrests.lines,
      hrests.generation, hrests.registry, ?_, ?_, history_tick clipboard dt hnone⟩
    · rw [htrace] at hin
      obtain ⟨note, -, heq⟩ := List.mem_map.1 hin
      cases heq
    · have hoverlays := congrArg Surroundings.overlays hrests.surroundings
      exact hoverlays
    · have hsignals := congrArg Surroundings.signals hrests.surroundings
      exact hsignals
  · obtain ⟨notes, htick⟩ := tick_of_not_heeds clipboard dt (not_heeds_iff.2 h)
    rw [htick]
    exact ⟨rfl, rfl, rfl, rfl, rfl⟩

/-- An open console whose open key is enter closes in a frame with that key, and runs nothing of the
line `quit`; one whose open key is another types a character, and the submitted line stays. -/
theorem only_enter_runs_toggle :
    let line : Editor :=
      { before := "quit".toList.reverse, history := ["help"], period := .ofNat 1 }
    let c : Console Unit := { Console.new { openKeyName := "enter" } ⟨"", .missing⟩ () with
      editor := line, isOpen := true }
    let d : Console Unit := { Console.new {} ⟨"", .missing⟩ () with editor := line, isOpen := true }
    let t := c.tick (.press .enter {}) "" (.ofNat 1)
    let u := d.tick (.press (.char 'x') {}) "" (.ofNat 1)
    (¬ (c.config.enabled = true ∧ c.isOpen = true ∧ (Frame.press .enter {}).key = some .enter ∧
        c.config.openKey ≠ some .enter) ∧ t.console.env.signals = []) ∧
    (t.console.isOpen = false ∧ t.console.editor = line) ∧
    (u.console.editor.text = "quitx" ∧ u.console.editor.history = ["help"]) ∧
    (((Console.new {} ⟨"", .missing⟩ () : Console Unit).operate (.setOpen true)).1.isOpen = true ∧
      ((Console.new {} ⟨"", .missing⟩ () : Console Unit).operate
        (.setOpen true)).1.config.enabled = true) := by
  intro line c d t u
  obtain ⟨hrun, hidle, hreachable⟩ := only_enter_runs Unit
  have hkey : c.config.openKey = some .enter := by decide +kernel
  have hc : ¬ (c.config.enabled = true ∧ c.isOpen = true ∧
      (Frame.press .enter {}).key = some .enter ∧ c.config.openKey ≠ some .enter) :=
    fun h => h.2.2.2 hkey
  have hd : ¬ (d.config.enabled = true ∧ d.isOpen = true ∧
      (Frame.press (.char 'x') {}).key = some .enter ∧ d.config.openKey ≠ some .enter) :=
    fun h => nomatch h.2.2.1
  obtain ⟨-, -, -, -, -, hsignals, -⟩ := hrun c (.press .enter {}) "" (.ofNat 1) hc
  obtain ⟨-, -, -, -, -, -, hhistory⟩ := hrun d (.press (.char 'x') {}) "" (.ofNat 1) hd
  obtain ⟨-, hopen, heditor, -⟩ :=
    hidle c (.press .enter {}) "" (.ofNat 1) (.inr (.inr ⟨.enter, rfl, hkey⟩))
  have hnew := hreachable _ (.operate (.new {} ⟨"", .missing⟩ ()) (.setOpen true)) rfl
  refine ⟨⟨hc, hsignals⟩, ⟨?_, heditor⟩, ⟨by decide +kernel, hhistory⟩, rfl, hnew⟩
  rw [hopen]
  decide +kernel

end DevConsole.Console
