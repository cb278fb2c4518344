import DevConsole.Proofs.Operations
import DevConsole.Session
import Mathlib.Data.List.Induction

/-! # What a session submits

A session types each of its lines into an open console, one key a frame and the enter key last.
The grave accent is the open key, and a key that opens or closes the console never reaches the
editor; so a line with that character in it closes the console on the way.  What is typed while it
is closed is dropped, the enter key as well, and what had reached the editor before stays there for
the next line.

So what a line submits depends on how many grave accents are in it.  With an even number of them
the enter key finds an open console, and submits what the editor holds: what earlier lines left
over, and then what came through of this one (`Session.cameThrough`).  With an odd number nothing is
submitted.  Lines without a grave accent are submitted one by one, as they were read.

A frame changes what the session holds in one of four ways (`Session.Holds.closed`,
`Session.Holds.grave`, `Session.Holds.char`, `Session.Holds.enter`); a line is put together from
them by induction on its characters, and a session by induction on its lines.
-/
namespace DevConsole

namespace Session

/-! ## The parts of a line -/

/-- The session with its console open. -/
def opened (s : Session) : Session := (if s.console.isOpen then (s, []) else s.setOpen true).1

/-- The session after the frames in which a line is typed. -/
def typed (line : String) (s : Session) : Session := (s.opened.frames (Frame.ofLine line)).1

/-- The session without its requests. -/
def taken (s : Session) : Session := { s with console := s.console.takeSignals.2 }

/-- The session once what the line added is written and its requests are taken. -/
def settled (line : String) (s : Session) : Session := (s.typed line).flush.1.taken

/-- Whether there is a request to quit among those that the line leaves. -/
def quits (line : String) (s : Session) : Bool :=
  (s.typed line).flush.1.console.takeSignals.1.contains .quit

theorem enter_eq (line : String) (s : Session) :
    ∃ notes notes', s.enter line =
      if s.quits line then ⟨s.settled line, (s.typed line).flush.2, notes, true⟩
      else ⟨(s.settled line).gameFrame.1, (s.typed line).flush.2, notes', false⟩ :=
  ⟨_, _, rfl⟩

theorem enter_of_quits {line : String} {s : Session} (h : s.quits line = true) :
    (s.enter line).quit = true ∧ (s.enter line).session = s.settled line ∧
      (s.enter line).output = (s.typed line).flush.2 := by
  obtain ⟨notes, notes', henter⟩ := enter_eq line s
  rw [henter, if_pos h]
  exact ⟨rfl, rfl, rfl⟩

theorem enter_of_not_quits {line : String} {s : Session} (h : s.quits line = false) :
    (s.enter line).quit = false ∧ (s.enter line).session = (s.settled line).gameFrame.1 ∧
      (s.enter line).output = (s.typed line).flush.2 := by
  obtain ⟨notes, notes', henter⟩ := enter_eq line s
  rw [henter, if_neg (Bool.eq_false_iff.1 h)]
  exact ⟨rfl, rfl, rfl⟩

theorem frames_cons (f : Frame) (fs : List Frame) (s : Session) :
    (s.frames (f :: fs)).1 = ((s.frame f).1.frames fs).1 := rfl

theorem frames_append (fs gs : List Frame) (s : Session) :
    (s.frames (fs ++ gs)).1 = ((s.frames fs).1.frames gs).1 := by
  induction fs generalizing s with
  | nil => rfl
  | cons f fs ih => rw [List.cons_append, frames_cons, frames_cons, ih]

/-- The world moves on or not; apart from that a frame of the session is one of its console. -/
theorem exists_console_frame (f : Frame) (s : Session) :
    ∃ world, (s.frame f).1.console =
      { (s.console.tick f s.clipboard frameTime).console with
        env := { (s.console.tick f s.clipboard frameTime).console.env with host := world } } := by
  unfold frame stepWorld
  dsimp only
  split
  · exact ⟨(s.console.tick f s.clipboard frameTime).console.env.host, rfl⟩
  · exact ⟨_, rfl⟩

/-- The session after some lines were entered, one after the other. -/
def after (config : Config) (scripts : ScriptDirectory) (lines : List String) : Session :=
  lines.foldl (fun s line => (s.enter line).session) (start config scripts).session

theorem after_snoc (config : Config) (scripts : ScriptDirectory) (lines : List String)
    (line : String) :
    after config scripts (lines ++ [line]) = ((after config scripts lines).enter line).session := by
  rw [after, List.foldl_append]
  rfl

/-! ## What comes through of a line -/

/-- The lines that are submitted in frames, in order. -/
def submissions : List Frame → Session → List String
  | [], _ => []
  | f :: fs, s => (s.console.submission? f).toList ++ submissions fs (s.frame f).1

theorem submissions_append (fs gs : List Frame) (s : Session) :
    s.submissions (fs ++ gs) = s.submissions fs ++ (s.frames fs).1.submissions gs := by
  induction fs generalizing s with
  | nil => rfl
  | cons f fs ih =>
    rw [List.cons_append, submissions, submissions, ih, frames_cons, List.append_assoc]

/-- The characters that reach the editor, starting with an open console or a closed one: those
before the first grave accent, those between the second and the third, and so on. -/
def cameThrough (isOpen : Bool) : List Char → List Char
  | [] => []
  | ch :: chars =>
    if ch = '\x60' then cameThrough (!isOpen) chars
    else if isOpen then ch :: cameThrough isOpen chars
    else cameThrough isOpen chars

/-- Whether the console is as open after the characters as it was before them. -/
def turnsEvenly (chars : List Char) : Bool := chars.count '\x60' % 2 == 0

/-- What stands in the editor after one more line. -/
def leftoverAfter (cs : List Char) (line : String) : List Char :=
  if turnsEvenly line.toList then [] else cs ++ cameThrough true line.toList

/-- What stands in the editor after some lines. -/
def leftover (lines : List String) : List Char := lines.foldl leftoverAfter []

/-- What a line submits when the editor holds some characters before. -/
def submitted (cs : List Char) (line : String) : List String :=
  if turnsEvenly line.toList then [String.ofList (cs ++ cameThrough true line.toList)] else []

theorem turnsEvenly_grave (chars : List Char) :
    turnsEvenly ('\x60' :: chars) = !turnsEvenly chars := by
  unfold turnsEvenly
  rw [List.count_cons_self]
  by_cases heven : List.count '\x60' chars % 2 = 0
  · have hodd : ¬ (List.count '\x60' chars + 1) % 2 = 0 := by omega
    rw [beq_false_of_ne hodd, beq_iff_eq.2 heven]
    rfl
  · have heven' : (List.count '\x60' chars + 1) % 2 = 0 := by omega
    rw [beq_false_of_ne heven, beq_iff_eq.2 heven']
    rfl

theorem turnsEvenly_cons_of_ne {ch : Char} (h : ch ≠ '\x60') (chars : List Char) :
    turnsEvenly (ch :: chars) = turnsEvenly chars := by
  unfold turnsEvenly
  rw [List.count_cons_of_ne h]

section NoGrave

variable {chars : List Char} (h : '\x60' ∉ chars)
include h

theorem turnsEvenly_of_no_grave : turnsEvenly chars = true := by
  rw [turnsEvenly, List.count_eq_zero_of_not_mem h]
  rfl

theorem cameThrough_of_no_grave : cameThrough true chars = chars := by
  induction chars with
  | nil => rfl
  | cons ch chars ih =>
    rw [List.mem_cons, not_or] at h
    rw [cameThrough, if_neg (Ne.symm h.1), if_pos rfl, ih h.2]

end NoGrave

/-- Lines without a grave accent leave nothing over. -/
theorem leftover_of_no_grave {lines : List String} (h : ∀ line ∈ lines, '\x60' ∉ line.toList) :
    leftover lines = [] := by
  induction lines using List.reverseRecOn with
  | nil => rfl
  | append_singleton lines line ih =>
    have hline := h line (by simp)
    rw [leftover, List.foldl_append]
    exact if_pos (turnsEvenly_of_no_grave hline)

/-! ## What a session holds -/

/-- The console of the session has the settings, it is open or not, and its editor holds the
characters with the cursor after them. -/
structure Holds (config : Config) (isOpen : Bool) (cs : List Char) (s : Session) : Prop where
  config : s.console.config = config
  isOpen : s.console.isOpen = isOpen
  editor : ∃ history, s.console.editor.Holds cs history

variable {config : Config} {isOpen : Bool} {cs : List Char} {s : Session} {f : Frame}

theorem Holds.text_eq (h : s.Holds config isOpen cs) :
    s.console.editor.text = String.ofList cs := by
  obtain ⟨history, heditor⟩ := h.editor
  exact heditor.text_eq

theorem Holds.flush (h : s.Holds config isOpen cs) : s.flush.1.Holds config isOpen cs :=
  ⟨h.config, h.isOpen, h.editor⟩

theorem Holds.taken (h : s.Holds config isOpen cs) : s.taken.Holds config isOpen cs :=
  ⟨h.config, h.isOpen, h.editor⟩

/-- What the console is after a frame, the session holds. -/
theorem holds_frame (hconfig : (s.console.tick f s.clipboard frameTime).console.config = config)
    (hopen : (s.console.tick f s.clipboard frameTime).console.isOpen = isOpen)
    (heditor : ∃ history,
      (s.console.tick f s.clipboard frameTime).console.editor.Holds cs history) :
    (s.frame f).1.Holds config isOpen cs := by
  obtain ⟨world, hframe⟩ := exists_console_frame f s
  refine ⟨?_, ?_, ?_⟩
  · rw [hframe]
    exact hconfig
  · rw [hframe]
    exact hopen
  · rw [hframe]
    exact heditor

theorem Holds.isToggle_grave (h : s.Holds config isOpen cs) (hkey : config.openKey = some .grave) :
    s.console.isToggle (.press .grave {}) = true := by
  rw [Console.isToggle, h.config, hkey]
  rfl

theorem Holds.isToggle_of_ne (h : s.Holds config isOpen cs) (hkey : config.openKey = some .grave)
    {key : Key} (hne : key ≠ .grave) : s.console.isToggle (.press key {}) = false := by
  rw [Console.isToggle, h.config, hkey]
  exact beq_eq_false_iff_ne.2 fun heq => hne (Option.some.inj heq)

section Frames

variable (henabled : config.enabled = true)
include henabled

/-- A closed console drops every key but the open key. -/
theorem Holds.closed (h : s.Holds config false cs) (htoggle : s.console.isToggle f = false) :
    (s.frame f).1.Holds config false cs ∧ s.console.submission? f = none := by
  have htick := Console.tick_of_closed s.clipboard frameTime (h.config ▸ henabled) htoggle h.isOpen
  constructor
  · refine holds_frame ?_ ?_ ?_
    · rw [htick]
      exact h.config
    · rw [htick]
      exact h.isOpen
    · rw [htick]
      exact h.editor
  · rw [Console.submission?, h.isOpen]
    simp

/-- Between two lines the console is closed, and the editor stays as it is. -/
theorem Holds.gameFrame (h : s.Holds config isOpen cs) : s.gameFrame.1.Holds config false cs := by
  have hclosing : (s.setOpen false).1.Holds config false cs := ⟨h.config, rfl, h.editor⟩
  exact (hclosing.closed henabled rfl).1

theorem Holds.opened (h : s.Holds config isOpen cs) : s.opened.Holds config true cs := by
  unfold Session.opened
  by_cases hopen : s.console.isOpen = true
  · rw [if_pos hopen]
    exact ⟨h.config, hopen, h.editor⟩
  · rw [if_neg hopen]
    refine ⟨h.config, ?_, h.editor⟩
    show (true && s.console.config.enabled) = true
    rw [h.config, henabled]
    rfl

theorem holds_start (scripts : ScriptDirectory) :
    (start config scripts).session.Holds config true [] := by
  refine ⟨rfl, ?_, [], rfl, rfl, rfl⟩
  show (true && config.enabled) = true
  rw [henabled]
  rfl

variable (hkey : config.openKey = some .grave)
include hkey

/-- The grave accent opens or closes the console. -/
theorem Holds.grave (h : s.Holds config isOpen cs) :
    (s.frame (.press .grave {})).1.Holds config (!isOpen) cs ∧
      s.console.submission? (.press .grave {}) = none := by
  have htoggle := h.isToggle_grave hkey
  have henabled' : s.console.config.enabled = true := h.config ▸ henabled
  have htick := Console.tick_of_toggle s.clipboard frameTime henabled' htoggle
  constructor
  · refine holds_frame ?_ ?_ ?_
    · rw [htick]
      exact h.config
    · rw [htick]
      show ((!s.console.isOpen) && s.console.config.enabled) = !isOpen
      rw [henabled', Bool.and_true, h.isOpen]
    · rw [htick]
      exact h.editor
  · rw [Console.submission?, htoggle]
    simp

/-- Any other character goes to the editor of an open console. -/
theorem Holds.char (h : s.Holds config true cs) {ch : Char} (hne : ch ≠ '\x60') :
    (s.frame (.press (.char ch) {})).1.Holds config true (cs ++ [ch]) ∧
      s.console.submission? (.press (.char ch) {}) = none := by
  have hopenKey : s.console.config.openKey ≠ some (.char ch) := by
    rw [h.config, hkey]
    intro heq
    cases heq
    exact hne rfl
  have htick := Console.tick_press (h.config ▸ henabled) h.isOpen hopenKey {} s.clipboard frameTime
  rw [Console.press_char] at htick
  obtain ⟨history, heditor⟩ := h.editor
  constructor
  · refine holds_frame ?_ ?_ ?_
    · rw [htick]
      simpa using h.config
    · rw [htick]
      simpa using h.isOpen
    · rw [htick]
      refine ⟨history, ?_⟩
      simpa using (heditor.tick frameTime).char ch
  · refine Option.eq_none_iff_forall_not_mem.2 fun line hline => ?_
    obtain ⟨-, -, -, henter, -⟩ := Console.submission?_eq_some.1 hline
    cases henter

/-- The enter key submits what the editor of an open console holds. -/
theorem Holds.enter (h : s.Holds config true cs) :
    (s.frame (.press .enter {})).1.Holds config true [] ∧
      s.console.submission? (.press .enter {}) = some (String.ofList cs) := by
  have htoggle : s.console.isToggle (.press .enter {}) = false :=
    h.isToggle_of_ne hkey (by decide)
  have hsubmission : s.console.submission? (.press .enter {}) = some (String.ofList cs) :=
    Console.submission?_eq_some.2 ⟨h.config ▸ henabled, h.isOpen, htoggle, rfl, h.text_eq⟩
  have htick := Console.tick_of_submission s.clipboard frameTime hsubmission
  obtain ⟨hconfig, heditor, hopen⟩ := Console.submit_keeps
    (s.console.submitting frameTime (.press .enter {})) (String.ofList cs)
  refine ⟨holds_frame ?_ ?_ ?_, hsubmission⟩
  · rw [htick]
    refine hconfig.trans ?_
    simpa [Console.submitting] using h.config
  · rw [htick]
    refine hopen.trans ?_
    simpa [Console.submitting] using h.isOpen
  · rw [htick]
    refine ⟨(s.console.editor.tick frameTime).submit.history, ?_⟩
    dsimp only
    rw [heditor]
    exact ⟨rfl, rfl, rfl⟩

/-- **The frames with the characters of a line** submit nothing, and what comes through of them is
added to what the editor holds. -/
theorem Holds.frames_chars (h : s.Holds config isOpen cs) (chars : List Char) :
    (s.frames (chars.map fun ch => .press (.char ch) {})).1.Holds config
        (isOpen == turnsEvenly chars) (cs ++ cameThrough isOpen chars) ∧
      s.submissions (chars.map fun ch => .press (.char ch) {}) = [] := by
  induction chars generalizing s isOpen cs with
  | nil =>
    have heven : (isOpen == turnsEvenly []) = isOpen := by cases isOpen <;> rfl
    rw [cameThrough, List.append_nil, heven]
    exact ⟨h, rfl⟩
  | cons ch chars ih =>
    rw [List.map_cons, submissions, frames_cons]
    by_cases hgrave : ch = '\x60'
    · obtain ⟨hnext, hnone⟩ := h.grave henabled hkey
      obtain ⟨hrest, hsubmissions⟩ := ih hnext
      have heven : (isOpen == turnsEvenly ('\x60' :: chars)) =
          ((!isOpen) == turnsEvenly chars) := by
        rw [turnsEvenly_grave]
        cases isOpen <;> cases turnsEvenly chars <;> rfl
      subst hgrave
      rw [cameThrough, if_pos rfl, heven]
      refine ⟨hrest, ?_⟩
      rw [show s.console.submission? (.press (.char '\x60') {}) = none from hnone]
      exact hsubmissions
    · rw [cameThrough, if_neg hgrave, turnsEvenly_cons_of_ne hgrave]
      cases isOpen with
      | true =>
        obtain ⟨hnext, hnone⟩ := h.char henabled hkey hgrave
        obtain ⟨hrest, hsubmissions⟩ := ih hnext
        rw [hnone, if_pos rfl]
        rw [List.append_assoc] at hrest
        exact ⟨hrest, hsubmissions⟩
      | false =>
        have hne : Key.char ch ≠ .grave := fun heq => hgrave (Key.char.inj heq)
        obtain ⟨hnext, hnone⟩ := h.closed henabled (h.isToggle_of_ne hkey hne)
        obtain ⟨hrest, hsubmissions⟩ := ih hnext
        rw [hnone, if_neg Bool.false_ne_true]
        exact ⟨hrest, hsubmissions⟩

/-! ## Lines -/

/-- **A line.**  It is submitted after what the editor holds when it turns the console evenly, and
otherwise what comes through of it is left in the editor. -/
theorem Holds.line (h : s.Holds config isOpen cs) (line : String) :
    s.opened.submissions (Frame.ofLine line) = submitted cs line ∧
      (s.typed line).Holds config (turnsEvenly line.toList) (leftoverAfter cs line) := by
  obtain ⟨hchars, hnone⟩ := (h.opened henabled).frames_chars henabled hkey line.toList
  rw [typed, Frame.ofLine, Frame.ofText, submissions_append, hnone, List.nil_append, frames_append,
    submitted, leftoverAfter, submissions, submissions, List.append_nil, frames_cons]
  rw [Bool.true_beq] at hchars
  cases heven : turnsEvenly line.toList with
  | true =>
    rw [heven] at hchars
    obtain ⟨henter, hsubmission⟩ := hchars.enter henabled hkey
    rw [hsubmission]
    exact ⟨rfl, henter⟩
  | false =>
    rw [heven] at hchars
    have hne : Key.enter ≠ .grave := by decide
    have htoggle := hchars.isToggle_of_ne hkey hne
    obtain ⟨hclosed, hsubmission⟩ := hchars.closed henabled htoggle
    rw [hsubmission]
    exact ⟨rfl, hclosed⟩

theorem Holds.enter_line (h : s.Holds config isOpen cs) (line : String) :
    ∃ isOpen', (s.enter line).session.Holds config isOpen' (leftoverAfter cs line) := by
  obtain ⟨-, htyped⟩ := h.line henabled hkey line
  have hsettled := htyped.flush.taken
  cases hquits : s.quits line with
  | true =>
    rw [(enter_of_quits hquits).2.1]
    exact ⟨_, hsettled⟩
  | false =>
    rw [(enter_of_not_quits hquits).2.1]
    exact ⟨false, hsettled.gameFrame henabled⟩

/-! ## Sessions -/

/-- **After any lines the editor holds what they left over.** -/
theorem exists_holds_after (scripts : ScriptDirectory) (lines : List String) :
    ∃ isOpen, (after config scripts lines).Holds config isOpen (leftover lines) := by
  induction lines using List.reverseRecOn with
  | nil => exact ⟨true, holds_start henabled scripts⟩
  | append_singleton lines line ih =>
    obtain ⟨isOpen, hbefore⟩ := ih
    rw [after_snoc, leftover, List.foldl_append]
    exact hbefore.enter_line henabled hkey line

end Frames

/-- **A session submits its lines one by one, grave accents apart.**  Take an enabled console whose
open key is the grave accent, and any lines that were entered before.  A frame either submits a line
or lets the console rest.  The frames of one more line submit one line if the number of grave
accents in it is even, and none otherwise; that line is what the editor held before and what came
through of this one, and what is not submitted stays in the editor.  So after lines without a grave
accent, a line without one is submitted once and as it was read, and the editor is empty before it
and after it. -/
theorem submissions_of_lines {config : Config} (henabled : config.enabled = true)
    (hkey : config.openKey = some .grave) (scripts : ScriptDirectory) (lines : List String)
    (line : String) :
    let s := after config scripts lines
    let even := line.toList.count '\x60' % 2 = 0
    let chars := leftover lines ++ cameThrough true line.toList
    (∀ (c : Console World) (f : Frame) (clipboard : String) (dt : Binary32),
      match c.submission? f with
      | some l =>
        ∃ d, c.Rests d ∧ c.tick f clipboard dt = ⟨(d.submit l).1, clipboard, (d.submit l).2⟩
      | none => c.Rests (c.tick f clipboard dt).console ∧
          ∃ notes : List Note, (c.tick f clipboard dt).trace = notes.map .noted) ∧
    s.console.editor.text = String.ofList (leftover lines) ∧
    s.opened.submissions (Frame.ofLine line) = (if even then [String.ofList chars] else []) ∧
    (s.enter line).session.console.editor.text = (if even then "" else String.ofList chars) ∧
    ((∀ l ∈ lines, '\x60' ∉ l.toList) → '\x60' ∉ line.toList →
      s.console.editor.text = "" ∧ s.opened.submissions (Frame.ofLine line) = [line] ∧
        (s.enter line).session.console.editor.text = "") := by
  intro s even chars
  obtain ⟨isOpen, hbefore⟩ := exists_holds_after henabled hkey scripts lines
  obtain ⟨hsubmissions, -⟩ := hbefore.line henabled hkey line
  obtain ⟨isOpen', hafter⟩ := hbefore.enter_line henabled hkey line
  have heven : turnsEvenly line.toList = true ↔ even := beq_iff_eq
  refine ⟨fun c f clipboard dt => ?_, hbefore.text_eq, ?_, ?_, fun hlines hline => ?_⟩
  · cases hsubmission : c.submission? f with
    | some l =>
      exact ⟨_, Console.rests_submitting dt f c,
        Console.tick_of_submission clipboard dt hsubmission⟩
    | none => exact Console.tick_of_no_submission clipboard dt hsubmission
  · rw [hsubmissions]
    exact if_congr heven rfl rfl
  · rw [hafter.text_eq, leftoverAfter, apply_ite String.ofList]
    exact if_congr heven rfl rfl
  · have hnothing := leftover_of_no_grave hlines
    have htext := hbefore.text_eq
    have hgone := hafter.text_eq
    rw [leftoverAfter, if_pos (turnsEvenly_of_no_grave hline)] at hgone
    rw [hnothing] at htext hsubmissions
    rw [submitted, if_pos (turnsEvenly_of_no_grave hline), cameThrough_of_no_grave hline,
      List.nil_append, String.ofList_toList] at hsubmissions
    exact ⟨htext, hsubmissions, hgone⟩

/-- With the default settings `print c` is submitted after `print b` as it was read. -/
theorem submissions_of_lines_print :
    let config : Config := {}
    let s := after config ⟨"", .missing⟩ ["print b"]
    (config.enabled = true ∧ config.openKey = some .grave ∧
      (∀ l ∈ ["print b"], '\x60' ∉ l.toList) ∧ '\x60' ∉ "print c".toList) ∧
    s.console.editor.text = "" ∧ s.opened.submissions (Frame.ofLine "print c") = ["print c"] ∧
      (s.enter "print c").session.console.editor.text = "" := by
  have henabled : ({} : Config).enabled = true := rfl
  have hkey : ({} : Config).openKey = some .grave := by decide +kernel
  have hlines : ∀ l ∈ ["print b"], '\x60' ∉ l.toList := by decide +kernel
  have hline : '\x60' ∉ "print c".toList := by decide +kernel
  obtain ⟨-, -, -, -, hplain⟩ :=
    submissions_of_lines henabled hkey ⟨"", .missing⟩ ["print b"] "print c"
  exact ⟨⟨henabled, hkey, hlines, hline⟩, hplain hlines hline⟩

/-- A grave accent closes the console, and what stood before it is left over for the next line. -/
theorem submissions_of_grave :
    let s := after {} ⟨"", .missing⟩ ["print a\x60b"]
    (start {} ⟨"", .missing⟩).session.opened.submissions (Frame.ofLine "print a\x60b") = [] ∧
      s.console.editor.text = "print a" ∧
      s.opened.submissions (Frame.ofLine "print c") = ["print aprint c"] := by
  decide +kernel

end Session

end DevConsole
