import DevConsole.Proofs.Replay
import DevConsole.Proofs.TypedLines
import DevConsole.Seat

/-! # A session is a stream that ends at a request to quit

A session takes its lines one after the other, and what it wrote for some of them it does not take
back: with more lines to come the output only grows (`Session.output_run_append`).

It ends at the line that runs `quit`.  That may be a line of a script, which a script executed in
turn, and the rest of the scripts may fail.  The request is there nevertheless: between two lines
there are no requests, and those after a line are what its events make of them
(`Session.Ready.quits_iff`).  So a session in whose events `quit` starts takes no line after it
(`Session.Ready.run_append_of_quit`).

Every line takes a known number of frames.  The loop that types a line goes on while frames wait,
and each of its turns takes one of them, whatever the console does with it
(`Session.Drains`, `Session.drains_iff`).
-/
namespace DevConsole

/-- A request to quit is made where `quit` starts. -/
theorem Event.quit_mem_requests {trace : List Event} :
    .quit ∈ Event.requests trace ↔ ∃ signature arguments depth,
      .invoked signature arguments depth ∈ trace ∧ signature.name = "quit" := by
  unfold requests
  rw [List.mem_filterMap]
  constructor
  · rintro ⟨event, hin, hrequest⟩
    cases event with
    | noted | appended | cleared | opened => cases hrequest
    | invoked signature arguments depth =>
      refine ⟨signature, arguments, depth, hin, ?_⟩
      by_contra hname
      have hother : (Event.invoked signature arguments depth).request? =
          if signature.name = "reload_resources" then some .reloadResources else none :=
        if_neg hname
      rw [hother] at hrequest
      split at hrequest <;> cases hrequest
  · rintro ⟨signature, arguments, depth, hin, hname⟩
    exact ⟨_, hin, if_pos hname⟩

namespace Session

variable {s : Session}

/-! ## The loop that types a line -/

/-- The console and the clipboard of a session, and frames that wait. -/
def seat (queue : List Frame) (s : Session) : Seat World := ⟨s.console, s.clipboard, queue⟩

/-- One turn of the loop: a frame, and then the world moves on unless the console blocks it. -/
def turn (seat : Seat World) : Seat World :=
  let t := seat.tick frameTime
  if t.console.blocksHost then t
  else
    let env := { t.console.env with host := t.console.env.host.step frameTime }
    { t with console := { t.console with env } }

/-- While frames wait there is another turn: the loop ends after so many turns, with this seat. -/
inductive Drains : Seat World → Nat → Seat World → Prop where
  | done {seat : Seat World} (h : seat.pending = 0) : Drains seat 0 seat
  | turn {seat seat' : Seat World} {n : Nat} (h : 0 < seat.pending)
      (rest : Drains (turn seat) n seat') : Drains seat (n + 1) seat'

/-- A turn is a frame of the session. -/
theorem turn_seat (f : Frame) (queue : List Frame) (s : Session) :
    turn (s.seat (f :: queue)) = (s.frame f).1.seat queue := by
  unfold Session.frame stepWorld
  dsimp only
  rw [apply_ite (seat queue)]
  rfl

/-- **The loop ends after as many turns as frames wait**, with the session after them. -/
theorem drains_iff {queue : List Frame} {n : Nat} {t : Seat World} :
    Drains (s.seat queue) n t ↔ n = queue.length ∧ t = (s.frames queue).1.seat [] := by
  induction queue generalizing s n with
  | nil =>
    constructor
    · intro h
      cases h with
      | done => exact ⟨rfl, rfl⟩
      | turn hwaits => exact absurd hwaits (Nat.lt_irrefl 0)
    · rintro ⟨rfl, rfl⟩
      exact .done rfl
  | cons f queue ih =>
    constructor
    · intro h
      cases h with
      | done hnone => cases hnone
      | turn hwaits hrest =>
        rw [turn_seat] at hrest
        obtain ⟨rfl, hseat⟩ := ih.1 hrest
        exact ⟨rfl, hseat⟩
    · rintro ⟨rfl, rfl⟩
      have hrest : Drains ((s.frame f).1.seat queue) queue.length
          (((s.frame f).1.frames queue).1.seat []) := ih.2 ⟨rfl, rfl⟩
      rw [← turn_seat] at hrest
      exact .turn (Nat.succ_pos _) hrest

/-! ## Events -/

/-- The events of frames. -/
def framesEvents : List Frame → Session → List Event
  | [], _ => []
  | f :: fs, s =>
    (s.console.tick f s.clipboard frameTime).trace ++ framesEvents fs (s.frame f).1

/-- The events of a line. -/
def lineEvents (line : String) (s : Session) : List Event :=
  s.opened.framesEvents (Frame.ofLine line)

/-- The events of the lines that a session takes. -/
def runEvents : List (Option String) → Session → List Event
  | [], _ => []
  | none :: _, _ => []
  | some line :: rest, s =>
    s.lineEvents line ++
      if (s.enter line).quit then [] else runEvents rest (s.enter line).session

/-- The session has the commands of the world, and there are no requests. -/
structure Ready (s : Session) : Prop where
  registry : s.console.registry.OfWorld
  signals : s.console.env.signals = []

theorem ready_start (config : Config) (scripts : ScriptDirectory) :
    (start config scripts).session.Ready :=
  ⟨Console.ofWorld_registerAll config scripts {}, rfl⟩

/-- A frame adds the requests of its events to those that are there. -/
theorem signals_frame (hr : s.console.registry.OfWorld) (f : Frame) :
    (s.frame f).1.console.registry = s.console.registry ∧
      (s.frame f).1.console.env.signals = s.console.env.signals ++
        Event.requests (s.console.tick f s.clipboard frameTime).trace := by
  have hleads := Console.Leads.tick s.console f s.clipboard frameTime
  obtain ⟨world, hframe⟩ := exists_console_frame f s
  rw [hframe]
  exact ⟨hleads.registry_eq, (hleads.follows hr).signals⟩

theorem signals_frames (hr : s.console.registry.OfWorld) (fs : List Frame) :
    (s.frames fs).1.console.registry = s.console.registry ∧
      (s.frames fs).1.console.env.signals =
        s.console.env.signals ++ Event.requests (s.framesEvents fs) := by
  induction fs generalizing s with
  | nil => exact ⟨rfl, (List.append_nil _).symm⟩
  | cons f fs ih =>
    obtain ⟨hregistry, hsignals⟩ := signals_frame hr f
    obtain ⟨hregistry', hsignals'⟩ := ih (hregistry ▸ hr)
    rw [frames_cons, framesEvents, Event.requests_append, ← List.append_assoc, ← hsignals]
    exact ⟨hregistry'.trans hregistry, hsignals'⟩

namespace Ready

theorem opened (h : s.Ready) : s.opened.Ready := by
  unfold Session.opened
  split
  · exact h
  · exact ⟨h.registry, h.signals⟩

/-- **The requests after a line are those of its events.** -/
theorem signals_typed (h : s.Ready) (line : String) :
    (s.typed line).console.registry.OfWorld ∧
      (s.typed line).console.env.signals = Event.requests (s.lineEvents line) := by
  obtain ⟨hregistry, hsignals⟩ := signals_frames h.opened.registry (Frame.ofLine line)
  rw [h.opened.signals, List.nil_append] at hsignals
  exact ⟨hregistry ▸ h.opened.registry, hsignals⟩

/-- **A line quits where `quit` starts in its events.** -/
theorem quits_iff (h : s.Ready) (line : String) :
    s.quits line = true ↔ .quit ∈ Event.requests (s.lineEvents line) := by
  have hquits : s.quits line = (s.typed line).console.env.signals.contains .quit := rfl
  rw [hquits, (h.signals_typed line).2, List.contains_iff_mem]

theorem settled (h : s.Ready) (line : String) : (s.settled line).Ready :=
  ⟨(h.signals_typed line).1, rfl⟩

/-- The frame between two lines makes no requests. -/
theorem gameFrame (h : s.Ready) : s.gameFrame.1.Ready := by
  have hidle : (s.setOpen false).1.console.submission? .idle = none := by
    rw [Console.submission?]
    simp [Frame.idle]
  obtain ⟨hrests, -⟩ :=
    Console.tick_of_no_submission (s.setOpen false).1.clipboard frameTime hidle
  obtain ⟨world, hframe⟩ := exists_console_frame .idle (s.setOpen false).1
  have hgame : s.gameFrame.1 = ((s.setOpen false).1.frame .idle).1 := rfl
  have hsignals := congrArg Surroundings.signals hrests.surroundings
  rw [hgame]
  constructor
  · rw [hframe]
    exact hrests.registry ▸ h.registry
  · rw [hframe]
    exact hsignals.trans h.signals

theorem enter (h : s.Ready) {line : String} (hquits : s.quits line = false) :
    (s.enter line).session.Ready := by
  rw [(enter_of_not_quits hquits).2.1]
  exact (h.settled line).gameFrame

end Ready

/-! ## Runs -/

theorem run_of_quits {line : String} (h : s.quits line = true) (rest : List (Option String)) :
    run (some line :: rest) s = ⟨s.settled line, (s.typed line).flush.2, true⟩ := by
  obtain ⟨hquit, hsession, houtput⟩ := enter_of_quits h
  rw [run, hquit, hsession, houtput]
  rfl

theorem run_of_not_quits {line : String} (h : s.quits line = false) (rest : List (Option String)) :
    run (some line :: rest) s =
      { run rest (s.enter line).session with
        output := (s.enter line).output ++ (run rest (s.enter line).session).output } := by
  rw [run, (enter_of_not_quits h).1]
  rfl

/-- **With more lines to come, the output only grows.** -/
theorem output_run_append (lines more : List (Option String)) (s : Session) :
    (run lines s).output <+: (run (lines ++ more) s).output := by
  induction lines generalizing s with
  | nil => exact List.nil_prefix
  | cons first rest ih =>
    cases first with
    | none => exact List.prefix_rfl
    | some line =>
      rw [List.cons_append]
      cases hquits : s.quits line with
      | true =>
        refine ⟨[], ?_⟩
        rw [List.append_nil, run_of_quits hquits, run_of_quits hquits]
      | false =>
        rw [run_of_not_quits hquits, run_of_not_quits hquits]
        exact (List.prefix_append_right_inj _).2 (ih _)

/-- **No line after the one that quits has an effect.** -/
theorem Ready.run_append_of_quit (h : s.Ready) {lines : List (Option String)}
    (hquit : .quit ∈ Event.requests (s.runEvents lines)) (more : List (Option String)) :
    run (lines ++ more) s = run lines s := by
  induction lines generalizing s with
  | nil => cases hquit
  | cons first rest ih =>
    cases first with
    | none => rfl
    | some line =>
      rw [List.cons_append]
      cases hquits : s.quits line with
      | true => rw [run_of_quits hquits, run_of_quits hquits]
      | false =>
        have hline : .quit ∉ Event.requests (s.lineEvents line) := by
          rw [← h.quits_iff, hquits]
          exact Bool.false_ne_true
        rw [runEvents, (enter_of_not_quits hquits).1, Event.requests_append] at hquit
        have hrest := (List.mem_append.1 hquit).resolve_left hline
        rw [run_of_not_quits hquits, run_of_not_quits hquits, ih (h.enter hquits) hrest]

/-! ## Whole sessions -/

/-- What stands on the standard output in the end. -/
def Report.stdout (r : Report) : List Char :=
  r.output.flatMap fun line => (written line).toList ++ ['\n']

/-- **A session is a stream that ends at a request to quit.**  The loop that types a line ends in
any session, with an open or a closed or a disabled console, and after exactly one turn more than
the line has characters.  What is written for some lines stands at the beginning of what is written
for these and more.  And when `quit` starts anywhere in the events of the lines, typed or in a
script however deep, and whatever fails afterwards, then more lines make no difference: not to what
is written, not to the directory of scripts, and to nothing else that the session leaves behind. -/
theorem stream_until_quit (config : Config) (scripts : ScriptDirectory)
    (lines more : List (Option String)) :
    (∀ (s : Session) (line : String) (n : Nat) (t : Seat World),
      Drains ((s.opened.seat []).pushLine line) n t ↔
        n = line.length + 1 ∧ t = (s.typed line).seat []) ∧
    (playLines config scripts lines).stdout <+: (playLines config scripts (lines ++ more)).stdout ∧
    ((∃ signature arguments depth,
        .invoked signature arguments depth ∈ (start config scripts).session.runEvents lines ∧
          signature.name = "quit") →
      (playLines config scripts (lines ++ more)).stdout = (playLines config scripts lines).stdout ∧
        (playLines config scripts (lines ++ more)).session.scripts =
          (playLines config scripts lines).session.scripts ∧
        playLines config scripts (lines ++ more) = playLines config scripts lines) := by
  refine ⟨fun s line n t => ?_, ?_, fun hquit => ?_⟩
  · have hwaiting : (s.opened.seat []).pushLine line = s.opened.seat (Frame.ofLine line) := rfl
    rw [hwaiting, drains_iff, Frame.length_ofLine]
    rfl
  · obtain ⟨added, hadded⟩ := output_run_append lines more (start config scripts).session
    refine ⟨added.flatMap fun line => (written line).toList ++ ['\n'], ?_⟩
    unfold Report.stdout playLines
    dsimp only
    rw [← hadded, ← List.append_assoc, ← List.flatMap_append]
  · have hrun := (ready_start config scripts).run_append_of_quit
      (Event.quit_mem_requests.2 hquit) more
    have hplay : playLines config scripts (lines ++ more) = playLines config scripts lines := by
      unfold playLines
      dsimp only
      rw [hrun]
    rw [hplay]
    exact ⟨rfl, rfl, rfl⟩

/-- A script that quits ends the session, though its next line fails: of the lines that were typed
after it nothing is written. -/
theorem stream_until_quit_script :
    let scripts : ScriptDirectory := ⟨"", .entries [⟨"a.exec", .text "quit\nno"⟩]⟩
    .invoked (Builtin.quit : Command World Scrollback).signature [] 1 ∈
        (start {} scripts).session.runEvents [some "exec a"] ∧
      (playLines {} scripts [some "exec a", some "print b"]).stdout =
        (playLines {} scripts [some "exec a"]).stdout ∧
      (playLines {} scripts [some "exec a"]).stdout =
        ("NES console. Type \"help\" or \"commands\".\n> exec a\n" ++
          "error: At line 2: Command not found: NO\n").toList := by
  intro scripts
  obtain ⟨hquit, hstdout⟩ : .invoked (Builtin.quit : Command World Scrollback).signature [] 1 ∈
        (start {} scripts).session.runEvents [some "exec a"] ∧
      (playLines {} scripts [some "exec a"]).stdout =
        ("NES console. Type \"help\" or \"commands\".\n> exec a\n" ++
          "error: At line 2: Command not found: NO\n").toList := by
    decide +kernel
  obtain ⟨-, -, hstream⟩ := stream_until_quit {} scripts [some "exec a"] [some "print b"]
  exact ⟨hquit, (hstream ⟨_, _, _, hquit, rfl⟩).1, hstdout⟩

end Session

end DevConsole
