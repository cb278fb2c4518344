import DevConsole.Proofs.Leaves
import DevConsole.Proofs.Overload

/-! # The depth is restored

The depth counts the scripts that are running.  Running one counts it up, and afterwards counts
it down again, whether the script came to its end or failed in one of its lines.  Everything
that can stop a script before it runs, such as a file that is missing or cannot be read, stands
before the count goes up.  So every line and every batch ends at the depth at which it started
(`depth_restored`).

A command of the host may execute lines and run batches itself.  It is only asked to keep the
depth *as far as the lines that it executes do* (`Command.KeepsDepthWith`), and that they do is
what is proved, by induction on how deep they nest.
-/
namespace DevConsole

variable {Host Out α β : Type}

/-- The action ends at the depth at which it started, however it ends. -/
def Action.KeepsDepth (x : Action Host Out α) : Prop :=
  ∀ s, (x.perform s).after.depth = s.depth

/-- The command keeps the depth, provided that the lines that it executes keep it. -/
def Command.KeepsDepthWith (c : Command Host Out) (interpreter : Interpreter Host Out) : Prop :=
  (∀ line, (interpreter.execute line).KeepsDepth) →
    ∀ arguments, (c.body interpreter arguments).KeepsDepth

/-! ## Steps -/

namespace Action

theorem IsLeaf.keepsDepth {x : Action Host Out α} (h : x.IsLeaf) : x.KeepsDepth := h.depth

theorem keepsDepth_announce (signature : Signature) (arguments : List Value) :
    (announce signature arguments : Action Host Out Unit).KeepsDepth := fun _ => rfl

theorem keepsDepth_emit (trace : List Event) : (emit trace : Action Host Out Unit).KeepsDepth :=
  fun _ => rfl

theorem KeepsDepth.bind {x : Action Host Out α} {f : α → Action Host Out β} (hx : x.KeepsDepth)
    (hf : ∀ a, (f a).KeepsDepth) : (x >>= f).KeepsDepth := by
  intro s
  rcases result_cases x s with ⟨e, h⟩ | ⟨a, h⟩
  · rw [perform_bind_error h]
    exact hx s
  · rw [perform_bind_ok h]
    exact (hf a _).trans (hx s)

theorem KeepsDepth.mapFailure {x : Action Host Out α} (hx : x.KeepsDepth)
    (f : Failure → Failure) : (x.mapFailure f).KeepsDepth := hx

/-- What is counted up before an action that keeps the depth is counted down after it, also
when the action fails. -/
theorem KeepsDepth.deeper {x : Action Host Out α} (hx : x.KeepsDepth) : x.deeper.KeepsDepth := by
  intro s
  have hinside : (x.perform { s with depth := s.depth + 1 }).after.depth = s.depth + 1 := hx _
  rw [perform_deeper]
  exact congrArg (· - 1) hinside

/-! ## Batches and scripts -/

section Batches

variable {execute : String → Action Host Out (Option Value)}
  (h : ∀ line, (execute line).KeepsDepth)
include h

theorem keepsDepth_runLines (lines : List (Nat × String)) :
    (Batch.runLines execute lines).KeepsDepth := by
  induction lines with
  | nil => exact (isLeaf_pure ()).keepsDepth
  | cons numbered rest ih => exact ((h numbered.2).mapFailure _).bind fun _ => ih

theorem keepsDepth_batch (source : String) : (Batch.run execute source).KeepsDepth :=
  keepsDepth_runLines h _

theorem keepsDepth_runScript (catalogue : Catalogue) (entries : List ScriptDirectory.Entry)
    (name : String) : (Builtin.runScript ⟨catalogue, execute⟩ entries name).KeepsDepth := by
  refine isLeaf_get.keepsDepth.bind fun s => ?_
  split
  · exact (isLeaf_fail rfl).keepsDepth
  · split
    · exact (isLeaf_fail rfl).keepsDepth
    · refine (Builtin.isLeaf_source _).keepsDepth.bind fun text => ?_
      exact (keepsDepth_emit _).bind fun _ => (keepsDepth_batch h text).deeper

end Batches

end Action

/-! ## Commands and lines -/

open DevConsole.Action

theorem Command.IsElementary.keepsDepthWith {c : Command Host Out} (h : c.IsElementary)
    (interpreter : Interpreter Host Out) : c.KeepsDepthWith interpreter :=
  fun _ arguments => (h.elementary interpreter arguments).isLeaf.keepsDepth

variable [Sink Out]

theorem Builtin.keepsDepthWith_exec (interpreter : Interpreter Host Out) :
    Builtin.exec.KeepsDepthWith interpreter := by
  intro h arguments
  refine Arguments.isLeaf_string.keepsDepth.bind fun name => isLeaf_get.keepsDepth.bind fun s => ?_
  dsimp only
  split
  · exact Builtin.isLeaf_makeDirectory.keepsDepth.bind fun _ => (isLeaf_pure _).keepsDepth
  · exact (keepsDepth_runScript h interpreter.catalogue _ name).bind fun _ =>
      (isLeaf_pure _).keepsDepth

/-- **Every built-in command keeps the depth**, provided that the lines of scripts do. -/
theorem Builtin.keepsDepthWith_of_mem_all {c : Command Host Out}
    (h : c ∈ (Builtin.all : List (Command Host Out))) (interpreter : Interpreter Host Out) :
    c.KeepsDepthWith interpreter := by
  rcases Builtin.eq_exec_or_isElementary h with rfl | h
  · exact Builtin.keepsDepthWith_exec interpreter
  · exact h.keepsDepthWith interpreter

namespace Registry

variable {r : Registry Host Out}

omit [Sink Out] in
theorem keepsDepth_dispatch {execute : String → Action Host Out (Option Value)}
    (hr : ∀ c ∈ r.commands, c.KeepsDepthWith ⟨r.catalogue, execute⟩)
    (h : ∀ line, (execute line).KeepsDepth) (line : String) :
    (r.dispatch execute line).KeepsDepth := by
  refine (isLeaf_notes _).keepsDepth.bind fun _ => ?_
  cases hres : r.resolve line with
  | unknown name => exact (isLeaf_fail rfl).keepsDepth
  | unmatched name => exact (isLeaf_fail rfl).keepsDepth
  | selected c arguments =>
    refine (keepsDepth_announce _ _).bind fun _ => ?_
    exact hr c (mem_commands_of_selected hres) h arguments

omit [Sink Out] in
/-- **Lines keep the depth, however deep they nest.** -/
theorem keepsDepth_nest
    (hr : ∀ c ∈ r.commands, ∀ levels, c.KeepsDepthWith ⟨r.catalogue, r.nest refuse levels⟩)
    (levels : Nat) (line : String) : (r.nest refuse levels line).KeepsDepth := by
  induction levels generalizing line with
  | zero => exact (isLeaf_fail rfl).keepsDepth
  | succ levels ih => exact keepsDepth_dispatch (fun c hc => hr c hc levels) ih line

/-- **Every line and every batch ends at the depth at which it started**, with a value or with a
failure, whatever the directory of scripts holds; and so do the lines and the batches that
commands run inside. -/
theorem depth_restored
    (hr : ∀ c ∈ r.commands,
      c ∈ Builtin.all ∨ ∀ levels, c.KeepsDepthWith ⟨r.catalogue, r.nest refuse levels⟩)
    (env : Environment Host Out) :
    (∀ line, (r.execute line env).env.depth = env.depth) ∧
      (∀ source, (Batch.run r.execute source env).env.depth = env.depth) ∧
      ∀ levels, (∀ line, (r.nest refuse levels line env).env.depth = env.depth) ∧
        ∀ source, (Batch.run (r.nest refuse levels) source env).env.depth = env.depth := by
  have hkeeps : ∀ c ∈ r.commands, ∀ levels,
      c.KeepsDepthWith ⟨r.catalogue, r.nest refuse levels⟩ := fun c hc levels =>
    (hr c hc).elim (fun hbuiltin => Builtin.keepsDepthWith_of_mem_all hbuiltin _) (· levels)
  have hnest : ∀ levels, (∀ line, (r.nest refuse levels line env).env.depth = env.depth) ∧
      ∀ source, (Batch.run (r.nest refuse levels) source env).env.depth = env.depth := by
    intro levels
    have hlines := keepsDepth_nest hkeeps levels
    exact ⟨fun line => hlines line _, fun source => keepsDepth_batch hlines source _⟩
  obtain ⟨hexecute, hbatch⟩ := hnest nestingLimit
  exact ⟨hexecute, hbatch, hnest⟩

/-- A command that executes a line and then runs a batch. -/
def relayCommand : Command Unit Transcript where
  signature :=
    { name := "relay"
      parameters := [{ name := "line", kind := .string }, { name := "batch", kind := .string }] }
  body interpreter arguments := do
    let line ← Action.ofExcept (Arguments.string arguments 0)
    let source ← Action.ofExcept (Arguments.string arguments 1)
    let _ ← interpreter.execute line
    Batch.run interpreter.execute source
    pure none

/-- A script relays a line, which runs a script, and then a batch, which asks for a script that
cannot be read.  The failure comes out of two batches, and the depth is what it was. -/
theorem depth_restored_relay :
    let r : Registry Unit Transcript := (Builtin.registry.registerAll [relayCommand]).1
    let scripts : ScriptDirectory := ⟨"", .entries
      [⟨"a.exec", .text "relay 'exec b' '//\\Nexec c'"⟩, ⟨"b.exec", .text "quit"⟩,
        ⟨"c.exec", .unreadable⟩]⟩
    let env : Environment Unit Transcript := { scripts, depth := 3, host := (), out := {} }
    (∀ c ∈ r.commands,
      c ∈ Builtin.all ∨ ∀ levels, c.KeepsDepthWith ⟨r.catalogue, r.nest refuse levels⟩) ∧
    (r.execute "exec a" env).env.depth = 3 ∧
      (r.nest refuse 6 "exec a" env).env.depth = 3 ∧
      (match (r.nest refuse 6 "exec a" env).result with
        | .error e => e.message
        | .ok _ => "") = "At line 1: At line 2: I/O error: Permission denied (os error 13)" := by
  intro r scripts env
  have hcommands : r.commands = Builtin.all ++ [relayCommand] :=
    (registerAll_of_accepted _ _ (by decide)).1
  have hrelay : ∀ interpreter, relayCommand.KeepsDepthWith interpreter := by
    intro interpreter h arguments
    refine Arguments.isLeaf_string.keepsDepth.bind fun line => ?_
    refine Arguments.isLeaf_string.keepsDepth.bind fun source => ?_
    refine (h line).bind fun _ => (keepsDepth_batch h source).bind fun _ => ?_
    exact (isLeaf_pure _).keepsDepth
  have hr : ∀ c ∈ r.commands,
      c ∈ Builtin.all ∨ ∀ levels, c.KeepsDepthWith ⟨r.catalogue, r.nest refuse levels⟩ := by
    intro c hc
    rw [hcommands, List.mem_append, List.mem_singleton] at hc
    refine hc.imp_right ?_
    rintro rfl levels
    exact hrelay _
  obtain ⟨hexecute, -, hnest⟩ := depth_restored hr env
  exact ⟨hr, hexecute "exec a", (hnest 6).1 "exec a", by decide +kernel⟩

end Registry

end DevConsole
