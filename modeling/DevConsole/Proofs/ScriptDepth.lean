import DevConsole.Proofs.Leaves
import DevConsole.Proofs.Overload

/-! # Scripts that run scripts

A script may run scripts, itself among them, and the directory may hold whatever it likes.
Still every line comes to an end (`Registry.execute_contained`).  The depth counts the scripts
that are running; only `exec` changes it, by one, and it refuses at the limit.  So the lines
that a line executes nest no further than what is left up to the limit, and each layer of
batches around a failure belongs to one of those scripts.

Two actions are *contained* at a depth (`Action.Contained`) when they do the same there and
stay within bounds.  Leaves are, and everything that `exec` and the dispatcher do keeps it:
when the lines inside a script are contained one script deeper, the line that runs it is
contained (`contained_dispatch`).  At the limit no script runs, so an induction on what is
left of the depth ends there.
-/
namespace DevConsole

open Builtin (depthLimit)

variable {Host Out α β : Type} {d layers : Nat}

/-- What an action that started at depth `d` may do: it ends at that depth, fails within
so many layers of batches, starts no command deeper than the limit, and runs no script
when it started at the limit. -/
structure Effect.Within (d layers : Nat) (e : Effect Host α) : Prop where
  depth : e.after.depth = d
  layers_le : ∀ f, e.result = .error f → f.layers ≤ layers
  invoked_le : ∀ s arguments n, .invoked s arguments n ∈ e.trace → n ≤ max depthLimit d
  not_opened : depthLimit ≤ d → ∀ path, .opened path ∉ e.trace

/-- The two actions do the same at depth `d`, and they stay within its bounds. -/
def Action.Contained (d layers : Nat) (x y : Action Host Out α) : Prop :=
  ∀ s, s.depth = d → x.perform s = y.perform s ∧ (x.perform s).Within d layers

namespace Action

/-! ## Steps -/

theorem IsLeaf.contained {x : Action Host Out α} (h : x.IsLeaf) : Contained d layers x x := by
  intro s hs
  refine ⟨rfl, (h.depth s).trans hs, fun e he => ?_, fun _ _ _ hin => ?_, fun _ _ hin => ?_⟩
  · rw [h.layers s e he]
    exact Nat.zero_le _
  · cases h.starts s _ hin
  · cases h.starts s _ hin

theorem contained_announce (signature : Signature) (arguments : List Value) :
    Contained d layers (announce signature arguments : Action Host Out Unit)
      (announce signature arguments) := by
  intro s hs
  refine ⟨rfl, hs, fun e he => ?_, fun _ _ n hin => ?_, fun _ _ hin => ?_⟩
  · cases he
  · cases List.mem_singleton.1 hin
    rw [hs]
    exact Nat.le_max_right _ _
  · cases List.mem_singleton.1 hin

theorem contained_opened (hd : d < depthLimit) (path : String) :
    Contained d layers (emit [.opened path] : Action Host Out Unit) (emit [.opened path]) := by
  intro s hs
  refine ⟨rfl, hs, fun e he => ?_, fun _ _ n hin => ?_, fun hle => ?_⟩
  · cases he
  · cases List.mem_singleton.1 hin
  · exact absurd hd (Nat.not_lt.2 hle)

theorem Contained.bind {x y : Action Host Out α} {f g : α → Action Host Out β}
    (hx : Contained d layers x y) (hf : ∀ a, Contained d layers (f a) (g a)) :
    Contained d layers (x >>= f) (y >>= g) := by
  intro s hs
  obtain ⟨heq, hfirst⟩ := hx s hs
  -- A failure of the first action is that of both; otherwise the second starts at the same depth.
  cases hr : (x.perform s).result with
  | error e =>
    rw [perform_bind_error hr, perform_bind_error (heq ▸ hr), ← heq]
    refine ⟨rfl, hfirst.depth, fun f hf => ?_, hfirst.invoked_le, hfirst.not_opened⟩
    cases hf
    exact hfirst.layers_le e hr
  | ok a =>
    obtain ⟨heq', hsecond⟩ := hf a (x.perform s).after hfirst.depth
    rw [perform_bind_ok hr, perform_bind_ok (heq ▸ hr), ← heq, ← heq']
    refine ⟨rfl, hsecond.depth, hsecond.layers_le, fun s' arguments n hin => ?_,
      fun hle path hin => ?_⟩
    · rcases List.mem_append.1 hin with hin | hin
      · exact hfirst.invoked_le s' arguments n hin
      · exact hsecond.invoked_le s' arguments n hin
    · rcases List.mem_append.1 hin with hin | hin
      · exact hfirst.not_opened hle path hin
      · exact hsecond.not_opened hle path hin

/-- What comes after a look at the surroundings may depend on them, and knows the depth. -/
theorem Contained.get_bind {f g : Surroundings Host → Action Host Out α}
    (h : ∀ s, s.depth = d → Contained d layers (f s) (g s)) :
    Contained d layers (get >>= f) (get >>= g) := by
  intro s hs
  exact h s hs s hs

/-- A batch puts one layer around a failure. -/
theorem Contained.batch {x y : Action Host Out α} (h : Contained d layers x y) (number : Nat) :
    Contained d (layers + 1) (x.mapFailure (.batch number)) (y.mapFailure (.batch number)) := by
  intro s hs
  obtain ⟨heq, hx⟩ := h s hs
  rw [perform_mapFailure, perform_mapFailure, ← heq]
  refine ⟨rfl, hx.depth, fun f hf => ?_, hx.invoked_le, hx.not_opened⟩
  cases hr : (x.perform s).result with
  | error e =>
    rw [hr] at hf
    cases hf
    exact Nat.succ_le_succ (hx.layers_le e hr)
  | ok a =>
    rw [hr] at hf
    cases hf

/-- Below the limit, a script may do what is within the bounds one script deeper. -/
theorem Contained.deeper {x y : Action Host Out α} (hd : d < depthLimit)
    (h : Contained (d + 1) layers x y) : Contained d layers x.deeper y.deeper := by
  intro s hs
  obtain ⟨heq, hx⟩ := h { s with depth := s.depth + 1 } (congrArg (· + 1) hs)
  rw [perform_deeper, perform_deeper, ← heq]
  refine ⟨rfl, ?_, hx.layers_le, fun s' arguments n hin => ?_, fun hle => ?_⟩
  · exact congrArg (· - 1) hx.depth
  · have hn := hx.invoked_le s' arguments n hin
    omega
  · exact absurd hd (Nat.not_lt.2 hle)

/-! ## Scripts -/

theorem contained_runLines {execute execute' : String → Action Host Out (Option Value)}
    (h : ∀ line, Contained d layers (execute line) (execute' line)) (lines : List (Nat × String)) :
    Contained d (layers + 1) (Batch.runLines execute lines) (Batch.runLines execute' lines) := by
  induction lines with
  | nil => exact (isLeaf_pure ()).contained
  | cons numbered rest ih => exact ((h numbered.2).batch numbered.1).bind fun _ => ih

/-- What is left of the depth below `d` is one more than below `d + 1`. -/
theorem layers_below (hd : d < depthLimit) : depthLimit - (d + 1) + 1 = depthLimit - d := by omega

theorem contained_runScript {catalogue : Catalogue}
    {execute execute' : String → Action Host Out (Option Value)}
    (h : d < depthLimit →
      ∀ line, Contained (d + 1) (depthLimit - (d + 1)) (execute line) (execute' line))
    (entries : List ScriptDirectory.Entry) (name : String) :
    Contained d (depthLimit - d) (Builtin.runScript ⟨catalogue, execute⟩ entries name)
      (Builtin.runScript ⟨catalogue, execute'⟩ entries name) := by
  refine Contained.get_bind fun s hs => ?_
  split
  · exact (isLeaf_fail rfl).contained
  · split
    · exact (isLeaf_fail rfl).contained
    · rename_i hlt
      rw [hs, Nat.not_le] at hlt
      -- The script runs: one layer for it, and all that is left of the depth inside.
      refine (Builtin.isLeaf_source _).contained.bind fun text => ?_
      refine (contained_opened hlt _).bind fun _ => Contained.deeper hlt ?_
      rw [← layers_below hlt]
      exact contained_runLines (h hlt) _

variable [Sink Out]

theorem contained_exec {catalogue : Catalogue}
    {execute execute' : String → Action Host Out (Option Value)}
    (h : d < depthLimit →
      ∀ line, Contained (d + 1) (depthLimit - (d + 1)) (execute line) (execute' line))
    (arguments : List Value) :
    Contained d (depthLimit - d) (Builtin.exec.body ⟨catalogue, execute⟩ arguments)
      (Builtin.exec.body ⟨catalogue, execute'⟩ arguments) := by
  refine Arguments.isLeaf_string.contained.bind fun name => Contained.get_bind fun s hs => ?_
  dsimp only
  split
  · exact Builtin.isLeaf_makeDirectory.contained.bind fun _ => (isLeaf_pure _).contained
  · exact (contained_runScript h _ name).bind fun _ => (isLeaf_pure _).contained

end Action

/-! ## Lines -/

namespace Registry

variable [Sink Out] {r : Registry Host Out}

/-- Every command is a built-in one or a leaf. -/
def IsPlain (r : Registry Host Out) : Prop := ∀ c ∈ r.commands, c ∈ Builtin.all ∨ c.IsLeaf

/-- **A line is contained when the lines inside its script are, one script deeper.** -/
theorem contained_dispatch (hr : r.IsPlain)
    {execute execute' : String → Action Host Out (Option Value)}
    (h : d < depthLimit →
      ∀ line, (execute line).Contained (d + 1) (depthLimit - (d + 1)) (execute' line))
    (line : String) :
    (r.dispatch execute line).Contained d (depthLimit - d) (r.dispatch execute' line) := by
  refine (Action.isLeaf_notes _).contained.bind fun _ => ?_
  cases hres : r.resolve line with
  | unknown name => exact (Action.isLeaf_fail rfl).contained
  | unmatched name => exact (Action.isLeaf_fail rfl).contained
  | selected c arguments =>
    refine (Action.contained_announce _ _).bind fun _ => ?_
    have hcases : c = Builtin.exec ∨ c.IsLeaf :=
      (hr c (mem_commands_of_selected hres)).elim Builtin.eq_exec_or_isLeaf Or.inr
    rcases hcases with rfl | hleaf
    · exact Action.contained_exec h arguments
    · rw [hleaf.same r.catalogue execute execute' arguments]
      exact (hleaf.leaf _ _).contained

/-- Lines that may nest as deep as what is left of the depth never reach the last level. -/
theorem contained_nest (hr : r.IsPlain) (base base' : String → Action Host Out (Option Value))
    {levels levels' : Nat} (hlevels : depthLimit - d + 1 ≤ levels)
    (hlevels' : depthLimit - d + 1 ≤ levels') (line : String) :
    (r.nest base levels line).Contained d (depthLimit - d) (r.nest base' levels' line) := by
  -- Each level takes one from the levels and one from what is left of the depth.
  induction levels generalizing d levels' line with
  | zero => omega
  | succ levels ih =>
    cases levels' with
    | zero => omega
    | succ levels' => exact contained_dispatch hr (fun hd => ih (by omega) (by omega)) line

/-- **Every line comes to an end, whatever the scripts say.**  So many levels of nesting as are
left of the depth, and one more, are all that is ever used: what would stand below them makes
no difference.  No command starts deeper than the limit, a failure has at most as many
layers as are left of the depth, and at the limit no script runs. -/
theorem execute_contained (hr : r.IsPlain) (line : String) (env : Environment Host Out) :
    (∀ (base : String → Action Host Out (Option Value)) (levels : Nat),
        depthLimit - env.depth + 1 ≤ levels → r.nest base levels line env = r.execute line env) ∧
      (env.depth ≤ depthLimit → ∀ s arguments n,
        .invoked s arguments n ∈ (r.execute line env).trace → n ≤ depthLimit) ∧
      (∀ e, (r.execute line env).result = .error e → e.layers ≤ depthLimit - env.depth) ∧
      (depthLimit ≤ env.depth → ∀ path, .opened path ∉ (r.execute line env).trace) := by
  -- The registry itself allows for many more levels than scripts can use.
  have hlimit : depthLimit - env.depth + 1 ≤ nestingLimit := by
    have : depthLimit + 1 ≤ nestingLimit := by decide
    omega
  have hsame : ∀ base levels, depthLimit - env.depth + 1 ≤ levels →
      (r.nest base levels line).perform env.toSurroundings =
        (r.execute line).perform env.toSurroundings :=
    fun base levels hlevels => (contained_nest hr base refuse hlevels hlimit line _ rfl).1
  have hwithin : ((r.execute line).perform env.toSurroundings).Within env.depth
      (depthLimit - env.depth) :=
    (contained_nest hr refuse refuse hlimit hlimit line env.toSurroundings rfl).2
  refine ⟨fun base levels hlevels => ?_, fun hd s arguments n hin => ?_, hwithin.layers_le,
    hwithin.not_opened⟩
  · rw [Action.run, Action.run, hsame base levels hlevels]
  · have hn := hwithin.invoked_le s arguments n hin
    omega

/-- A script that spawns an enemy and runs itself comes to an end in a registry of the built-in
commands and those of the world, under all the layers that there may be. -/
theorem execute_contained_loop :
    let r : Registry World Transcript := (Builtin.registry.registerAll World.commands).1
    let script : ScriptDirectory.Entry := ⟨"loop.exec", .text "spawn_enemies 1\nexec LOOP"⟩
    let env : Environment World Transcript :=
      { scripts := ⟨"", .entries [script]⟩, host := {}, out := {} }
    (∀ (base : String → Action World Transcript (Option Value)) (levels : Nat), 17 ≤ levels →
        r.nest base levels "exec loop" env = r.execute "exec loop" env) ∧
      (∀ s arguments n, .invoked s arguments n ∈ (r.execute "exec loop" env).trace → n ≤ 16) ∧
      (∀ e, (r.execute "exec loop" env).result = .error e → e.layers ≤ 16) ∧
      (match (r.execute "exec loop" env).result with
        | .error e => e.layers
        | .ok _ => 0) = 16 ∧
      (r.execute "exec loop" env).env.host.enemies = 16 := by
  intro r script env
  have hcommands : r.commands = Builtin.all ++ World.commands :=
    (registerAll_of_accepted _ _ (by decide)).1
  have hr : r.IsPlain := by
    intro c hc
    rw [hcommands, List.mem_append] at hc
    exact hc.imp_right World.isLeaf_of_mem_commands
  obtain ⟨hsame, hinvoked, hlayers, -⟩ := execute_contained hr "exec loop" env
  refine ⟨hsame, hinvoked (by decide), hlayers, ?_⟩
  rw [← hsame refuse 17 (by decide)]
  decide +kernel

end Registry

end DevConsole
