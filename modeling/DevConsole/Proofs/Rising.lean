import DevConsole.Proofs.Leaves
import DevConsole.Proofs.Overload

/-! # Lines in a script and outside of it

The lines of a script run one script deeper than the line that runs it.  The depth is all that
tells the two apart, and of the built-in commands only `exec` looks at it: at the limit it
refuses.  So running deeper can make a line fail, but it cannot make it succeed in another way.

An action *rises to* another when the other one does, without a script around it, whatever the
first one succeeds in doing inside one (`Action.RisesTo`).  An action that ignores the depth
rises to itself, one that only fails rises to every other, and all that `exec` and the
dispatcher do keeps it.  By induction on how deep lines nest, every line that succeeds inside a
script does the same outside (`Registry.risesTo_nest`).
-/
namespace DevConsole

variable {Host Out α β : Type}

/-! ## Traces without depths -/

/-- The event without the depth at which a command started. -/
def Event.unmarked : Event → Event
  | invoked signature arguments _ => invoked signature arguments 0
  | event => event

theorem Event.note?_unmarked (event : Event) : event.unmarked.note? = event.note? := by
  cases event <;> rfl

theorem Event.notes_unmarked (trace : List Event) :
    notes (trace.map unmarked) = notes trace := by
  have hnote : note? ∘ unmarked = note? := funext note?_unmarked
  rw [notes, List.filterMap_map, hnote]
  rfl

theorem Sink.receive_unmarked [Sink Out] (out : Out) (event : Event) :
    receive out event.unmarked = receive out event := by
  cases event <;> rfl

theorem Sink.receiveAll_unmarked [Sink Out] (out : Out) (trace : List Event) :
    receiveAll out (trace.map Event.unmarked) = receiveAll out trace := by
  induction trace generalizing out with
  | nil => rfl
  | cons event trace ih =>
    rw [List.map_cons, receiveAll_cons, receiveAll_cons, receive_unmarked, ih]

/-! ## Actions that ignore the depth -/

/-- The action neither looks at the depth nor changes it. -/
def Action.IgnoresDepth (x : Action Host Out α) : Prop :=
  ∀ s n, x.perform { s with depth := n } =
    { x.perform s with after := { (x.perform s).after with depth := n } }

/-- The body executes no lines, and neither looks at the depth nor changes it. -/
structure Command.IgnoresDepth (c : Command Host Out) : Prop where
  same : ∀ catalogue execute execute' arguments,
    c.body ⟨catalogue, execute⟩ arguments = c.body ⟨catalogue, execute'⟩ arguments
  ignores : ∀ interpreter arguments, (c.body interpreter arguments).IgnoresDepth

namespace Action

theorem IgnoresDepth.bind {x : Action Host Out α} {f : α → Action Host Out β}
    (hx : x.IgnoresDepth) (hf : ∀ a, (f a).IgnoresDepth) : (x >>= f).IgnoresDepth := by
  intro s n
  have hfirst := hx s n
  rcases result_cases x s with ⟨e, he⟩ | ⟨a, ha⟩
  · have he' : (x.perform { s with depth := n }).result = .error e := by rw [hfirst, he]
    rw [perform_bind_error he, perform_bind_error he', hfirst]
  · have ha' : (x.perform { s with depth := n }).result = .ok a := by rw [hfirst, ha]
    rw [perform_bind_ok ha, perform_bind_ok ha', hfirst]
    dsimp only
    rw [hf a (x.perform s).after n]

/-- **Elementary actions ignore the depth.** -/
theorem Elementary.ignoresDepth {x : Action Host Out α} (h : x.Elementary) : x.IgnoresDepth := by
  induction h with
  | pure a => exact fun _ _ => rfl
  | fail h => exact fun _ _ => rfl
  | emit h => exact fun _ _ => rfl
  | modify h => exact fun s n => by rw [perform_modify, perform_modify, h]
  | @inspect _ f same next ih =>
    intro s n
    -- The look at the surroundings leads to the same action, which ignores the depth.
    have hinside : (get >>= f).perform { s with depth := n } =
        (f { s with depth := n }).perform { s with depth := n } := rfl
    rw [hinside, same]
    exact ih s s n
  | bind first next ih ih' => exact ih.bind ih'

end Action

theorem Command.IsElementary.ignoresDepth {c : Command Host Out} (h : c.IsElementary) :
    c.IgnoresDepth where
  same := h.same
  ignores interpreter arguments := (h.elementary interpreter arguments).ignoresDepth

/-! ## Rising -/

/-- The surroundings of the lines of a script that runs in these. -/
def Surroundings.inScript (s : Surroundings Host) : Surroundings Host :=
  { s with depth := s.depth + 1 }

/-- The surroundings after a script whose lines left these. -/
def Surroundings.afterScript (s : Surroundings Host) : Surroundings Host :=
  { s with depth := s.depth - 1 }

@[simp] theorem Surroundings.afterScript_inScript (s : Surroundings Host) :
    s.inScript.afterScript = s := rfl

theorem Surroundings.inScript_afterScript {s : Surroundings Host} {n : Nat}
    (h : s.depth = n + 1) : s.afterScript.inScript = s := by
  have hdepth : s.depth - 1 + 1 = s.depth := by omega
  rw [inScript, afterScript, hdepth]

/-- What was done in a script is what was done at depth `d` without it, but for the depth. -/
structure Effect.Matches (d : Nat) (inner outer : Effect Host α) : Prop where
  result : inner.result = outer.result
  depth : outer.after.depth = d
  after : inner.after = outer.after.inScript
  trace : inner.trace.map Event.unmarked = outer.trace.map Event.unmarked

theorem Effect.Matches.receiveAll_eq [Sink Out] {d : Nat} {inner outer : Effect Host α}
    (h : inner.Matches d outer) (out : Out) :
    Sink.receiveAll out inner.trace = Sink.receiveAll out outer.trace := by
  rw [← Sink.receiveAll_unmarked, h.trace, Sink.receiveAll_unmarked]

theorem Effect.Matches.notes_eq {d : Nat} {inner outer : Effect Host α}
    (h : inner.Matches d outer) : Event.notes inner.trace = Event.notes outer.trace := by
  rw [← Event.notes_unmarked, h.trace, Event.notes_unmarked]

/-- Where the first action succeeds in a script, the second does the same without it. -/
def Action.RisesTo (x y : Action Host Out α) : Prop :=
  ∀ s a, (x.perform s.inScript).result = .ok a →
    (x.perform s.inScript).Matches s.depth (y.perform s)

namespace Action

theorem IgnoresDepth.risesTo {x : Action Host Out α} (h : x.IgnoresDepth) : x.RisesTo x := by
  intro s a _
  have hinside := h s (s.depth + 1)
  have hself := congrArg (·.after.depth) (h s s.depth)
  rw [Surroundings.inScript, hinside]
  refine ⟨rfl, hself, ?_, rfl⟩
  rw [Surroundings.inScript, show (x.perform s).after.depth = s.depth from hself]

/-- Nothing has to be matched where the action cannot succeed. -/
theorem risesTo_fail (e : Failure) (y : Action Host Out α) : (fail e).RisesTo y := by
  intro s a h
  cases h

theorem risesTo_emit (trace : List Event) :
    (emit trace : Action Host Out Unit).RisesTo (emit trace) :=
  fun _ _ _ => ⟨rfl, rfl, rfl, rfl⟩

theorem risesTo_announce (signature : Signature) (arguments : List Value) :
    (announce signature arguments : Action Host Out Unit).RisesTo (announce signature arguments) :=
  fun _ _ _ => ⟨rfl, rfl, rfl, rfl⟩

/-- Where one action after the other succeeds, both of them do. -/
theorem exists_of_bind_ok {x : Action Host Out α} {f : α → Action Host Out β}
    {s : Surroundings Host} {b : β} (h : ((x >>= f).perform s).result = .ok b) :
    ∃ a, (x.perform s).result = .ok a ∧ ((f a).perform (x.perform s).after).result = .ok b := by
  rcases result_cases x s with ⟨e, he⟩ | ⟨a, ha⟩
  · rw [perform_bind_error he] at h
    cases h
  · rw [perform_bind_ok ha] at h
    exact ⟨a, ha, h⟩

theorem RisesTo.bind {x y : Action Host Out α} {f g : α → Action Host Out β}
    (hx : x.RisesTo y) (hf : ∀ a, (f a).RisesTo (g a)) : (x >>= f).RisesTo (y >>= g) := by
  intro s b hb
  -- The whole succeeds, so its first part does, and the second part starts where that ends.
  obtain ⟨a, ha, hb⟩ := exists_of_bind_ok hb
  have hfirst := hx s a ha
  have ha' : (y.perform s).result = .ok a := hfirst.result.symm.trans ha
  rw [hfirst.after] at hb
  have hsecond := hf a (y.perform s).after b hb
  rw [perform_bind_ok ha, perform_bind_ok ha', hfirst.after]
  refine ⟨hsecond.result, hsecond.depth.trans hfirst.depth, hsecond.after, ?_⟩
  rw [List.map_append, List.map_append, hfirst.trace, hsecond.trace]

/-- What comes after a look at the surroundings may depend on them, and sees another depth. -/
theorem RisesTo.get_bind {f g : Surroundings Host → Action Host Out α}
    (h : ∀ s, (f s.inScript).RisesTo (g s)) : (get >>= f).RisesTo (get >>= g) :=
  fun s a ha => h s s a ha

theorem RisesTo.mapFailure {x y : Action Host Out α} (h : x.RisesTo y) (f g : Failure → Failure) :
    (x.mapFailure f).RisesTo (y.mapFailure g) := by
  intro s b hb
  rcases result_cases x s.inScript with ⟨e, he⟩ | ⟨a, ha⟩
  · rw [perform_mapFailure, he] at hb
    cases hb
  · obtain ⟨hresult, hdepth, hafter, htrace⟩ := h s a ha
    refine ⟨?_, hdepth, hafter, htrace⟩
    rw [perform_mapFailure, perform_mapFailure, ← hresult, ha]
    rfl

theorem perform_deeper_inScript (x : Action Host Out α) (s : Surroundings Host) :
    x.deeper.perform s =
      ⟨(x.perform s.inScript).result, (x.perform s.inScript).after.afterScript,
        (x.perform s.inScript).trace⟩ := rfl

/-- A script inside a script does what it does outside of it. -/
theorem RisesTo.deeper {x y : Action Host Out α} (h : x.RisesTo y) : x.deeper.RisesTo y.deeper := by
  intro s a ha
  obtain ⟨hresult, hdepth, hafter, htrace⟩ := h s.inScript a ha
  rw [perform_deeper_inScript, perform_deeper_inScript]
  refine ⟨hresult, congrArg (· - 1) hdepth, ?_, htrace⟩
  calc (x.perform s.inScript.inScript).after.afterScript
      = (y.perform s.inScript).after.inScript.afterScript := by rw [hafter]
    _ = (y.perform s.inScript).after := Surroundings.afterScript_inScript _
    _ = (y.perform s.inScript).after.afterScript.inScript :=
      (Surroundings.inScript_afterScript hdepth).symm

/-! ## Batches and scripts -/

section Batches

variable {execute execute' : String → Action Host Out (Option Value)}
  (h : ∀ line, (execute line).RisesTo (execute' line))
include h

theorem risesTo_runLines (lines : List (Nat × String)) :
    (Batch.runLines execute lines).RisesTo (Batch.runLines execute' lines) := by
  induction lines with
  | nil => exact (Elementary.pure ()).ignoresDepth.risesTo
  | cons numbered rest ih => exact ((h numbered.2).mapFailure _ _).bind fun _ => ih

theorem risesTo_batch (source : String) :
    (Batch.run execute source).RisesTo (Batch.run execute' source) :=
  risesTo_runLines h _

/-- A script that may run inside another one may run outside of it. -/
theorem risesTo_runScript (catalogue : Catalogue) (entries : List ScriptDirectory.Entry)
    (name : String) :
    (Builtin.runScript ⟨catalogue, execute⟩ entries name).RisesTo
      (Builtin.runScript ⟨catalogue, execute'⟩ entries name) := by
  refine RisesTo.get_bind fun s => ?_
  cases entries.find? (·.isScript name) with
  | none => exact risesTo_fail _ _
  | some entry =>
    dsimp only
    split
    · exact risesTo_fail _ _
    · rename_i hinside
      have houtside : ¬ Builtin.depthLimit ≤ s.depth := fun hle =>
        hinside (Nat.le_succ_of_le hle)
      rw [if_neg houtside]
      refine (Builtin.elementary_source entry).ignoresDepth.risesTo.bind fun text => ?_
      exact (risesTo_emit _).bind fun _ => (risesTo_batch h text).deeper

variable [Sink Out]

theorem risesTo_exec (catalogue : Catalogue) (arguments : List Value) :
    (Builtin.exec.body ⟨catalogue, execute⟩ arguments).RisesTo
      (Builtin.exec.body ⟨catalogue, execute'⟩ arguments) := by
  refine Arguments.elementary_string.ignoresDepth.risesTo.bind fun name => ?_
  refine RisesTo.get_bind fun s => ?_
  have hentries : s.inScript.scripts.entries? = s.scripts.entries? := rfl
  dsimp only
  rw [hentries]
  cases s.scripts.entries? with
  | none =>
    exact Builtin.elementary_makeDirectory.ignoresDepth.risesTo.bind fun _ =>
      (Elementary.pure _).ignoresDepth.risesTo
  | some entries =>
    exact (risesTo_runScript h catalogue entries name).bind fun _ =>
      (Elementary.pure _).ignoresDepth.risesTo

end Batches

end Action

/-! ## Lines -/

namespace Registry

open DevConsole.Action

variable [Sink Out] {r : Registry Host Out} {own : List (Command Host Out)}

/-- A command of such a registry is `exec` or ignores the depth. -/
theorem eq_exec_or_ignoresDepth (hr : r.commands = Builtin.all ++ own)
    (hown : ∀ c ∈ own, c.IgnoresDepth) {c : Command Host Out} (hc : c ∈ r.commands) :
    c = Builtin.exec ∨ c.IgnoresDepth := by
  rw [hr, List.mem_append] at hc
  rcases hc with hc | hc
  · exact (Builtin.eq_exec_or_isElementary hc).imp_right Command.IsElementary.ignoresDepth
  · exact Or.inr (hown c hc)

theorem risesTo_dispatch (hr : r.commands = Builtin.all ++ own)
    (hown : ∀ c ∈ own, c.IgnoresDepth)
    {execute execute' : String → Action Host Out (Option Value)}
    (h : ∀ line, (execute line).RisesTo (execute' line)) (line : String) :
    (r.dispatch execute line).RisesTo (r.dispatch execute' line) := by
  refine (elementary_notes _).ignoresDepth.risesTo.bind fun _ => ?_
  cases hres : r.resolve line with
  | unknown name => exact risesTo_fail _ _
  | unmatched name => exact risesTo_fail _ _
  | selected c arguments =>
    refine (risesTo_announce _ _).bind fun _ => ?_
    rcases eq_exec_or_ignoresDepth hr hown (mem_commands_of_selected hres) with rfl | hignores
    · exact risesTo_exec h r.catalogue arguments
    · rw [hignores.same r.catalogue execute execute' arguments]
      exact (hignores.ignores _ _).risesTo

/-- **A line that succeeds in a script does the same outside of it**, where lines may nest at
least as deep. -/
theorem risesTo_nest (hr : r.commands = Builtin.all ++ own) (hown : ∀ c ∈ own, c.IgnoresDepth)
    {levels levels' : Nat} (hlevels : levels ≤ levels') (line : String) :
    (r.nest refuse levels line).RisesTo (r.nest refuse levels' line) := by
  induction levels generalizing levels' line with
  | zero => exact risesTo_fail _ _
  | succ levels ih =>
    obtain ⟨levels', rfl⟩ : ∃ n, levels' = n + 1 := ⟨levels' - 1, by omega⟩
    exact risesTo_dispatch hr hown (ih (by omega)) line

end Registry

end DevConsole
