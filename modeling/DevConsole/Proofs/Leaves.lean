import DevConsole.Builtin
import DevConsole.World

/-! # Commands that execute no lines

Only one built-in command executes further lines, and that is `exec`.  All others are
*elementary* (`Command.IsElementary`), and so are the commands of the world: what they do does
not depend on how lines are executed, and their bodies are put together from steps that neither
look at the depth nor change it, fail without layers of batches, and start nothing.

Each command is taken apart once, into such steps.  What all steps have in common, and what one
after the other keeps, then holds of every elementary action by induction on how it is put
together.  So elementary commands are *leaves* (`Command.IsLeaf`): they leave the depth as it
was, their failures have no layers of batches, and they start nothing.
-/
namespace DevConsole

variable {Host Out α β : Type}

/-! ## Leaves -/

/-- Whether the event tells of a command or of a script that started to run. -/
def Event.isStart : Event → Bool
  | invoked _ _ _ | opened _ => true
  | noted _ | appended _ _ | cleared => false

/-- The action keeps the depth, fails without layers of batches, and starts nothing. -/
structure Action.IsLeaf (x : Action Host Out α) : Prop where
  depth : ∀ s, (x.perform s).after.depth = s.depth
  layers : ∀ s e, (x.perform s).result = .error e → e.layers = 0
  starts : ∀ s, ∀ event ∈ (x.perform s).trace, event.isStart = false

/-- The body executes no lines, and is a leaf. -/
structure Command.IsLeaf (c : Command Host Out) : Prop where
  same : ∀ catalogue execute execute' arguments,
    c.body ⟨catalogue, execute⟩ arguments = c.body ⟨catalogue, execute'⟩ arguments
  leaf : ∀ interpreter arguments, (c.body interpreter arguments).IsLeaf

namespace Action

theorem isLeaf_pure (a : α) : (pure a : Action Host Out α).IsLeaf where
  depth _ := rfl
  layers _ _ he := by cases he
  starts _ _ hin := by cases hin

theorem isLeaf_fail {e : Failure} (h : e.layers = 0) : (fail e : Action Host Out α).IsLeaf where
  depth _ := rfl
  layers _ _ he := by cases he; exact h
  starts _ _ hin := by cases hin

theorem isLeaf_get : (get : Action Host Out _).IsLeaf where
  depth _ := rfl
  layers _ _ he := by cases he
  starts _ _ hin := by cases hin

theorem isLeaf_modify {f : Surroundings Host → Surroundings Host}
    (h : ∀ s, (f s).depth = s.depth) : (modify f : Action Host Out Unit).IsLeaf where
  depth := h
  layers _ _ he := by cases he
  starts _ _ hin := by cases hin

theorem isLeaf_emit {trace : List Event} (h : ∀ event ∈ trace, event.isStart = false) :
    (emit trace : Action Host Out Unit).IsLeaf where
  depth _ := rfl
  layers _ _ he := by cases he
  starts _ := h

/-- An action ends in a failure or with a value. -/
theorem result_cases (x : Action Host Out α) (s : Surroundings Host) :
    (∃ e, (x.perform s).result = .error e) ∨ ∃ a, (x.perform s).result = .ok a := by
  cases (x.perform s).result with
  | error e => exact Or.inl ⟨e, rfl⟩
  | ok a => exact Or.inr ⟨a, rfl⟩

theorem IsLeaf.bind {x : Action Host Out α} {f : α → Action Host Out β} (hx : x.IsLeaf)
    (hf : ∀ a, (f a).IsLeaf) : (x >>= f).IsLeaf := by
  constructor
  case depth =>
    intro s
    rcases result_cases x s with ⟨e, h⟩ | ⟨a, h⟩
    · rw [perform_bind_error h]
      exact hx.depth s
    · rw [perform_bind_ok h]
      exact ((hf a).depth _).trans (hx.depth s)
  case layers =>
    intro s e he
    rcases result_cases x s with ⟨e', h⟩ | ⟨a, h⟩
    · rw [perform_bind_error h] at he
      cases he
      exact hx.layers s e h
    · rw [perform_bind_ok h] at he
      exact (hf a).layers _ e he
  case starts =>
    intro s event hin
    rcases result_cases x s with ⟨e', h⟩ | ⟨a, h⟩
    · rw [perform_bind_error h] at hin
      exact hx.starts s event hin
    · rw [perform_bind_ok h] at hin
      rcases List.mem_append.1 hin with hin | hin
      · exact hx.starts s event hin
      · exact (hf a).starts _ event hin

end Action

/-! ## Elementary actions -/

/-- The action is put together from elementary steps.  A look at the surroundings is one when
what comes after it is the same at every depth. -/
inductive Action.Elementary : {α : Type} → Action Host Out α → Prop where
  | pure {α : Type} (a : α) : Elementary (Pure.pure a)
  | fail {α : Type} {e : Failure} (h : e.layers = 0) : Elementary (Action.fail (α := α) e)
  | emit {trace : List Event} (h : ∀ event ∈ trace, event.isStart = false) :
    Elementary (Action.emit trace)
  | modify {f : Surroundings Host → Surroundings Host}
      (h : ∀ s n, f { s with depth := n } = { f s with depth := n }) :
    Elementary (Action.modify f)
  | inspect {α : Type} {f : Surroundings Host → Action Host Out α}
      (same : ∀ s n, f { s with depth := n } = f s) (next : ∀ s, Elementary (f s)) :
    Elementary (Action.get >>= f)
  | bind {α β : Type} {x : Action Host Out α} {f : α → Action Host Out β}
      (first : Elementary x) (next : ∀ a, Elementary (f a)) : Elementary (x >>= f)

/-- The body executes no lines, and is elementary. -/
structure Command.IsElementary (c : Command Host Out) : Prop where
  same : ∀ catalogue execute execute' arguments,
    c.body ⟨catalogue, execute⟩ arguments = c.body ⟨catalogue, execute'⟩ arguments
  elementary : ∀ interpreter arguments, (c.body interpreter arguments).Elementary

namespace Action

theorem Elementary.isLeaf {x : Action Host Out α} (h : x.Elementary) : x.IsLeaf := by
  induction h with
  | pure a => exact isLeaf_pure a
  | fail h => exact isLeaf_fail h
  | emit h => exact isLeaf_emit h
  | modify h =>
    refine isLeaf_modify fun s => ?_
    have hdepth := congrArg Surroundings.depth (h s s.depth)
    exact hdepth
  | inspect same next ih => exact isLeaf_get.bind ih
  | bind first next ih ih' => exact ih.bind ih'

theorem elementary_ofExcept {x : Except Failure α} (h : ∀ e, x = .error e → e.layers = 0) :
    (ofExcept x : Action Host Out α).Elementary := by
  cases x with
  | error e => exact .fail (h e rfl)
  | ok a => exact .pure a

theorem elementary_request (signal : Signal) :
    (request signal : Action Host Out Unit).Elementary :=
  .modify fun _ _ => rfl

theorem elementary_notes (ns : List Note) : (notes ns : Action Host Out Unit).Elementary := by
  refine .emit fun event hin => ?_
  obtain ⟨n, -, rfl⟩ := List.mem_map.1 hin
  rfl

theorem isLeaf_notes (ns : List Note) : (notes ns : Action Host Out Unit).IsLeaf :=
  (elementary_notes ns).isLeaf

theorem elementary_append [Sink Out] (text : String) (color : Color) :
    (append text color : Action Host Out Unit).Elementary := by
  refine .emit fun event hin => ?_
  rcases List.mem_cons.1 hin with rfl | hin
  · rfl
  · obtain ⟨n, -, rfl⟩ := List.mem_map.1 hin
    rfl

theorem elementary_clear : (clear : Action Host Out Unit).Elementary :=
  .emit fun event hin => by rw [List.mem_singleton.1 hin]; rfl

end Action

theorem Command.IsElementary.isLeaf {c : Command Host Out} (h : c.IsElementary) : c.IsLeaf where
  same := h.same
  leaf interpreter arguments := (h.elementary interpreter arguments).isLeaf

/-! ## The commands that are elementary -/

namespace Arguments

variable {arguments : List Value} {i : Nat}

theorem layers_value {e : Failure} (h : value arguments i = .error e) : e.layers = 0 := by
  unfold value at h
  split at h <;> cases h
  rfl

/-- Taking an argument fails without layers when the look at its kind does. -/
theorem elementary_taken {f : Value → Except Failure α} (h : ∀ v e, f v = .error e → e.layers = 0) :
    (Action.ofExcept (value arguments i >>= f) : Action Host Out α).Elementary := by
  refine Action.elementary_ofExcept fun e he => ?_
  cases hv : value arguments i with
  | error e' =>
    rw [hv] at he
    cases he
    exact layers_value hv
  | ok v =>
    rw [hv] at he
    exact h v e he

theorem elementary_int : (Action.ofExcept (int arguments i) : Action Host Out Int32).Elementary :=
  elementary_taken fun v e h => by cases v <;> cases h <;> rfl

theorem elementary_float :
    (Action.ofExcept (float arguments i) : Action Host Out Binary32).Elementary :=
  elementary_taken fun v e h => by cases v <;> cases h <;> rfl

theorem elementary_bool : (Action.ofExcept (bool arguments i) : Action Host Out Bool).Elementary :=
  elementary_taken fun v e h => by cases v <;> cases h <;> rfl

theorem elementary_string :
    (Action.ofExcept (string arguments i) : Action Host Out String).Elementary :=
  elementary_taken fun v e h => by cases v <;> cases h <;> rfl

theorem isLeaf_string : (Action.ofExcept (string arguments i) : Action Host Out String).IsLeaf :=
  elementary_string.isLeaf

end Arguments

namespace Builtin

open DevConsole.Action DevConsole.Arguments

theorem elementary_source (e : ScriptDirectory.Entry) :
    (ofExcept (source e) : Action Host Out String).Elementary := by
  refine elementary_ofExcept fun f hf => ?_
  unfold source at hf
  split at hf <;> cases hf <;> rfl

theorem isLeaf_source (e : ScriptDirectory.Entry) :
    (ofExcept (source e) : Action Host Out String).IsLeaf :=
  (elementary_source e).isLeaf

theorem isElementary_getKeycode : (getKeycode : Command Host Out).IsElementary where
  same _ _ _ _ := rfl
  elementary _ _ := elementary_string.bind fun _ => .pure _

theorem isElementary_getDrawColliders : (getDrawColliders : Command Host Out).IsElementary where
  same _ _ _ _ := rfl
  elementary _ _ := .inspect (fun _ _ => rfl) fun _ => .pure _

theorem isElementary_getDrawFps : (getDrawFps : Command Host Out).IsElementary where
  same _ _ _ _ := rfl
  elementary _ _ := .inspect (fun _ _ => rfl) fun _ => .pure _

theorem isElementary_setTooltip : (setTooltip : Command Host Out).IsElementary where
  same _ _ _ _ := rfl
  elementary _ _ := elementary_string.bind fun _ => elementary_float.bind fun _ =>
    (Elementary.modify fun _ _ => rfl).bind fun _ => .pure _

theorem isElementary_quit : (quit : Command Host Out).IsElementary where
  same _ _ _ _ := rfl
  elementary _ _ := (elementary_notes _).bind fun _ => (elementary_request _).bind fun _ => .pure _

theorem isElementary_setDrawColliders : (setDrawColliders : Command Host Out).IsElementary where
  same _ _ _ _ := rfl
  elementary _ _ := elementary_bool.bind fun _ =>
    (Elementary.modify fun _ _ => rfl).bind fun _ => .pure _

theorem isElementary_setDrawFps : (setDrawFps : Command Host Out).IsElementary where
  same _ _ _ _ := rfl
  elementary _ _ := elementary_bool.bind fun _ =>
    (Elementary.modify fun _ _ => rfl).bind fun _ => .pure _

variable [Sink Out]

theorem isElementary_print : (print : Command Host Out).IsElementary where
  same _ _ _ _ := rfl
  elementary _ _ := elementary_string.bind fun _ => (elementary_append _ _).bind fun _ => .pure _

theorem isElementary_printColored : (printColored : Command Host Out).IsElementary where
  same _ _ _ _ := rfl
  elementary _ _ := by
    refine elementary_string.bind fun _ => elementary_string.bind fun name => ?_
    dsimp only
    split
    · exact (Elementary.fail rfl).bind fun _ => .pure _
    · exact (elementary_append _ _).bind fun _ => .pure _

theorem isElementary_printBlank : (printBlank : Command Host Out).IsElementary where
  same _ _ _ _ := rfl
  elementary _ _ := (elementary_append _ _).bind fun _ => .pure _

theorem elementary_appendAll (texts : List (String × Color)) :
    (appendAll texts : Action Host Out Unit).Elementary := by
  induction texts with
  | nil => exact .pure _
  | cons first rest ih => exact (elementary_append _ _).bind fun _ => ih

theorem isElementary_help : (help : Command Host Out).IsElementary where
  same _ _ _ _ := rfl
  elementary _ _ := elementary_string.bind fun _ => (elementary_appendAll _).bind fun _ => .pure _

theorem isElementary_generalHelp : (generalHelp : Command Host Out).IsElementary where
  same _ _ _ _ := rfl
  elementary _ _ := (elementary_appendAll _).bind fun _ => .pure _

theorem isElementary_listCommands : (listCommands : Command Host Out).IsElementary where
  same _ _ _ _ := rfl
  elementary _ _ := (elementary_appendAll _).bind fun _ => .pure _

theorem isElementary_reloadResources : (reloadResources : Command Host Out).IsElementary where
  same _ _ _ _ := rfl
  elementary _ _ := (elementary_notes _).bind fun _ => (elementary_request _).bind fun _ =>
    (elementary_append _ _).bind fun _ => .pure _

theorem isElementary_clearConsole : (clearConsole : Command Host Out).IsElementary where
  same _ _ _ _ := rfl
  elementary _ _ := elementary_clear.bind fun _ => (elementary_append _ _).bind fun _ => .pure _

/-- Making the directory of scripts is elementary, whatever stands in its place. -/
theorem elementary_makeDirectory : (makeDirectory : Action Host Out Unit).Elementary := by
  refine .inspect (fun _ _ => rfl) fun env => ?_
  split
  · exact .fail rfl
  · refine (Elementary.modify fun _ _ => rfl).bind fun _ => (elementary_notes _).bind fun _ => ?_
    exact elementary_append _ _

theorem isLeaf_makeDirectory : (makeDirectory : Action Host Out Unit).IsLeaf :=
  elementary_makeDirectory.isLeaf

/-- **Every built-in command but `exec` is elementary.** -/
theorem eq_exec_or_isElementary {c : Command Host Out}
    (h : c ∈ (all : List (Command Host Out))) : c = exec ∨ c.IsElementary := by
  simp only [all, List.mem_cons, List.not_mem_nil, or_false] at h
  rcases h with rfl | rfl | rfl | rfl | rfl | rfl | rfl | rfl | rfl | rfl | rfl | rfl | rfl | rfl |
    rfl | rfl
  case inr.inl => exact Or.inl rfl
  all_goals refine Or.inr ?_
  · exact isElementary_getKeycode
  · exact isElementary_print
  · exact isElementary_printColored
  · exact isElementary_printBlank
  · exact isElementary_setTooltip
  · exact isElementary_help
  · exact isElementary_generalHelp
  · exact isElementary_listCommands
  · exact isElementary_reloadResources
  · exact isElementary_quit
  · exact isElementary_setDrawColliders
  · exact isElementary_getDrawColliders
  · exact isElementary_setDrawFps
  · exact isElementary_getDrawFps
  · exact isElementary_clearConsole

theorem eq_exec_or_isLeaf {c : Command Host Out} (h : c ∈ (all : List (Command Host Out))) :
    c = exec ∨ c.IsLeaf :=
  (eq_exec_or_isElementary h).imp_right Command.IsElementary.isLeaf

end Builtin

namespace World

open DevConsole.Action DevConsole.Arguments

theorem elementary_check {x : Except Fault α} : (check x : Action World Out α).Elementary := by
  refine elementary_ofExcept fun e he => ?_
  cases x <;> cases he
  rfl

theorem elementary_update (f : World → World) : (update f : Action World Out Unit).Elementary :=
  .modify fun _ _ => rfl

theorem isElementary_countEnemies : (countEnemies : Command World Out).IsElementary where
  same _ _ _ _ := rfl
  elementary _ _ := .inspect (fun _ _ => rfl) fun _ => elementary_check.bind fun _ => .pure _

theorem isElementary_setGravity : (setGravity : Command World Out).IsElementary where
  same _ _ _ _ := rfl
  elementary _ _ := elementary_float.bind fun _ => (elementary_update _).bind fun _ => .pure _

theorem isElementary_getGravity : (getGravity : Command World Out).IsElementary where
  same _ _ _ _ := rfl
  elementary _ _ := .inspect (fun _ _ => rfl) fun _ => .pure _

variable [Sink Out]

theorem isElementary_spawnEnemies : (spawnEnemies : Command World Out).IsElementary where
  same _ _ _ _ := rfl
  elementary _ _ := elementary_int.bind fun _ => .inspect (fun _ _ => rfl) fun _ =>
    elementary_check.bind fun _ => (elementary_update _).bind fun _ =>
      (elementary_append _ _).bind fun _ => .pure _

theorem isElementary_setDifficulty : (setDifficulty : Command World Out).IsElementary where
  same _ _ _ _ := rfl
  elementary _ _ := elementary_string.bind fun _ => (elementary_append _ _).bind fun _ =>
    (elementary_update _).bind fun _ => .pure _

/-- **Every command of the world is elementary.** -/
theorem isElementary_of_mem_commands {c : Command World Out}
    (h : c ∈ (commands : List (Command World Out))) : c.IsElementary := by
  simp only [commands, List.mem_cons, List.not_mem_nil, or_false] at h
  rcases h with rfl | rfl | rfl | rfl | rfl
  · exact isElementary_spawnEnemies
  · exact isElementary_countEnemies
  · exact isElementary_setGravity
  · exact isElementary_getGravity
  · exact isElementary_setDifficulty

theorem isLeaf_of_mem_commands {c : Command World Out}
    (h : c ∈ (commands : List (Command World Out))) : c.IsLeaf :=
  (isElementary_of_mem_commands h).isLeaf

end World

end DevConsole
