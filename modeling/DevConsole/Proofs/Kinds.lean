import DevConsole.Proofs.Registration
import DevConsole.World

/-! # Arguments and results of the declared kinds

A command declares kinds in its signature, and its body asks for its arguments by position and
kind.  Nothing in the body says that the two agree.  That they do is the work of three places,
which meet here.

Binding gives a command as many arguments as it has parameters, each of the kind that its
parameter declares: it gets arguments that its signature *takes* (`Signature.Takes`).  So what a
body would do with any others makes no difference to any line (`Registry.execute_guarded`), and
asking for an argument as its parameter declares it always succeeds (`Signature.Takes.ofKind`).

The bodies ask for nothing else.  An action *gives* values of some sort (`Action.Gives`) when it
never fails over its arguments and every value that it ends with is of that sort; one action
after another keeps this.  Each command is taken apart once, and gives a value of the kind that
it declares, or none where it declares none (`Command.KeepsKinds`).
-/
namespace DevConsole

variable {Host Out α β : Type}

/-! ## Arguments that a signature takes -/

/-- There are as many arguments as parameters, and each is of the kind that its parameter
declares. -/
def Signature.Takes (s : Signature) (arguments : List Value) : Prop :=
  arguments.map Value.kind = s.parameters.map Parameter.kind

instance (s : Signature) (arguments : List Value) : Decidable (s.Takes arguments) :=
  inferInstanceAs (Decidable (_ = _))

/-- Coerced values are of the kinds of their parameters. -/
theorem Coerced.map_kind {catalogue : Catalogue} {ps : List Parameter} {ts : List String}
    {vs : List Value} (h : Coerced catalogue ps ts vs) :
    vs.map Value.kind = ps.map Parameter.kind := by
  have hlen : (vs.map Value.kind).length = (ps.map Parameter.kind).length := by
    rw [List.length_map, List.length_map, h.count]
  refine List.ext_getElem hlen fun i hv hp => ?_
  rw [List.length_map] at hv hp
  have ht : i < ts.length := h.arity ▸ hp
  rw [List.getElem_map, List.getElem_map]
  exact Parameter.kind_of_coerce (h.coerced i ps[i] ts[i] vs[i] (List.getElem?_eq_getElem hp)
    (List.getElem?_eq_getElem ht) (List.getElem?_eq_getElem hv))

theorem Signature.Fits.takes {catalogue : Catalogue} {tokens : List String} {s : Signature}
    {arguments : List Value} (h : s.Fits catalogue tokens arguments) : s.Takes arguments :=
  Coerced.map_kind h

/-- **A line selects a command with arguments that its signature takes.** -/
theorem Registry.takes_of_selected {r : Registry Host Out} {line : String} {c : Command Host Out}
    {arguments : List Value} (h : r.resolve line = .selected c arguments) :
    c.signature.Takes arguments := by
  obtain ⟨-, -, -, -, hfits⟩ := resolve_eq_selected.1 h
  exact hfits.takes

namespace Signature.Takes

variable {s : Signature} {arguments : List Value} {i : Nat} {p : Parameter}

theorem exists_value (h : s.Takes arguments) (hp : s.parameters[i]? = some p) :
    ∃ v, arguments[i]? = some v ∧ v.kind = p.kind := by
  have hkinds := congrArg (·[i]?) h
  simp only [List.getElem?_map, hp, Option.map_some] at hkinds
  exact Option.map_eq_some_iff.1 hkinds

/-- **Asking for an argument as its parameter declares it succeeds.** -/
theorem ofKind (h : s.Takes arguments) (hp : s.parameters[i]? = some p) :
    ∃ v, arguments[i]? = some v ∧ Arguments.ofKind arguments i p.kind = .ok v := by
  obtain ⟨v, hv, hkind⟩ := h.exists_value hp
  have hvalue : Arguments.value arguments i = .ok v := by rw [Arguments.value, hv]
  refine ⟨v, hv, ?_⟩
  rw [← hkind]
  cases v with
  | int n => rw [Value.kind, Arguments.ofKind, Arguments.int, hvalue]; rfl
  | float x => rw [Value.kind, Arguments.ofKind, Arguments.float, hvalue]; rfl
  | bool b => rw [Value.kind, Arguments.ofKind, Arguments.bool, hvalue]; rfl
  | string t => rw [Value.kind, Arguments.ofKind, Arguments.string, hvalue]; rfl

end Signature.Takes

/-! ## Bodies that get other arguments -/

/-- The command with another body for arguments that its signature does not take. -/
def Command.guarded
    (other : Command Host Out → Interpreter Host Out → List Value → Action Host Out (Option Value))
    (c : Command Host Out) : Command Host Out where
  signature := c.signature
  body interpreter arguments :=
    if c.signature.Takes arguments then c.body interpreter arguments
    else other c interpreter arguments

/-- The resolution with another command in place of the one that is selected. -/
def Resolution.map (f : Command Host Out → Command Host Out) :
    Resolution Host Out → Resolution Host Out
  | unknown name => unknown name
  | unmatched name => unmatched name
  | selected c arguments => selected (f c) arguments

namespace Registry

/-- The registry whose commands have other bodies for arguments that they do not take. -/
def guarded
    (other : Command Host Out → Interpreter Host Out → List Value → Action Host Out (Option Value))
    (r : Registry Host Out) : Registry Host Out where
  commands := r.commands.map (.guarded other)
  accepted := by
    intro c hc
    obtain ⟨d, hd, rfl⟩ := List.mem_map.1 hc
    exact r.accepted d hd

variable
  {other : Command Host Out → Interpreter Host Out → List Value → Action Host Out (Option Value)}

theorem catalogue_guarded (r : Registry Host Out) : (r.guarded other).catalogue = r.catalogue := by
  rw [catalogue, guarded, List.map_map]
  rfl

theorem candidates_guarded (r : Registry Host Out) (line : String) :
    (r.guarded other).candidates line = (r.candidates line).map (.guarded other) :=
  List.filter_map

theorem firstBound?_guarded (catalogue : Catalogue) (tokens : List String)
    (cs : List (Command Host Out)) :
    firstBound? catalogue tokens (cs.map (.guarded other)) =
      (firstBound? catalogue tokens cs).map fun found => (found.1.guarded other, found.2) := by
  induction cs with
  | nil => rfl
  | cons c cs ih =>
    have hsignature : (c.guarded other).signature = c.signature := rfl
    rw [List.map_cons, firstBound?, firstBound?, ih, hsignature]
    cases c.signature.bind catalogue tokens <;> rfl

theorem rejectionNotes_guarded (catalogue : Catalogue) (tokens : List String)
    (cs : List (Command Host Out)) :
    rejectionNotes catalogue tokens (cs.map (.guarded other)) =
      rejectionNotes catalogue tokens cs := by
  induction cs with
  | nil => rfl
  | cons c cs ih =>
    rw [List.map_cons, rejectionNotes, rejectionNotes, ih]
    rfl

theorem resolve_guarded (r : Registry Host Out) (line : String) :
    (r.guarded other).resolve line = (r.resolve line).map (.guarded other) := by
  unfold resolve
  rw [candidates_guarded, catalogue_guarded]
  cases hc : r.candidates (normalize line) with
  | nil => rfl
  | cons c cs =>
    have hbound := @firstBound?_guarded _ _ other r.catalogue (tokens line) (c :: cs)
    rw [List.map_cons] at hbound ⊢
    dsimp only
    rw [hbound]
    cases firstBound? r.catalogue (tokens line) (c :: cs) <;> rfl

/-- Only the selected command runs, with arguments that it takes. -/
theorem dispatch_guarded (r : Registry Host Out)
    (execute : String → Action Host Out (Option Value)) (line : String) :
    (r.guarded other).dispatch execute line = r.dispatch execute line := by
  have hrejections : (r.guarded other).rejections line = r.rejections line := by
    rw [rejections, candidates_guarded, catalogue_guarded, rejectionNotes_guarded, rejections]
  unfold dispatch
  rw [hrejections, resolve_guarded, catalogue_guarded]
  cases hr : r.resolve line with
  | unknown name => rfl
  | unmatched name => rfl
  | selected c arguments =>
    have hbody : (c.guarded other).body = fun interpreter arguments =>
      if c.signature.Takes arguments then c.body interpreter arguments
      else other c interpreter arguments := rfl
    simp only [Resolution.map, hbody, takes_of_selected hr, if_true]
    rfl

theorem nest_guarded (r : Registry Host Out) (execute : String → Action Host Out (Option Value))
    (levels : Nat) : (r.guarded other).nest execute levels = r.nest execute levels := by
  induction levels with
  | zero => rfl
  | succ levels ih =>
    funext line
    rw [nest, nest, ih, dispatch_guarded]

/-- **What a body would do with arguments that it does not take makes no difference**, neither
for a line nor for the lines that it executes. -/
theorem execute_guarded (r : Registry Host Out) (line : String) :
    (r.guarded other).execute line = r.execute line := by
  rw [execute, execute, nest_guarded]

end Registry

/-! ## Actions that never fail over their arguments -/

/-- The failure of a body to get an argument as it asks for it. -/
def Failure.isAccess : Failure → Bool
  | command (.missingArgument _) | command (.wrongKind _ _ _) => true
  | _ => false

/-- The action never fails over its arguments, and every value that it ends with is as `P`
says. -/
structure Action.Gives (x : Action Host Out α) (P : α → Prop) : Prop where
  safe : ∀ s e, (x.perform s).result = .error e → e.isAccess = false
  value : ∀ s a, (x.perform s).result = .ok a → P a

namespace Action

variable {P : α → Prop} {Q : β → Prop}

theorem gives_pure {a : α} (h : P a) : (pure a : Action Host Out α).Gives P where
  safe _ _ he := by cases he
  value _ _ ha := by cases ha; exact h

theorem gives_fail {e : Failure} (h : e.isAccess = false) :
    (fail e : Action Host Out α).Gives P where
  safe _ _ he := by cases he; exact h
  value _ _ ha := by cases ha

theorem gives_get : (get : Action Host Out _).Gives fun _ => True where
  safe _ _ he := by cases he
  value _ _ _ := trivial

theorem gives_modify (f : Surroundings Host → Surroundings Host) :
    (modify f : Action Host Out Unit).Gives fun _ => True where
  safe _ _ he := by cases he
  value _ _ _ := trivial

theorem gives_emit (trace : List Event) :
    (emit trace : Action Host Out Unit).Gives fun _ => True where
  safe _ _ he := by cases he
  value _ _ _ := trivial

theorem gives_append [Sink Out] (text : String) (color : Color) :
    (append text color : Action Host Out Unit).Gives fun _ => True := gives_emit _

theorem Gives.bind {x : Action Host Out α} {f : α → Action Host Out β} (hx : x.Gives P)
    (hf : ∀ a, P a → (f a).Gives Q) : (x >>= f).Gives Q := by
  constructor
  case safe =>
    intro s e he
    cases hr : (x.perform s).result with
    | error e' =>
      rw [perform_bind_error hr] at he
      cases he
      exact hx.safe s e hr
    | ok a =>
      rw [perform_bind_ok hr] at he
      exact (hf a (hx.value s a hr)).safe _ e he
  case value =>
    intro s b hb
    cases hr : (x.perform s).result with
    | error e =>
      rw [perform_bind_error hr] at hb
      cases hb
    | ok a =>
      rw [perform_bind_ok hr] at hb
      exact (hf a (hx.value s a hr)).value _ b hb

/-- What comes after an action gives what it gives, whatever the action ended with. -/
theorem Gives.andThen {x : Action Host Out α} {f : α → Action Host Out β} (hx : x.Gives P)
    (hf : ∀ a, (f a).Gives Q) : (x >>= f).Gives Q :=
  hx.bind fun a _ => hf a

theorem gives_ofExcept {x : Except Failure α} (h : ∀ e, x = .error e → e.isAccess = false) :
    (ofExcept x : Action Host Out α).Gives fun a => x = .ok a where
  safe s e he := h e ((result_ofExcept x s).symm.trans he)
  value s _ ha := (result_ofExcept x s).symm.trans ha

/-- A failure inside a batch is that of the batch, not of an access to arguments. -/
theorem gives_mapFailure_batch (number : Nat) (x : Action Host Out α) :
    (x.mapFailure (.batch number)).Gives fun _ => True where
  safe s e he := by
    rw [perform_mapFailure] at he
    cases hr : (x.perform s).result <;> rw [hr] at he <;> cases he
    rfl
  value _ _ _ := trivial

theorem Gives.deeper {x : Action Host Out α} (h : x.Gives P) : x.deeper.Gives P where
  safe s e he := h.safe { s with depth := s.depth + 1 } e he
  value s a ha := h.value { s with depth := s.depth + 1 } a ha

end Action

/-! ## Access to arguments that a signature takes -/

namespace Arguments

variable {s : Signature} {arguments : List Value} {i : Nat} {p : Parameter}

/-- Taking an argument gives a value when the look at its kind does. -/
theorem gives_taken {f : Value → Except Failure α} (h : s.Takes arguments)
    (hp : s.parameters[i]? = some p) (hf : ∀ v, v.kind = p.kind → ∃ a, f v = .ok a) :
    (Action.ofExcept (value arguments i >>= f) : Action Host Out α).Gives fun _ => True := by
  obtain ⟨v, hv, hkind⟩ := h.exists_value hp
  obtain ⟨a, ha⟩ := hf v hkind
  have hvalue : value arguments i = .ok v := by rw [value, hv]
  rw [hvalue]
  show (Action.ofExcept (f v)).Gives _
  rw [ha]
  exact Action.gives_pure trivial

theorem gives_int (h : s.Takes arguments) (hp : s.parameters[i]? = some p) (hk : p.kind = .int) :
    (Action.ofExcept (int arguments i) : Action Host Out Int32).Gives fun _ => True := by
  refine gives_taken h hp fun v hv => ?_
  rw [hk] at hv
  cases v <;> cases hv
  exact ⟨_, rfl⟩

theorem gives_float (h : s.Takes arguments) (hp : s.parameters[i]? = some p)
    (hk : p.kind = .float) :
    (Action.ofExcept (float arguments i) : Action Host Out Binary32).Gives fun _ => True := by
  refine gives_taken h hp fun v hv => ?_
  rw [hk] at hv
  cases v <;> cases hv
  exact ⟨_, rfl⟩

theorem gives_bool (h : s.Takes arguments) (hp : s.parameters[i]? = some p) (hk : p.kind = .bool) :
    (Action.ofExcept (bool arguments i) : Action Host Out Bool).Gives fun _ => True := by
  refine gives_taken h hp fun v hv => ?_
  rw [hk] at hv
  cases v <;> cases hv
  exact ⟨_, rfl⟩

theorem gives_string (h : s.Takes arguments) (hp : s.parameters[i]? = some p)
    (hk : p.kind = .string) :
    (Action.ofExcept (string arguments i) : Action Host Out String).Gives fun _ => True := by
  refine gives_taken h hp fun v hv => ?_
  rw [hk] at hv
  cases v <;> cases hv
  exact ⟨_, rfl⟩

end Arguments

/-! ## The commands, one by one -/

/-- Given arguments that it takes, the body never fails over them, and it gives a value of the
kind that its signature declares, or none where that declares none. -/
def Command.KeepsKinds (c : Command Host Out) : Prop :=
  ∀ interpreter arguments, c.signature.Takes arguments →
    (c.body interpreter arguments).Gives fun v => v.map Value.kind = c.signature.returns

namespace Builtin

open DevConsole.Action DevConsole.Arguments

theorem keepsKinds_getKeycode : (getKeycode : Command Host Out).KeepsKinds :=
  fun _ _ h => (gives_string h rfl rfl).andThen fun _ => gives_pure rfl

theorem keepsKinds_setTooltip : (setTooltip : Command Host Out).KeepsKinds :=
  fun _ _ h => (gives_string h rfl rfl).andThen fun _ => (gives_float h rfl rfl).andThen fun _ =>
    (gives_modify _).andThen fun _ => gives_pure rfl

theorem keepsKinds_setDrawColliders : (setDrawColliders : Command Host Out).KeepsKinds :=
  fun _ _ h => (gives_bool h rfl rfl).andThen fun _ =>
    (gives_modify _).andThen fun _ => gives_pure rfl

theorem keepsKinds_getDrawColliders : (getDrawColliders : Command Host Out).KeepsKinds :=
  fun _ _ _ => gives_get.andThen fun _ => gives_pure rfl

theorem keepsKinds_setDrawFps : (setDrawFps : Command Host Out).KeepsKinds :=
  fun _ _ h => (gives_bool h rfl rfl).andThen fun _ =>
    (gives_modify _).andThen fun _ => gives_pure rfl

theorem keepsKinds_getDrawFps : (getDrawFps : Command Host Out).KeepsKinds :=
  fun _ _ _ => gives_get.andThen fun _ => gives_pure rfl

theorem keepsKinds_quit : (quit : Command Host Out).KeepsKinds :=
  fun _ _ _ => (gives_emit _).andThen fun _ => (gives_modify _).andThen fun _ => gives_pure rfl

variable [Sink Out]

theorem keepsKinds_print : (print : Command Host Out).KeepsKinds :=
  fun _ _ h => (gives_string h rfl rfl).andThen fun _ =>
    (gives_append _ _).andThen fun _ => gives_pure rfl

theorem keepsKinds_printColored : (printColored : Command Host Out).KeepsKinds := by
  intro _ _ h
  refine (gives_string h rfl rfl).andThen fun _ => (gives_string h rfl rfl).andThen fun name => ?_
  dsimp only
  split
  · exact (gives_fail (P := fun _ => True) rfl).andThen fun _ => gives_pure rfl
  · exact (gives_append _ _).andThen fun _ => gives_pure rfl

theorem keepsKinds_printBlank : (printBlank : Command Host Out).KeepsKinds :=
  fun _ _ _ => (gives_append _ _).andThen fun _ => gives_pure rfl

theorem gives_appendAll (texts : List (String × Color)) :
    (appendAll texts : Action Host Out Unit).Gives fun _ => True := by
  induction texts with
  | nil => exact gives_pure trivial
  | cons first rest ih => exact (gives_append _ _).andThen fun _ => ih

theorem keepsKinds_help : (help : Command Host Out).KeepsKinds :=
  fun _ _ h => (gives_string h rfl rfl).andThen fun _ =>
    (gives_appendAll _).andThen fun _ => gives_pure rfl

theorem keepsKinds_generalHelp : (generalHelp : Command Host Out).KeepsKinds :=
  fun _ _ _ => (gives_appendAll _).andThen fun _ => gives_pure rfl

theorem keepsKinds_listCommands : (listCommands : Command Host Out).KeepsKinds :=
  fun _ _ _ => (gives_appendAll _).andThen fun _ => gives_pure rfl

theorem keepsKinds_reloadResources : (reloadResources : Command Host Out).KeepsKinds :=
  fun _ _ _ => (gives_emit _).andThen fun _ => (gives_modify _).andThen fun _ =>
    (gives_append _ _).andThen fun _ => gives_pure rfl

theorem keepsKinds_clearConsole : (clearConsole : Command Host Out).KeepsKinds :=
  fun _ _ _ => (gives_emit _).andThen fun _ => (gives_append _ _).andThen fun _ => gives_pure rfl

theorem gives_makeDirectory : (makeDirectory : Action Host Out Unit).Gives fun _ => True := by
  refine gives_get.andThen fun env => ?_
  split
  · exact gives_fail rfl
  · exact (gives_modify _).andThen fun _ => (gives_emit _).andThen fun _ => gives_append _ _

omit [Sink Out] in
theorem gives_runLines (execute : String → Action Host Out (Option Value))
    (lines : List (Nat × String)) :
    (Batch.runLines execute lines).Gives fun _ => True := by
  induction lines with
  | nil => exact gives_pure trivial
  | cons numbered rest ih => exact (gives_mapFailure_batch _ _).andThen fun _ => ih

omit [Sink Out] in
/-- A script that runs has failures of its own only inside its lines. -/
theorem gives_runScript (interpreter : Interpreter Host Out)
    (entries : List ScriptDirectory.Entry) (name : String) :
    (runScript interpreter entries name).Gives fun _ => True := by
  refine gives_get.andThen fun env => ?_
  split
  · exact gives_fail rfl
  · rename_i entry _
    split
    · exact gives_fail rfl
    · have hsource : ∀ e, source entry = .error e → e.isAccess = false := by
        intro e he
        unfold source at he
        split at he <;> cases he <;> rfl
      refine (gives_ofExcept hsource).andThen fun text => (gives_emit _).andThen fun _ => ?_
      exact (gives_runLines _ _).deeper

theorem keepsKinds_exec : (exec : Command Host Out).KeepsKinds := by
  intro interpreter _ h
  refine (gives_string h rfl rfl).andThen fun name => gives_get.andThen fun env => ?_
  dsimp only
  split
  · exact gives_makeDirectory.andThen fun _ => gives_pure rfl
  · exact (gives_runScript interpreter _ name).andThen fun _ => gives_pure rfl

/-- **Every built-in command keeps to the kinds that it declares.** -/
theorem keepsKinds_of_mem_all {c : Command Host Out} (h : c ∈ (all : List (Command Host Out))) :
    c.KeepsKinds := by
  simp only [all, List.mem_cons, List.not_mem_nil, or_false] at h
  rcases h with rfl | rfl | rfl | rfl | rfl | rfl | rfl | rfl | rfl | rfl | rfl | rfl | rfl | rfl |
    rfl | rfl
  · exact keepsKinds_getKeycode
  · exact keepsKinds_exec
  · exact keepsKinds_print
  · exact keepsKinds_printColored
  · exact keepsKinds_printBlank
  · exact keepsKinds_setTooltip
  · exact keepsKinds_help
  · exact keepsKinds_generalHelp
  · exact keepsKinds_listCommands
  · exact keepsKinds_reloadResources
  · exact keepsKinds_quit
  · exact keepsKinds_setDrawColliders
  · exact keepsKinds_getDrawColliders
  · exact keepsKinds_setDrawFps
  · exact keepsKinds_getDrawFps
  · exact keepsKinds_clearConsole

end Builtin

namespace World

open DevConsole.Action DevConsole.Arguments

theorem gives_check (x : Except Fault α) :
    (check x : Action World Out α).Gives fun a => x = .ok a := by
  cases x with
  | error fault => exact gives_fail rfl
  | ok a => exact gives_pure rfl

theorem kind_of_enemyCount {enemies : Nat} {v : Value} (h : enemyCount enemies = .ok v) :
    v.kind = .int := by
  unfold enemyCount at h
  split at h <;> cases h
  rfl

theorem keepsKinds_countEnemies : (countEnemies : Command World Out).KeepsKinds :=
  fun _ _ _ => gives_get.andThen fun _ => (gives_check _).bind fun _ hcount =>
    gives_pure (congrArg some (kind_of_enemyCount hcount))

theorem keepsKinds_setGravity : (setGravity : Command World Out).KeepsKinds :=
  fun _ _ h => (gives_float h rfl rfl).andThen fun _ =>
    (gives_modify _).andThen fun _ => gives_pure rfl

theorem keepsKinds_getGravity : (getGravity : Command World Out).KeepsKinds :=
  fun _ _ _ => gives_get.andThen fun _ => gives_pure rfl

variable [Sink Out]

theorem keepsKinds_spawnEnemies : (spawnEnemies : Command World Out).KeepsKinds :=
  fun _ _ h => (gives_int h rfl rfl).andThen fun _ => gives_get.andThen fun _ =>
    (gives_check _).andThen fun _ => (gives_modify _).andThen fun _ =>
      (gives_append _ _).andThen fun _ => gives_pure rfl

theorem keepsKinds_setDifficulty : (setDifficulty : Command World Out).KeepsKinds :=
  fun _ _ h => (gives_string h rfl rfl).andThen fun _ => (gives_append _ _).andThen fun _ =>
    (gives_modify _).andThen fun _ => gives_pure rfl

/-- **Every command of the world keeps to the kinds that it declares.** -/
theorem keepsKinds_of_mem_commands {c : Command World Out}
    (h : c ∈ (commands : List (Command World Out))) : c.KeepsKinds := by
  simp only [commands, List.mem_cons, List.not_mem_nil, or_false] at h
  rcases h with rfl | rfl | rfl | rfl | rfl
  · exact keepsKinds_spawnEnemies
  · exact keepsKinds_countEnemies
  · exact keepsKinds_setGravity
  · exact keepsKinds_getGravity
  · exact keepsKinds_setDifficulty

end World

/-! ## All together -/

namespace Registry

/-- **Arguments and results are of the declared kinds.**  Whatever a line is, the command that it
selects gets as many arguments as it has parameters, each of the declared kind, and what bodies
would do with others makes no difference, however deep lines execute lines.  Asking for such an
argument as its parameter declares it succeeds.  So no built-in command and no command of the
world fails over its arguments, in any surroundings and whatever the lines inside it do; and what
it gives back is a value of the kind that it declares, or no value where it declares none. -/
theorem kinds_as_declared :
    (∀ {Host Out : Type} (r : Registry Host Out) (line : String),
      (∀ c arguments, r.resolve line = .selected c arguments →
        arguments.length = c.signature.parameters.length ∧
          ∀ (i : Nat) (v : Value) (p : Parameter), arguments[i]? = some v →
            c.signature.parameters[i]? = some p → v.kind = p.kind) ∧
        ∀ other, (r.guarded other).execute line = r.execute line) ∧
    (∀ (s : Signature) (arguments : List Value), s.Takes arguments →
      ∀ (i : Nat) (p : Parameter), s.parameters[i]? = some p →
        ∃ v, arguments[i]? = some v ∧ Arguments.ofKind arguments i p.kind = .ok v) ∧
    (∀ {Host Out : Type} [Sink Out], ∀ c ∈ (Builtin.all : List (Command Host Out)), c.KeepsKinds) ∧
    ∀ {Out : Type} [Sink Out], ∀ c ∈ (World.commands : List (Command World Out)), c.KeepsKinds := by
  refine ⟨fun r line => ⟨fun c arguments h => ?_, fun other => execute_guarded r line⟩,
    fun s arguments h i p hp => h.ofKind hp, fun c hc => Builtin.keepsKinds_of_mem_all hc,
    fun c hc => World.keepsKinds_of_mem_commands hc⟩
  have htakes := takes_of_selected h
  have hlen := congrArg List.length htakes
  rw [List.length_map, List.length_map] at hlen
  refine ⟨hlen, fun i v p hv hp => ?_⟩
  obtain ⟨w, hw, hkind⟩ := htakes.exists_value hp
  rw [hv] at hw
  cases hw
  exact hkind

/-- In a registry of the built-in commands and those of the world, `spawn_enemies 3` gives its
command one whole number, which the command gets when it asks for it; nothing comes back, as
declared.  From `get_keycode` a whole number comes back, as declared. -/
theorem kinds_as_declared_spawn :
    let r : Registry World Transcript := (Builtin.registry.registerAll World.commands).1
    let s : Surroundings World := { scripts := ⟨"", .missing⟩, host := {} }
    let spawn : Command World Transcript := World.spawnEnemies
    let keycode : Command World Transcript := Builtin.getKeycode
    r.resolve "spawn_enemies 3" = .selected spawn [.int 3] ∧
      [Value.int 3].length = spawn.signature.parameters.length ∧
      (r.guarded fun _ _ _ => .fail .notToml).execute "spawn_enemies 3" =
        r.execute "spawn_enemies 3" ∧
      (spawn.signature.Takes [.int 3] ∧
        ∃ v, [Value.int 3][0]? = some v ∧ Arguments.ofKind [.int 3] 0 .int = .ok v) ∧
      (((spawn.body r.interpreter [.int 3]).perform s).result = .ok none ∧
        spawn.signature.returns = none) ∧
      ((keycode.body r.interpreter [.string "space"]).perform s).result = .ok (some (.int 32)) ∧
        keycode.signature.returns = some .int := by
  intro r s spawn keycode
  obtain ⟨hlines, harguments, hbuiltin, hworld⟩ := kinds_as_declared
  have hcommands : r.commands = Builtin.all ++ World.commands :=
    (registerAll_of_accepted _ _ (by decide)).1
  have hselects : r.Selects "spawn_enemies 3" 16 spawn [.int 3] := by
    refine ⟨by rw [hcommands]; rfl, by decide +kernel,
      Signature.bind_eq_bound.1 (by decide +kernel), ?_⟩
    have hno : ∀ d ∈ r.commands.take 16,
        answers d.signature (normalize "spawn_enemies 3") = false := by decide +kernel
    intro d hd hanswers
    rw [hno d hd] at hanswers
    cases hanswers
  have hspawn : spawn ∈ World.commands := List.mem_cons_self
  have hkeycode : keycode ∈ Builtin.all := List.mem_cons_self
  have hspawned : ((spawn.body r.interpreter [.int 3]).perform s).result = .ok none := rfl
  have hcode : ((keycode.body r.interpreter [.string "space"]).perform s).result =
      .ok (some (.int 32)) := by
    have hkey : Key.ofName? "space" = some (.char ' ') := by decide +kernel
    show Except.ok (some (Value.int (Int32.ofNat ((Key.ofName? "space").elim 0 Key.code)))) = _
    rw [hkey]
    rfl
  refine ⟨hselects.resolve, ((hlines r _).1 _ _ hselects.resolve).1, (hlines r _).2 _, ?_, ?_, ?_⟩
  · exact ⟨by decide, harguments spawn.signature _ (by decide) 0 _ rfl⟩
  · exact ⟨hspawned, ((hworld spawn hspawn _ _ (by decide)).value s _ hspawned).symm⟩
  · exact ⟨hcode, ((hbuiltin keycode hkeycode _ _ (by decide)).value s _ hcode).symm⟩

end Registry

end DevConsole
