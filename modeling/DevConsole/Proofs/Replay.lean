import DevConsole.Proofs.Leaves
import DevConsole.Proofs.Operations
import DevConsole.Proofs.Overload

/-! # Requests and the world, read off the events

A command changes the requests and the world deep inside the lines and scripts that run it, and a
failure later on undoes nothing.  So both can be read off the trace: every start of a command
stands there with its arguments, and what a command does to requests and world depends on nothing
else (`Command.Invokes`).  Requests pile up as `Event.requests` says, and the world is what
replaying the trace makes of it (`World.replay`).

What can be told of a run in this way is a relation between what was found, the trace, and what is
left behind.  It is an *account* (`Registry.IsAccount`) when it holds of steps that start nothing
and of the run of a single command, passes from one thing to the next, and passes from the lines of
a script to `exec`.  An account holds of every line, however deep lines execute lines
(`Registry.IsAccount.execute`), and of all that leads from one console to another
(`Console.Leads.accounted`).  That what is left behind *follows* the trace (`Registry.Follows`) is
one.

With the events comes what they were started by: every command that starts was selected for some
line, with the arguments that it gets.
-/
namespace DevConsole

variable {Host Out α β : Type}

/-! ## What a start does -/

/-- The request that a command of a name makes. -/
def Signal.ofCommand? (name : String) : Option Signal :=
  if name = "quit" then some .quit
  else if name = "reload_resources" then some .reloadResources
  else none

/-- The request that an event makes. -/
def Event.request? : Event → Option Signal
  | invoked signature _ _ => Signal.ofCommand? signature.name
  | noted _ | appended _ _ | cleared | opened _ => none

/-- The requests that a trace makes, in order. -/
def Event.requests (trace : List Event) : List Signal := trace.filterMap request?

namespace World

/-- The world after a command of a name ran with these arguments. -/
def invoke (name : String) (arguments : List Value) (w : World) : World :=
  match name, arguments with
  | "spawn_enemies", .int count :: _ =>
    match spawned w.enemies count with
    | .ok total => { w with enemies := total }
    | .error _ => w
  | "set_gravity", .float gravity :: _ => { w with gravity }
  | "difficulty", .string level :: _ => { w with difficulty := Text.lowerAscii level }
  | _, _ => w

/-- The world after an event. -/
def receive (w : World) : Event → World
  | .invoked signature arguments _ => w.invoke signature.name arguments
  | .noted _ | .appended _ _ | .cleared | .opened _ => w

/-- The world after the events of a trace. -/
def replay (w : World) (trace : List Event) : World := trace.foldl receive w

@[simp] theorem replay_cons (w : World) (event : Event) (trace : List Event) :
    w.replay (event :: trace) = (w.receive event).replay trace := rfl

theorem replay_append (w : World) (t u : List Event) :
    w.replay (t ++ u) = (w.replay t).replay u := List.foldl_append

/-- Nothing happens to the world where nothing starts. -/
theorem replay_of_starts {trace : List Event} (h : ∀ event ∈ trace, event.isStart = false)
    (w : World) : w.replay trace = w := by
  induction trace with
  | nil => rfl
  | cons event trace ih =>
    obtain ⟨hevent, htrace⟩ := List.forall_mem_cons.1 h
    rw [replay_cons]
    cases event with
    | invoked | opened => cases hevent
    | noted | appended | cleared => exact ih htrace

end World

namespace Event

theorem requests_cons (event : Event) (trace : List Event) :
    requests (event :: trace) = event.request?.toList ++ requests trace := by
  unfold requests
  cases h : event.request? with
  | none => rw [List.filterMap_cons_none h]; rfl
  | some signal => rw [List.filterMap_cons_some h]; rfl

theorem requests_append (t u : List Event) : requests (t ++ u) = requests t ++ requests u :=
  List.filterMap_append

theorem requests_of_starts {trace : List Event} (h : ∀ event ∈ trace, event.isStart = false) :
    requests trace = [] := by
  refine List.filterMap_eq_nil_iff.2 fun event hin => ?_
  have hevent := h event hin
  cases event with
  | invoked | opened => cases hevent
  | noted | appended | cleared => rfl

theorem isStart_of_mem_noted {notes : List Note} :
    ∀ event ∈ notes.map noted, event.isStart = false := by
  intro event hin
  obtain ⟨note, -, rfl⟩ := List.mem_map.1 hin
  rfl

end Event

/-! ## Following a trace -/

/-- Every command that starts in the trace was selected for some line, with the arguments that it
gets. -/
def Registry.Justifies (r : Registry Host Out) (trace : List Event) : Prop :=
  ∀ signature arguments depth, .invoked signature arguments depth ∈ trace →
    ∃ line c, r.resolve line = .selected c arguments ∧ c.signature = signature

/-- The surroundings `t` are what the trace makes of `s`: its requests come after those that were
there, the world is replayed, and the registry justifies every start. -/
structure Registry.Follows (r : Registry World Out) (s : Surroundings World) (trace : List Event)
    (t : Surroundings World) : Prop where
  signals : t.signals = s.signals ++ Event.requests trace
  host : t.host = s.host.replay trace
  justified : r.Justifies trace

/-- The action leaves the requests and the state of the host as they are. -/
def Action.LeavesHost (x : Action Host Out α) : Prop :=
  ∀ s, (x.perform s).after.signals = s.signals ∧ (x.perform s).after.host = s.host

/-- What the body does to the requests and the world is what is known of the name. -/
def Command.Invokes (c : Command World Out) : Prop :=
  ∀ interpreter arguments s,
    let after := ((c.body interpreter arguments).perform s).after
    after.signals = s.signals ++ (Signal.ofCommand? c.signature.name).toList ∧
      after.host = s.host.invoke c.signature.name arguments

namespace Registry

theorem justifies_of_starts {r : Registry Host Out} {trace : List Event}
    (h : ∀ event ∈ trace, event.isStart = false) : r.Justifies trace := by
  intro signature arguments depth hin
  cases h _ hin

theorem Justifies.append {r : Registry Host Out} {first second : List Event}
    (hfirst : r.Justifies first) (hsecond : r.Justifies second) :
    r.Justifies (first ++ second) := by
  intro signature arguments depth hin
  rcases List.mem_append.1 hin with hin | hin
  · exact hfirst signature arguments depth hin
  · exact hsecond signature arguments depth hin

theorem Justifies.cons_invoked {r : Registry Host Out} {line : String} {c : Command Host Out}
    {arguments : List Value} {trace : List Event} (hline : r.resolve line = .selected c arguments)
    (h : r.Justifies trace) (depth : Nat) :
    r.Justifies (.invoked c.signature arguments depth :: trace) := by
  intro signature arguments' depth' hin
  rcases List.mem_cons.1 hin with heq | hin
  · cases heq
    exact ⟨line, c, hline, rfl⟩
  · exact h signature arguments' depth' hin

variable {r : Registry World Out} {s t u : Surroundings World} {trace : List Event}

theorem Follows.of_starts (hstarts : ∀ event ∈ trace, event.isStart = false)
    (hsignals : t.signals = s.signals) (hhost : t.host = s.host) : r.Follows s trace t := by
  refine ⟨?_, ?_, justifies_of_starts hstarts⟩
  · rw [Event.requests_of_starts hstarts, List.append_nil, hsignals]
  · rw [World.replay_of_starts hstarts, hhost]

/-- What a command leaves behind follows its start and what comes after. -/
theorem Follows.of_start {line : String} {c : Command World Out} {arguments : List Value}
    (hline : r.resolve line = .selected c arguments)
    (hsignals : t.signals =
      s.signals ++ ((Signal.ofCommand? c.signature.name).toList ++ Event.requests trace))
    (hhost : t.host = (s.host.invoke c.signature.name arguments).replay trace)
    (h : r.Justifies trace) (depth : Nat) :
    r.Follows s (.invoked c.signature arguments depth :: trace) t := by
  refine ⟨?_, hhost, h.cons_invoked hline depth⟩
  rw [Event.requests_cons]
  exact hsignals

theorem Follows.trans {first second : List Event} (hst : r.Follows s first t)
    (htu : r.Follows t second u) : r.Follows s (first ++ second) u := by
  refine ⟨?_, ?_, hst.justified.append htu.justified⟩
  · rw [htu.signals, hst.signals, Event.requests_append, List.append_assoc]
  · rw [htu.host, hst.host, World.replay_append]

end Registry

/-! ## Steps -/

namespace Action

theorem leavesHost_pure (a : α) : (pure a : Action Host Out α).LeavesHost := fun _ => ⟨rfl, rfl⟩

theorem leavesHost_fail (e : Failure) : (fail e : Action Host Out α).LeavesHost :=
  fun _ => ⟨rfl, rfl⟩

theorem leavesHost_ofExcept (x : Except Failure α) :
    (ofExcept x : Action Host Out α).LeavesHost := by
  cases x with
  | error e => exact leavesHost_fail e
  | ok a => exact leavesHost_pure a

theorem leavesHost_get : (get : Action Host Out _).LeavesHost := fun _ => ⟨rfl, rfl⟩

theorem leavesHost_emit (trace : List Event) :
    (emit trace : Action Host Out Unit).LeavesHost := fun _ => ⟨rfl, rfl⟩

theorem leavesHost_append [Sink Out] (text : String) (color : Color) :
    (append text color : Action Host Out Unit).LeavesHost := leavesHost_emit _

theorem leavesHost_modify {f : Surroundings Host → Surroundings Host}
    (hsignals : ∀ s, (f s).signals = s.signals) (hhost : ∀ s, (f s).host = s.host) :
    (modify f : Action Host Out Unit).LeavesHost :=
  fun s => ⟨hsignals s, hhost s⟩

theorem LeavesHost.bind {x : Action Host Out α} {f : α → Action Host Out β} (hx : x.LeavesHost)
    (hf : ∀ a, (f a).LeavesHost) : (x >>= f).LeavesHost := by
  intro s
  obtain ⟨hsignals, hhost⟩ := hx s
  rcases result_cases x s with ⟨e, h⟩ | ⟨a, h⟩
  · rw [perform_bind_error h]
    exact ⟨hsignals, hhost⟩
  · obtain ⟨hsignals', hhost'⟩ := hf a (x.perform s).after
    rw [perform_bind_ok h]
    exact ⟨hsignals'.trans hsignals, hhost'.trans hhost⟩

end Action

/-! ## Accounts of a run -/

/-- A relation between the surroundings before, a trace and the surroundings afterwards. -/
abbrev Action.Relation : Type := Surroundings World → List Event → Surroundings World → Prop

/-- The relation holds of all that the action does. -/
def Action.Obeys (R : Relation) (x : Action World Out α) : Prop :=
  ∀ s, R s (x.perform s).trace (x.perform s).after

/-- The relation looks at requests and world only.  It holds where nothing starts and where a single
command runs, and passes from one thing to the next and from the lines of a script to `exec`. -/
structure Registry.IsAccount [Sink Out] (r : Registry World Out) (R : Action.Relation) : Prop where
  congr : ∀ {s s' t t' : Surroundings World} {trace}, R s trace t → s'.signals = s.signals →
    s'.host = s.host → t'.signals = t.signals → t'.host = t.host → R s' trace t'
  quiet : ∀ {trace} (s : Surroundings World), (∀ event ∈ trace, event.isStart = false) → R s trace s
  opened : ∀ (s : Surroundings World) (path : String), R s [.opened path] s
  trans : ∀ {s t u : Surroundings World} {first second}, R s first t → R t second u →
    R s (first ++ second) u
  leaf : ∀ {line c arguments}, r.resolve line = .selected c arguments → c.IsLeaf → c.Invokes →
    ∀ interpreter s, let e := (c.body interpreter arguments).perform s
      R s (.invoked c.signature arguments s.depth :: e.trace) e.after
  script : ∀ {line arguments}, r.resolve line = .selected Builtin.exec arguments →
    ∀ {s t : Surroundings World} {trace}, R s trace t →
      R s (.invoked (Builtin.exec : Command World Out).signature arguments s.depth :: trace) t

namespace Registry.IsAccount

open DevConsole.Action

variable [Sink Out] {r : Registry World Out} {R : Action.Relation} (h : r.IsAccount R)
include h

/-! ### Steps -/

/-- Requests and world as they were, and nothing that starts. -/
theorem of_starts {s t : Surroundings World} {trace : List Event}
    (hstarts : ∀ event ∈ trace, event.isStart = false) (hsignals : t.signals = s.signals)
    (hhost : t.host = s.host) : R s trace t :=
  h.congr (h.quiet s hstarts) rfl rfl hsignals hhost

theorem of_nil {s t : Surroundings World} (hsignals : t.signals = s.signals)
    (hhost : t.host = s.host) : R s [] t :=
  h.of_starts (fun _ hin => by cases hin) hsignals hhost

theorem obeys_of_leaf {x : Action World Out α} (hx : x.IsLeaf) (hleaves : x.LeavesHost) :
    x.Obeys R :=
  fun s => h.of_starts (hx.starts s) (hleaves s).1 (hleaves s).2

theorem obeys_fail (e : Failure) : (fail e : Action World Out α).Obeys R :=
  fun _ => h.of_nil rfl rfl

theorem obeys_pure (a : α) : (pure a : Action World Out α).Obeys R := fun _ => h.of_nil rfl rfl

theorem obeys_get : (get : Action World Out _).Obeys R := fun _ => h.of_nil rfl rfl

theorem obeys_opened (path : String) : (emit [.opened path] : Action World Out Unit).Obeys R :=
  fun s => h.opened s path

theorem obeys_bind {x : Action World Out α} {f : α → Action World Out β} (hx : x.Obeys R)
    (hf : ∀ a, (f a).Obeys R) : (x >>= f).Obeys R := by
  intro s
  rcases result_cases x s with ⟨e, hresult⟩ | ⟨a, hresult⟩
  · rw [perform_bind_error hresult]
    exact hx s
  · rw [perform_bind_ok hresult]
    exact h.trans (hx s) (hf a _)

theorem obeys_deeper {x : Action World Out α} (hx : x.Obeys R) : x.deeper.Obeys R :=
  fun s => h.congr (hx { s with depth := s.depth + 1 }) rfl rfl rfl rfl

/-! ### Lines -/

section Lines

variable {execute : String → Action World Out (Option Value)}
  (hlines : ∀ line, (execute line).Obeys R)
include hlines

theorem obeys_runLines (lines : List (Nat × String)) : (Batch.runLines execute lines).Obeys R := by
  induction lines with
  | nil => exact h.obeys_pure ()
  | cons numbered rest ih =>
    -- The line number that a failure gets changes no more than the failure.
    have hline : ((execute numbered.2).mapFailure (.batch numbered.1)).Obeys R := hlines numbered.2
    exact h.obeys_bind hline fun _ => ih

theorem obeys_runScript (catalogue : Catalogue) (entries : List ScriptDirectory.Entry)
    (name : String) : (Builtin.runScript ⟨catalogue, execute⟩ entries name).Obeys R := by
  refine h.obeys_bind h.obeys_get fun s => ?_
  split
  · exact h.obeys_fail _
  · split
    · exact h.obeys_fail _
    · refine h.obeys_bind (h.obeys_of_leaf (Builtin.isLeaf_source _) (leavesHost_ofExcept _)) ?_
      intro text
      refine h.obeys_bind (h.obeys_opened _) fun _ => ?_
      exact h.obeys_deeper (h.obeys_runLines hlines _)

end Lines

end Registry.IsAccount

/-! ## Commands -/

namespace Command

/-- A body that leaves requests and world alone is that of a command of which nothing is known. -/
theorem Invokes.of_leavesHost {c : Command World Out}
    (h : ∀ interpreter arguments, (c.body interpreter arguments).LeavesHost)
    (hsignal : Signal.ofCommand? c.signature.name = none)
    (hworld : ∀ (arguments : List Value) (w : World), w.invoke c.signature.name arguments = w) :
    c.Invokes := by
  intro interpreter arguments s
  obtain ⟨hsignals, hhost⟩ := h interpreter arguments s
  dsimp only
  rw [hsignal, hworld, hsignals, hhost]
  exact ⟨(List.append_nil _).symm, rfl⟩

end Command

namespace Builtin

open DevConsole.Action

section Bodies

variable (interpreter : Interpreter Host Out) (arguments : List Value)

theorem leavesHost_getKeycode :
    ((getKeycode : Command Host Out).body interpreter arguments).LeavesHost :=
  (leavesHost_ofExcept _).bind fun _ => leavesHost_pure _

theorem leavesHost_setTooltip :
    ((setTooltip : Command Host Out).body interpreter arguments).LeavesHost := by
  refine (leavesHost_ofExcept _).bind fun _ => (leavesHost_ofExcept _).bind fun _ => ?_
  refine LeavesHost.bind ?_ fun _ => leavesHost_pure _
  exact leavesHost_modify (fun _ => rfl) fun _ => rfl

theorem leavesHost_setDrawColliders :
    ((setDrawColliders : Command Host Out).body interpreter arguments).LeavesHost := by
  refine (leavesHost_ofExcept _).bind fun _ => LeavesHost.bind ?_ fun _ => leavesHost_pure _
  exact leavesHost_modify (fun _ => rfl) fun _ => rfl

theorem leavesHost_getDrawColliders :
    ((getDrawColliders : Command Host Out).body interpreter arguments).LeavesHost :=
  leavesHost_get.bind fun _ => leavesHost_pure _

theorem leavesHost_setDrawFps :
    ((setDrawFps : Command Host Out).body interpreter arguments).LeavesHost := by
  refine (leavesHost_ofExcept _).bind fun _ => LeavesHost.bind ?_ fun _ => leavesHost_pure _
  exact leavesHost_modify (fun _ => rfl) fun _ => rfl

theorem leavesHost_getDrawFps :
    ((getDrawFps : Command Host Out).body interpreter arguments).LeavesHost :=
  leavesHost_get.bind fun _ => leavesHost_pure _

end Bodies

section Bodies

variable [Sink Out] (interpreter : Interpreter Host Out) (arguments : List Value)

theorem leavesHost_print :
    ((print : Command Host Out).body interpreter arguments).LeavesHost :=
  (leavesHost_ofExcept _).bind fun _ => (leavesHost_append _ _).bind fun _ => leavesHost_pure _

theorem leavesHost_printColored :
    ((printColored : Command Host Out).body interpreter arguments).LeavesHost := by
  refine (leavesHost_ofExcept _).bind fun _ => (leavesHost_ofExcept _).bind fun name => ?_
  dsimp only
  split
  · exact (leavesHost_fail _).bind fun _ => leavesHost_pure _
  · exact (leavesHost_append _ _).bind fun _ => leavesHost_pure _

theorem leavesHost_printBlank :
    ((printBlank : Command Host Out).body interpreter arguments).LeavesHost :=
  (leavesHost_append _ _).bind fun _ => leavesHost_pure _

theorem leavesHost_appendAll (texts : List (String × Color)) :
    (appendAll texts : Action Host Out Unit).LeavesHost := by
  induction texts with
  | nil => exact leavesHost_pure _
  | cons first rest ih => exact (leavesHost_append _ _).bind fun _ => ih

theorem leavesHost_help :
    ((help : Command Host Out).body interpreter arguments).LeavesHost :=
  (leavesHost_ofExcept _).bind fun _ => (leavesHost_appendAll _).bind fun _ => leavesHost_pure _

theorem leavesHost_generalHelp :
    ((generalHelp : Command Host Out).body interpreter arguments).LeavesHost :=
  (leavesHost_appendAll _).bind fun _ => leavesHost_pure _

theorem leavesHost_listCommands :
    ((listCommands : Command Host Out).body interpreter arguments).LeavesHost :=
  (leavesHost_appendAll _).bind fun _ => leavesHost_pure _

theorem leavesHost_clearConsole :
    ((clearConsole : Command Host Out).body interpreter arguments).LeavesHost :=
  (leavesHost_emit _).bind fun _ => (leavesHost_append _ _).bind fun _ => leavesHost_pure _

theorem leavesHost_makeDirectory : (makeDirectory : Action Host Out Unit).LeavesHost := by
  refine leavesHost_get.bind fun env => ?_
  split
  · exact leavesHost_fail _
  · refine LeavesHost.bind ?_ fun _ => (leavesHost_emit _).bind fun _ => leavesHost_append _ _
    exact leavesHost_modify (fun _ => rfl) fun _ => rfl

end Bodies

theorem invokes_quit : (quit : Command World Out).Invokes := fun _ _ _ => ⟨rfl, rfl⟩

variable [Sink Out]

theorem invokes_reloadResources : (reloadResources : Command World Out).Invokes :=
  fun _ _ _ => ⟨rfl, rfl⟩

/-- **Of every built-in command but `exec` it is known what it does.** -/
theorem eq_exec_or_invokes {c : Command World Out} (h : c ∈ (all : List (Command World Out))) :
    c = exec ∨ c.Invokes := by
  simp only [all, List.mem_cons, List.not_mem_nil, or_false] at h
  rcases h with rfl | rfl | rfl | rfl | rfl | rfl | rfl | rfl | rfl | rfl | rfl | rfl | rfl | rfl |
    rfl | rfl
  case inr.inl => exact Or.inl rfl
  all_goals refine Or.inr ?_
  · exact .of_leavesHost leavesHost_getKeycode rfl fun _ _ => rfl
  · exact .of_leavesHost leavesHost_print rfl fun _ _ => rfl
  · exact .of_leavesHost leavesHost_printColored rfl fun _ _ => rfl
  · exact .of_leavesHost leavesHost_printBlank rfl fun _ _ => rfl
  · exact .of_leavesHost leavesHost_setTooltip rfl fun _ _ => rfl
  · exact .of_leavesHost leavesHost_help rfl fun _ _ => rfl
  · exact .of_leavesHost leavesHost_generalHelp rfl fun _ _ => rfl
  · exact .of_leavesHost leavesHost_listCommands rfl fun _ _ => rfl
  · exact invokes_reloadResources
  · exact invokes_quit
  · exact .of_leavesHost leavesHost_setDrawColliders rfl fun _ _ => rfl
  · exact .of_leavesHost leavesHost_getDrawColliders rfl fun _ _ => rfl
  · exact .of_leavesHost leavesHost_setDrawFps rfl fun _ _ => rfl
  · exact .of_leavesHost leavesHost_getDrawFps rfl fun _ _ => rfl
  · exact .of_leavesHost leavesHost_clearConsole rfl fun _ _ => rfl

end Builtin

namespace World

open DevConsole.Action

theorem leavesHost_check (x : Except Fault α) : (check x : Action World Out α).LeavesHost :=
  leavesHost_ofExcept _

theorem leavesHost_countEnemies (interpreter : Interpreter World Out) (arguments : List Value) :
    ((countEnemies : Command World Out).body interpreter arguments).LeavesHost :=
  leavesHost_get.bind fun _ => (leavesHost_check _).bind fun _ => leavesHost_pure _

theorem leavesHost_getGravity (interpreter : Interpreter World Out) (arguments : List Value) :
    ((getGravity : Command World Out).body interpreter arguments).LeavesHost :=
  leavesHost_get.bind fun _ => leavesHost_pure _

theorem invokes_setGravity : (setGravity : Command World Out).Invokes := by
  intro interpreter arguments s
  match arguments with
  | [] => exact ⟨(List.append_nil _).symm, rfl⟩
  | .float gravity :: _ => exact ⟨(List.append_nil _).symm, rfl⟩
  | .int _ :: _ => exact ⟨(List.append_nil _).symm, rfl⟩
  | .bool _ :: _ => exact ⟨(List.append_nil _).symm, rfl⟩
  | .string _ :: _ => exact ⟨(List.append_nil _).symm, rfl⟩

variable [Sink Out]

section Spawn

variable {s : Surroundings World} {count : Int32} (interpreter : Interpreter World Out)
  (rest : List Value)

theorem perform_spawnEnemies_of_ok {total : Nat} (h : spawned s.host.enemies count = .ok total) :
    let e := ((spawnEnemies : Command World Out).body interpreter (.int count :: rest)).perform s
    e.result = .ok none ∧ e.after = { s with host := { s.host with enemies := total } } := by
  have hcount : Arguments.int (.int count :: rest) 0 = .ok count := rfl
  unfold spawnEnemies
  dsimp only
  rw [hcount, ofExcept_ok, pure_bind, perform_get_bind, h]
  exact ⟨rfl, rfl⟩

/-- Enemies that are refused are refused before anything is changed or put out. -/
theorem perform_spawnEnemies_of_error {fault : Fault}
    (h : spawned s.host.enemies count = .error fault) :
    ((spawnEnemies : Command World Out).body interpreter (.int count :: rest)).perform s =
      ⟨.error (.command (.other fault.message)), s, []⟩ := by
  have hcount : Arguments.int (.int count :: rest) 0 = .ok count := rfl
  unfold spawnEnemies
  dsimp only
  rw [hcount, ofExcept_ok, pure_bind, perform_get_bind, h]
  rfl

end Spawn

theorem invokes_spawnEnemies : (spawnEnemies : Command World Out).Invokes := by
  intro interpreter arguments s
  match arguments with
  | [] => exact ⟨(List.append_nil _).symm, rfl⟩
  | .int count :: rest =>
    have hinvoke : s.host.invoke "spawn_enemies" (.int count :: rest) =
        match spawned s.host.enemies count with
        | .ok total => { s.host with enemies := total }
        | .error _ => s.host := rfl
    have hsignals : s.signals = s.signals ++ [] := (List.append_nil _).symm
    show _ = s.signals ++ [] ∧ _ = s.host.invoke "spawn_enemies" (.int count :: rest)
    cases hspawned : spawned s.host.enemies count with
    | error fault =>
      rw [hinvoke, hspawned, perform_spawnEnemies_of_error interpreter rest hspawned]
      exact ⟨hsignals, rfl⟩
    | ok total =>
      rw [hinvoke, hspawned, (perform_spawnEnemies_of_ok interpreter rest hspawned).2]
      exact ⟨hsignals, rfl⟩
  | .float _ :: _ => exact ⟨(List.append_nil _).symm, rfl⟩
  | .bool _ :: _ => exact ⟨(List.append_nil _).symm, rfl⟩
  | .string _ :: _ => exact ⟨(List.append_nil _).symm, rfl⟩

theorem invokes_setDifficulty : (setDifficulty : Command World Out).Invokes := by
  intro interpreter arguments s
  match arguments with
  | [] => exact ⟨(List.append_nil _).symm, rfl⟩
  | .string level :: _ => exact ⟨(List.append_nil _).symm, rfl⟩
  | .int _ :: _ => exact ⟨(List.append_nil _).symm, rfl⟩
  | .bool _ :: _ => exact ⟨(List.append_nil _).symm, rfl⟩
  | .float _ :: _ => exact ⟨(List.append_nil _).symm, rfl⟩

/-- **Of every command of the world it is known what it does.** -/
theorem invokes_of_mem_commands {c : Command World Out}
    (h : c ∈ (commands : List (Command World Out))) : c.Invokes := by
  simp only [commands, List.mem_cons, List.not_mem_nil, or_false] at h
  rcases h with rfl | rfl | rfl | rfl | rfl
  · exact invokes_spawnEnemies
  · exact .of_leavesHost leavesHost_countEnemies rfl fun _ _ => rfl
  · exact invokes_setGravity
  · exact .of_leavesHost leavesHost_getGravity rfl fun _ _ => rfl
  · exact invokes_setDifficulty

theorem accepted_commands : ∀ c ∈ (commands : List (Command World Out)), c.signature.Accepted := by
  intro c hc
  simp only [commands, List.mem_cons, List.not_mem_nil, or_false] at hc
  rcases hc with rfl | rfl | rfl | rfl | rfl <;>
    simp [Signature.Accepted, Signature.isPlain, spawnEnemies, countEnemies, setGravity, getGravity,
      setDifficulty]

end World

/-! ## Lines -/

namespace Registry

variable [Sink Out] {r : Registry World Out}

/-- The built-in commands and those of the world, in this order. -/
def OfWorld (r : Registry World Out) : Prop := r.commands = Builtin.all ++ World.commands

/-- A command of the world's registry is `exec`, or a leaf of which it is known what it does. -/
theorem OfWorld.eq_exec_or_invokes (hr : r.OfWorld) {c : Command World Out}
    (hc : c ∈ r.commands) : c = Builtin.exec ∨ c.IsLeaf ∧ c.Invokes := by
  rw [hr, List.mem_append] at hc
  rcases hc with hc | hc
  · rcases Builtin.eq_exec_or_isLeaf hc with hexec | hleaf
    · exact Or.inl hexec
    · exact (Builtin.eq_exec_or_invokes hc).imp_right fun h => ⟨hleaf, h⟩
  · exact Or.inr ⟨World.isLeaf_of_mem_commands hc, World.invokes_of_mem_commands hc⟩

section Dispatch

variable {R : Action.Relation} (h : r.IsAccount R)
include h

theorem IsAccount.obeys_exec {execute : String → Action World Out (Option Value)}
    (hlines : ∀ line, (execute line).Obeys R) (catalogue : Catalogue) (arguments : List Value) :
    (Builtin.exec.body ⟨catalogue, execute⟩ arguments).Obeys R := by
  refine h.obeys_bind (h.obeys_of_leaf Arguments.isLeaf_string (Action.leavesHost_ofExcept _)) ?_
  intro name
  refine h.obeys_bind h.obeys_get fun s => ?_
  dsimp only
  split
  · have hmade := h.obeys_of_leaf Builtin.isLeaf_makeDirectory Builtin.leavesHost_makeDirectory
    exact h.obeys_bind hmade fun _ => h.obeys_pure _
  · exact h.obeys_bind (h.obeys_runScript hlines catalogue _ name) fun _ => h.obeys_pure _

/-- **An account holds of a dispatched line**, when it holds of the lines inside it. -/
theorem IsAccount.obeys_dispatch (hr : r.OfWorld)
    {execute : String → Action World Out (Option Value)} (hlines : ∀ line, (execute line).Obeys R)
    (line : String) : (r.dispatch execute line).Obeys R := by
  intro s
  have hnotes : R s ((r.rejections line).map .noted) s := h.quiet s Event.isStart_of_mem_noted
  cases hres : r.resolve line with
  | unknown name =>
    rw [perform_dispatch_unknown hres]
    exact hnotes
  | unmatched name =>
    rw [perform_dispatch_unmatched hres]
    exact hnotes
  | selected c arguments =>
    rw [perform_dispatch_selected hres]
    refine h.trans hnotes ?_
    rcases hr.eq_exec_or_invokes (mem_commands_of_selected hres) with rfl | ⟨hleaf, hinvokes⟩
    · -- The start of `exec` itself does nothing; what it does comes after it.
      exact h.script hres (h.obeys_exec hlines r.catalogue arguments s)
    · exact h.leaf hres hleaf hinvokes ⟨r.catalogue, execute⟩ s

theorem IsAccount.obeys_nest (hr : r.OfWorld) (levels : Nat) (line : String) :
    (r.nest refuse levels line).Obeys R := by
  induction levels generalizing line with
  | zero => exact h.obeys_fail _
  | succ levels ih => exact h.obeys_dispatch hr ih line

/-- **An account holds of every line.** -/
theorem IsAccount.execute (hr : r.OfWorld) (line : String) : (r.execute line).Obeys R :=
  h.obeys_nest hr nestingLimit line

end Dispatch

/-- **That what is left behind follows the trace is an account.** -/
theorem isAccount_follows : r.IsAccount r.Follows where
  congr h hsignals hhost hsignals' hhost' :=
    ⟨by rw [hsignals', h.signals, hsignals], by rw [hhost', h.host, hhost], h.justified⟩
  quiet _ hstarts := .of_starts hstarts rfl rfl
  opened s path := by
    refine ⟨(List.append_nil _).symm, rfl, ?_⟩
    intro signature arguments depth hin
    cases List.mem_singleton.1 hin
  trans := .trans
  leaf {line c arguments} hline hleaf hinvokes interpreter s := by
    -- All that a leaf does is done by its start.
    have hstarts := (hleaf.leaf interpreter arguments).starts s
    obtain ⟨hsignals, hhost⟩ := hinvokes interpreter arguments s
    refine .of_start hline ?_ ?_ (justifies_of_starts hstarts) s.depth
    · rw [Event.requests_of_starts hstarts, List.append_nil]
      exact hsignals
    · rw [World.replay_of_starts hstarts]
      exact hhost
  script hline s t trace h := .of_start hline h.signals h.host h.justified s.depth

end Registry

/-! ## Consoles -/

namespace Console

variable {c d : Console World} {trace : List Event}

/-- **An account holds of what leads from one console to another**, with the built-in commands and
those of the world. -/
theorem Leads.accounted {R : Action.Relation} (h : Leads c trace d) (hr : c.registry.OfWorld)
    (hR : c.registry.IsAccount R) : R c.env.toSurroundings trace d.env.toSurroundings := by
  induction h with
  | rest h =>
    rw [h.surroundings]
    exact hR.of_nil rfl rfl
  | note c notes => exact hR.quiet _ Event.isStart_of_mem_noted
  | text c text color =>
    have hleaf : (Action.append text color : Action World Scrollback Unit).IsLeaf :=
      (Action.elementary_append text color).isLeaf
    exact hR.of_starts (hleaf.starts c.env.toSurroundings) rfl rfl
  | line c line =>
    have hexecute := hR.execute hr line { c.env.toSurroundings with depth := 0 }
    exact hR.congr hexecute rfl rfl rfl rfl
  | trans before after ih ih' =>
    have hregistry := before.registry_eq
    exact hR.trans (ih hr hR) (ih' (hregistry ▸ hr) (hregistry ▸ hR))

theorem Leads.follows (h : Leads c trace d) (hr : c.registry.OfWorld) :
    c.registry.Follows c.env.toSurroundings trace d.env.toSurroundings :=
  h.accounted hr Registry.isAccount_follows

/-- A new console with the commands of the world has no others but the built-in ones. -/
theorem ofWorld_registerAll (config : Config) (scripts : ScriptDirectory) (host : World) :
    ((Console.new config scripts host).registerAll World.commands).1.registry.OfWorld :=
  (Registry.registerAll_of_accepted World.commands _ World.accepted_commands).1

theorem operate_replays (hr : c.registry.OfWorld) (op : Operation) :
    let after := c.operate op
    after.1.registry = c.registry ∧ after.1.env.host = c.env.host.replay after.2 ∧
      c.registry.Justifies after.2 := by
  intro after
  rcases leads_operate c op with ⟨-, htaken⟩ | hleads
  · rw [show after = _ from htaken]
    exact ⟨rfl, rfl, Registry.justifies_of_starts fun _ hin => by cases hin⟩
  · have hfollows := hleads.follows hr
    exact ⟨hleads.registry_eq, hfollows.host, hfollows.justified⟩

/-- **After all operations the world is what replaying their events makes of it**, and the registry
justifies every start. -/
theorem operateAll_replays (hr : c.registry.OfWorld) (ops : List Operation) :
    let after := c.operateAll ops
    after.1.env.host = c.env.host.replay after.2 ∧ c.registry.Justifies after.2 := by
  induction ops generalizing c with
  | nil => exact ⟨rfl, Registry.justifies_of_starts fun _ hin => by cases hin⟩
  | cons op ops ih =>
    obtain ⟨hregistry, hhost, hjustified⟩ := operate_replays hr op
    obtain ⟨hhost', hjustified'⟩ := ih (hregistry ▸ hr)
    refine ⟨?_, hjustified.append (hregistry ▸ hjustified')⟩
    rw [operateAll, World.replay_append, ← hhost]
    exact hhost'

end Console

end DevConsole
