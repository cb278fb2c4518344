import DevConsole.Command.Environment
import DevConsole.Command.Signature

/-! # Actions

An action runs in surroundings and has three outcomes at once: a value or a failure, the
surroundings afterwards, and a *trace* of events.  A failure stops what follows, but what
was changed before it stays changed.  Events are only ever added to the trace, and no
action can look at them: output and notes go one way.

`Action.run` runs an action in an environment, whose sink takes the output in the trace.
-/
namespace DevConsole

/-! ## Events -/

/-- Something that an action leaves behind for others to see. -/
inductive Event where
  | noted (note : Note)
  | appended (text : String) (color : Color)
  | cleared
  /-- A command started to run, with these arguments and while so many scripts ran. -/
  | invoked (signature : Signature) (arguments : List Value) (depth : Nat)
  /-- The script at a path started to run. -/
  | opened (path : String)
deriving DecidableEq

/-- The note that an event makes. -/
def Event.note? : Event → Option Note
  | noted note => some note
  | invoked signature _ _ => some ⟨.debug, "Executing " ++ signature.usage⟩
  | opened path => some ⟨.debug, "Running batch " ++ path⟩
  | appended _ _ | cleared => none

/-- The notes in a trace. -/
def Event.notes (trace : List Event) : List Note := trace.filterMap Event.note?

namespace Sink

variable {Out : Type} [Sink Out]

/-- The sink after an event. -/
def receive (out : Out) : Event → Out
  | .appended text color => append text color out
  | .cleared => clear out
  | .noted _ | .invoked _ _ _ | .opened _ => out

/-- The sink after the events of a trace. -/
def receiveAll (out : Out) (trace : List Event) : Out := trace.foldl receive out

@[simp] theorem receiveAll_cons (out : Out) (e : Event) (trace : List Event) :
    receiveAll out (e :: trace) = receiveAll (receive out e) trace := rfl

theorem receiveAll_append (out : Out) (t u : List Event) :
    receiveAll out (t ++ u) = receiveAll (receiveAll out t) u := List.foldl_append

/-- Notes leave a sink as it is. -/
@[simp] theorem receiveAll_noted (out : Out) (ns : List Note) :
    receiveAll out (ns.map .noted) = out := by
  induction ns with
  | nil => rfl
  | cons n ns ih => exact ih

end Sink

/-! ## Actions and what they do -/

/-- What an action does. -/
structure Effect (Host α : Type) where
  /-- The value or the failure. -/
  result : Except Failure α
  /-- The surroundings afterwards. -/
  after : Surroundings Host
  /-- The events, in order. -/
  trace : List Event := []

/-- Something that can be done in surroundings, and whose output goes to a sink. -/
structure Action (Host Out α : Type) where
  /-- What it does. -/
  perform : Surroundings Host → Effect Host α

/-- What came of an action in an environment. -/
structure Outcome (Host Out α : Type) where
  /-- The value or the failure. -/
  result : Except Failure α
  /-- The environment afterwards. -/
  env : Environment Host Out
  /-- The events, in order. -/
  trace : List Event := []

/-- The notes that were taken, in order. -/
def Outcome.notes {Host Out α : Type} (o : Outcome Host Out α) : List Note := Event.notes o.trace

namespace Action

variable {Host Out α β : Type}

/-- The action in an environment, whose sink takes the output. -/
def run [Sink Out] (x : Action Host Out α) (env : Environment Host Out) : Outcome Host Out α :=
  let e := x.perform env.toSurroundings
  ⟨e.result, { e.after with out := Sink.receiveAll env.out e.trace }, e.trace⟩

instance [Sink Out] :
    CoeFun (Action Host Out α) fun _ => Environment Host Out → Outcome Host Out α :=
  ⟨run⟩

/-- Gives a value and changes nothing. -/
protected def pure (a : α) : Action Host Out α := ⟨fun s => ⟨.ok a, s, []⟩⟩

/-- One action, and then another that may use its value. -/
protected def bind (x : Action Host Out α) (f : α → Action Host Out β) : Action Host Out β where
  perform s :=
    let first := x.perform s
    match first.result with
    | .error e => ⟨.error e, first.after, first.trace⟩
    | .ok a =>
      let second := (f a).perform first.after
      ⟨second.result, second.after, first.trace ++ second.trace⟩

instance : Monad (Action Host Out) where
  pure := Action.pure
  bind := Action.bind

/-- Gives up with a failure. -/
def fail (e : Failure) : Action Host Out α := ⟨fun s => ⟨.error e, s, []⟩⟩

/-- Goes on with the value, or gives up with the failure. -/
def ofExcept : Except Failure α → Action Host Out α
  | .ok a => pure a
  | .error e => fail e

/-- The surroundings. -/
def get : Action Host Out (Surroundings Host) := ⟨fun s => ⟨.ok s, s, []⟩⟩

/-- Changes the surroundings. -/
def modify (f : Surroundings Host → Surroundings Host) : Action Host Out Unit :=
  ⟨fun s => ⟨.ok (), f s, []⟩⟩

/-- Adds events to the trace. -/
def emit (trace : List Event) : Action Host Out Unit := ⟨fun s => ⟨.ok (), s, trace⟩⟩

/-- Takes notes. -/
def notes (ns : List Note) : Action Host Out Unit := emit (ns.map .noted)

/-- Takes a note. -/
def note (level : Level) (text : String) : Action Host Out Unit := notes [⟨level, text⟩]

/-- Tells that a command starts to run. -/
def announce (signature : Signature) (arguments : List Value) : Action Host Out Unit :=
  ⟨fun s => ⟨.ok (), s, [.invoked signature arguments s.depth]⟩⟩

/-- The action with another failure in place of its own. -/
def mapFailure (f : Failure → Failure) (x : Action Host Out α) : Action Host Out α where
  perform s :=
    let e := x.perform s
    { e with result := e.result.mapError f }

/-- The action one script deeper; afterwards the depth is counted down again. -/
def deeper (x : Action Host Out α) : Action Host Out α where
  perform s :=
    let e := x.perform { s with depth := s.depth + 1 }
    { e with after := { e.after with depth := e.after.depth - 1 } }

/-- Adds a text in a color to the output. -/
def append [Sink Out] (text : String) (color : Color) : Action Host Out Unit :=
  emit (.appended text color :: (Sink.echo Out text).map .noted)

/-- Adds a text in the default color to the output. -/
def print [Sink Out] (text : String) : Action Host Out Unit := append text .white

/-- Removes all output. -/
def clear : Action Host Out Unit := emit [.cleared]

/-- Adds a request to those that the host has not seen yet. -/
def request (signal : Signal) : Action Host Out Unit :=
  modify fun s => { s with signals := s.signals ++ [signal] }

/-! ## Performing -/

@[simp] theorem perform_pure (a : α) (s : Surroundings Host) :
    (pure a : Action Host Out α).perform s = ⟨.ok a, s, []⟩ := rfl

@[simp] theorem perform_fail (e : Failure) (s : Surroundings Host) :
    (fail e : Action Host Out α).perform s = ⟨.error e, s, []⟩ := rfl

@[simp] theorem perform_get (s : Surroundings Host) :
    (get : Action Host Out (Surroundings Host)).perform s = ⟨.ok s, s, []⟩ := rfl

@[simp] theorem perform_modify (f : Surroundings Host → Surroundings Host) (s : Surroundings Host) :
    (modify f : Action Host Out Unit).perform s = ⟨.ok (), f s, []⟩ := rfl

@[simp] theorem perform_emit (trace : List Event) (s : Surroundings Host) :
    (emit trace : Action Host Out Unit).perform s = ⟨.ok (), s, trace⟩ := rfl

@[simp] theorem perform_deeper (x : Action Host Out α) (s : Surroundings Host) :
    x.deeper.perform s =
      let e := x.perform { s with depth := s.depth + 1 }
      { e with after := { e.after with depth := e.after.depth - 1 } } := rfl

@[simp] theorem perform_mapFailure (f : Failure → Failure) (x : Action Host Out α)
    (s : Surroundings Host) :
    (x.mapFailure f).perform s =
      { x.perform s with result := (x.perform s).result.mapError f } := rfl

theorem perform_bind_ok {x : Action Host Out α} {f : α → Action Host Out β}
    {s : Surroundings Host} {a : α} (h : (x.perform s).result = .ok a) :
    (x >>= f).perform s =
      let second := (f a).perform (x.perform s).after
      ⟨second.result, second.after, (x.perform s).trace ++ second.trace⟩ := by
  show (Action.bind x f).perform s = _
  simp [Action.bind, h]

theorem perform_bind_error {x : Action Host Out α} {f : α → Action Host Out β}
    {s : Surroundings Host} {e : Failure} (h : (x.perform s).result = .error e) :
    (x >>= f).perform s = ⟨.error e, (x.perform s).after, (x.perform s).trace⟩ := by
  show (Action.bind x f).perform s = _
  simp [Action.bind, h]

theorem perform_get_bind (f : Surroundings Host → Action Host Out α) (s : Surroundings Host) :
    (get >>= f).perform s = (f s).perform s := rfl

@[simp] theorem ofExcept_ok (a : α) : (ofExcept (.ok a) : Action Host Out α) = pure a := rfl

theorem result_ofExcept (x : Except Failure α) (s : Surroundings Host) :
    ((ofExcept x : Action Host Out α).perform s).result = x := by
  cases x <;> rfl

theorem ext_perform {x y : Action Host Out α} (h : ∀ s, x.perform s = y.perform s) : x = y := by
  cases x; cases y
  exact congrArg Action.mk (funext h)

theorem bind_pure_eq (x : Action Host Out α) : Action.bind x Action.pure = x := by
  refine ext_perform fun s => ?_
  cases h : x.perform s with
  | mk r s' t => cases r <;> simp [Action.bind, Action.pure, h]

theorem bind_assoc_eq {γ : Type} (x : Action Host Out α) (f : α → Action Host Out β)
    (g : β → Action Host Out γ) :
    Action.bind (Action.bind x f) g = Action.bind x fun a => Action.bind (f a) g := by
  refine ext_perform fun s => ?_
  cases h : x.perform s with
  | mk r s' t =>
    cases r with
    | error e => simp [Action.bind, h]
    | ok a =>
      cases h' : (f a).perform s' with
      | mk r' s'' t' => cases r' <;> simp [Action.bind, h, h']

instance : LawfulMonad (Action Host Out) :=
  LawfulMonad.mk' (Action Host Out) (fun x => bind_pure_eq x)
    (fun a f => ext_perform fun s => rfl)
    (fun x f g => bind_assoc_eq x f g)

end Action

end DevConsole
