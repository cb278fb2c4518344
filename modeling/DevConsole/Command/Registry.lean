import DevConsole.Command.Action
import DevConsole.Command.Signature

/-! # The registry of commands

A command is a signature and a body.  The body is given the arguments and an
*interpreter*: what it may know and call besides its environment, namely the signatures
of all registered commands and the execution of another line.

The registry keeps commands in the order of their registration, which is the order in
which overloads are tried.  It holds accepted signatures only: `register` refuses every
other one, and warns about one that an earlier command shadows.
-/
namespace DevConsole

/-- What the body of a command may know and call besides its environment. -/
structure Interpreter (Host Out : Type) where
  /-- The signatures of all registered commands. -/
  catalogue : Catalogue
  /-- Executes a line in the environment of the command. -/
  execute : String → Action Host Out (Option Value)

/-- A command: what it declares, and what it does with its arguments. -/
structure Command (Host Out : Type) where
  /-- What it declares. -/
  signature : Signature
  /-- What it does with its arguments, and the value it gives back. -/
  body : Interpreter Host Out → List Value → Action Host Out (Option Value)

/-- Commands with accepted signatures, in the order of their registration. -/
structure Registry (Host Out : Type) where
  commands : List (Command Host Out) := []
  accepted : ∀ c ∈ commands, c.signature.Accepted := by simp

namespace Registry

variable {Host Out : Type}

/-- No commands. -/
def empty : Registry Host Out := {}

/-- The signatures of the commands. -/
def catalogue (r : Registry Host Out) : Catalogue := r.commands.map Command.signature

/-- The number of commands. -/
def size (r : Registry Host Out) : Nat := r.commands.length

/-- The registry with one more command at its end. -/
def push (r : Registry Host Out) (c : Command Host Out) (h : c.signature.Accepted) :
    Registry Host Out where
  commands := r.commands ++ [c]
  accepted := by
    intro d hd
    rcases List.mem_append.1 hd with hd | hd
    · exact r.accepted d hd
    · rw [List.mem_singleton.1 hd]; exact h

/-- The notes on the registration of an accepted signature after those of a catalogue. -/
def registrationNotes (earlier : Catalogue) (s : Signature) : List Note :=
  (if earlier.any fun e => e.shadows s then
    [⟨.warn, s.usage ++ " is shadowed by an earlier overload and will never be selected"⟩]
  else []) ++ [⟨.debug, "Registered command " ++ s.usage⟩]

/-- Adds a command after all others, unless its signature has a fault. -/
def register (r : Registry Host Out) (c : Command Host Out) :
    Except Failure (Registry Host Out) × List Note :=
  match h : c.signature.fault? with
  | some fault =>
    (.error fault,
      [⟨.error, "Refusing to register " ++ c.signature.usage ++ ": " ++ fault.message⟩])
  | none =>
    (.ok (r.push c (Signature.accepted_of_fault?_eq_none h)),
      registrationNotes r.catalogue c.signature)

/-- Adds commands one after the other, up to the first whose signature has a fault: the
registry with those before it, that fault if there is one, and the notes. -/
def registerAll (r : Registry Host Out) :
    List (Command Host Out) → Registry Host Out × Option Failure × List Note
  | [] => (r, none, [])
  | c :: cs =>
    match r.register c with
    | (.error fault, notes) => (r, some fault, notes)
    | (.ok r', notes) =>
      let rest := registerAll r' cs
      (rest.1, rest.2.1, notes ++ rest.2.2)

/-- Adds commands one after the other, and leaves out those whose signatures have a fault. -/
def registerEach (r : Registry Host Out) : List (Command Host Out) → Registry Host Out
  | [] => r
  | c :: cs =>
    match (r.register c).1 with
    | .error _ => registerEach r cs
    | .ok r' => registerEach r' cs

@[simp] theorem commands_push (r : Registry Host Out) (c : Command Host Out) (h) :
    (r.push c h).commands = r.commands ++ [c] := rfl

/-- Registration succeeds exactly for accepted signatures, and then adds the command at
the end. -/
theorem register_eq_ok {r r' : Registry Host Out} {c : Command Host Out}
    (h : (r.register c).1 = .ok r') : r'.commands = r.commands ++ [c] := by
  unfold register at h
  split at h
  · simp at h
  · simp only [Except.ok.injEq] at h
    rw [← h, commands_push]

theorem register_of_accepted {r : Registry Host Out} {c : Command Host Out}
    (h : c.signature.Accepted) : (r.register c).1 = .ok (r.push c h) := by
  unfold register
  split
  · rename_i fault hf
    rw [Signature.fault?_eq_none_of_accepted h] at hf
    contradiction
  · rfl

/-- A signature with a fault is refused. -/
theorem register_of_not_accepted {r : Registry Host Out} {c : Command Host Out}
    (h : ¬ c.signature.Accepted) : ∃ fault, (r.register c).1 = .error fault := by
  unfold register
  split
  · rename_i fault hf
    exact ⟨fault, rfl⟩
  · rename_i hf
    exact absurd (Signature.accepted_of_fault?_eq_none hf) h

/-- Commands that are registered one after the other are added at the end, as far as their
signatures are accepted. -/
theorem commands_registerEach (r : Registry Host Out) (cs : List (Command Host Out)) :
    (r.registerEach cs).commands = r.commands ++ cs.filter fun c => c.signature.Accepted := by
  induction cs generalizing r with
  | nil => exact (List.append_nil _).symm
  | cons c cs ih =>
    rw [registerEach]
    by_cases hc : c.signature.Accepted
    · rw [register_of_accepted hc]
      simp only [ih, commands_push, List.append_assoc, List.singleton_append, List.filter_cons, hc,
        decide_true, if_true]
    · obtain ⟨fault, hf⟩ := register_of_not_accepted (r := r) hc
      rw [hf]
      simp only [ih, List.filter_cons, hc, decide_false, Bool.false_eq_true, if_false]

/-- Commands with accepted signatures are all registered. -/
theorem registerAll_of_accepted (cs : List (Command Host Out)) (r : Registry Host Out)
    (h : ∀ c ∈ cs, c.signature.Accepted) :
    (r.registerAll cs).1.commands = r.commands ++ cs ∧ (r.registerAll cs).2.1 = none := by
  induction cs generalizing r with
  | nil => exact ⟨(List.append_nil _).symm, rfl⟩
  | cons c cs ih =>
    obtain ⟨hc, hcs⟩ := List.forall_mem_cons.1 h
    have hr := register_of_accepted (r := r) hc
    rw [registerAll]
    split
    · rename_i fault notes hf
      rw [hf] at hr
      contradiction
    · rename_i r' notes hr'
      rw [hr'] at hr
      cases hr
      have hrest := ih (r.push c hc) hcs
      exact ⟨by rw [hrest.1, commands_push, List.append_assoc, List.singleton_append], hrest.2⟩

end Registry

end DevConsole
