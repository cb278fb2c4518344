import DevConsole.Color
import DevConsole.Failure

/-! # Signatures

What a command declares about itself: a name, its parameters, the kind of value it gives
back if it gives one, and a summary for the help.  Several commands may share a name;
they are overloads of each other, told apart by their parameters.

A text parameter can be tied to a set of choices.  A hard constraint refuses every other
text, a soft one only documents what is expected.  Only text parameters may be tied, and
`Signature.fault?` finds the first one that breaks that rule.
-/
namespace DevConsole

/-- A set of choices that is known only when an argument is read. -/
inductive ChoiceSet where
  | commands
  | colors
deriving DecidableEq

/-- What ties a text parameter to a set of choices. -/
inductive Constraint where
  | free
  | fixed (choices : List String) (hard : Bool)
  | dynamic (set : ChoiceSet) (hard : Bool)
deriving DecidableEq

/-- Whether a text outside the choices is refused. -/
def Constraint.isHard : Constraint → Bool
  | free => false
  | fixed _ hard => hard
  | dynamic _ hard => hard

/-- A parameter of a command. -/
structure Parameter where
  /-- The name that the usage shows. -/
  name : String
  /-- The kind of value that it takes. -/
  kind : Kind
  /-- What ties it to a set of choices. -/
  constraint : Constraint := .free
deriving DecidableEq

/-- What a command declares about itself. -/
structure Signature where
  /-- The name, which lines give in any case. -/
  name : String
  /-- The parameters, in order. -/
  parameters : List Parameter := []
  /-- The kind of value that it gives back, if it gives one. -/
  returns : Option Kind := none
  /-- What the help says about it. -/
  summary : Option String := none
deriving DecidableEq

/-- Signatures in the order of their registration. -/
abbrev Catalogue := List Signature

namespace Signature

/-- The name and the parameters, as the help shows them. -/
def usage (s : Signature) : String :=
  s.name ++ String.join (s.parameters.map fun p => " <" ++ p.name ++ " (" ++ p.kind.name ++ ")>")

/-- Whether a parameter keeps to the rule that only texts are tied to choices. -/
def isPlain (p : Parameter) : Bool := p.kind == .string || p.constraint == .free

/-- Every parameter keeps to the rule that only texts are tied to choices. -/
def Accepted (s : Signature) : Prop := ∀ p ∈ s.parameters, isPlain p = true

instance (s : Signature) : Decidable s.Accepted :=
  inferInstanceAs (Decidable (∀ p ∈ s.parameters, isPlain p = true))

/-- The failure over the first parameter that is tied without being a text. -/
def fault? (s : Signature) : Option Failure :=
  (s.parameters.find? fun p => !isPlain p).map fun p =>
    .unsupportedParameter s.name p.name p.kind

/-- A signature without a fault is accepted. -/
theorem accepted_of_fault?_eq_none {s : Signature} (h : s.fault? = none) : s.Accepted := by
  simpa [fault?, Accepted] using h

/-- An accepted signature has no fault. -/
theorem fault?_eq_none_of_accepted {s : Signature} (h : s.Accepted) : s.fault? = none := by
  simpa [fault?, Accepted] using h

/-- Whether every line that fits `later` fits `s` too, so that `later` is never reached
when it is registered after `s`: same name, same kinds, and no hard constraint here. -/
def shadows (s later : Signature) : Bool :=
  Text.sameIgnoringAsciiCase s.name later.name &&
    s.parameters.length == later.parameters.length &&
    (s.parameters.zip later.parameters).all fun (p, q) => p.kind == q.kind && !p.constraint.isHard

end Signature

namespace Catalogue

/-- The first of each group of names that differ only in ASCII case. -/
def distinct : List String → List String
  | [] => []
  | name :: names =>
    name :: (distinct names).filter fun other => !Text.sameIgnoringAsciiCase name other

/-- The distinct names, in the order of their first registration. -/
def names (c : Catalogue) : List String := distinct (c.map Signature.name)

/-- The choices of a set. -/
def choices (c : Catalogue) : ChoiceSet → List String
  | .commands => c.names
  | .colors => Color.names

end Catalogue

end DevConsole
