import DevConsole.Command.Signature

/-! # Coercion

How one token becomes the value of one parameter.  A token that does not fit is no error
that the user sees: it only says that this overload does not apply.

Whole numbers and floating-point numbers are read from their numerals and the truth
values from their names in any ASCII case.  Every token is a text; a hard constraint
admits those whose upper-case form is that of one of its choices.
-/
namespace DevConsole

/-- Why a token does not fit a parameter. -/
inductive Mismatch where
  | malformed (expected : Kind)
  | notAllowed
deriving DecidableEq

/-- The wording of a mismatch. -/
def Mismatch.message : Mismatch → String
  | malformed expected => "not a valid " ++ expected.name
  | notAllowed => "not one of the allowed values"

namespace Coercion

/-- Whether a token is one of the choices, in any case. -/
def isChoice (choices : List String) (token : String) : Bool :=
  choices.any fun choice => Text.upper choice == Text.upper token

/-- The truth value of a name. -/
def bool? (token : String) : Option Bool :=
  if Text.sameIgnoringAsciiCase token "true" then some true
  else if Text.sameIgnoringAsciiCase token "false" then some false
  else none

end Coercion

/-- Whether a constraint admits a text. -/
def Constraint.admits (catalogue : Catalogue) (token : String) : Constraint → Bool
  | free => true
  | fixed choices hard => !hard || Coercion.isChoice choices token
  | dynamic set hard => !hard || Coercion.isChoice (catalogue.choices set) token

/-- The value of a token for a parameter. -/
def Parameter.coerce (catalogue : Catalogue) (p : Parameter) (token : String) :
    Except Mismatch Value :=
  match p.kind with
  | .int => ((Numeral.int32? token).map Value.int).elim (.error (.malformed .int)) .ok
  | .float => ((Binary32.read? token).map Value.float).elim (.error (.malformed .float)) .ok
  | .bool => ((Coercion.bool? token).map Value.bool).elim (.error (.malformed .bool)) .ok
  | .string =>
    if p.constraint.admits catalogue token then .ok (.string token) else .error .notAllowed

/-- A token that does not fit a parameter. -/
structure Rejection where
  /-- The parameter that the token was for. -/
  parameter : Parameter
  /-- The token as it was read. -/
  token : String
  /-- Why it does not fit. -/
  mismatch : Mismatch
deriving DecidableEq

/-- What came of fitting tokens to a signature. -/
inductive Binding where
  | arity
  | rejected (why : Rejection)
  | bound (arguments : List Value)
deriving DecidableEq

namespace Binding

/-- The binding with a value in front of its arguments. -/
def cons (v : Value) : Binding → Binding
  | bound vs => bound (v :: vs)
  | b => b

/-- Fits tokens to as many parameters, in order and up to the first misfit. -/
def ofTokens (catalogue : Catalogue) : List Parameter → List String → Binding
  | [], [] => bound []
  | p :: ps, t :: ts =>
    match p.coerce catalogue t with
    | .error mismatch => rejected ⟨p, t, mismatch⟩
    | .ok v => (ofTokens catalogue ps ts).cons v
  | _, _ => arity

end Binding

/-- Fits the tokens after the first one to a signature: their number first, then each. -/
def Signature.bind (catalogue : Catalogue) (s : Signature) (tokens : List String) : Binding :=
  if tokens.tail.length = s.parameters.length then
    Binding.ofTokens catalogue s.parameters tokens.tail
  else
    .arity

/-- A value that a token is coerced to has the kind of the parameter. -/
theorem Parameter.kind_of_coerce {c : Catalogue} {p : Parameter} {token : String} {v : Value}
    (h : p.coerce c token = .ok v) : v.kind = p.kind := by
  unfold Parameter.coerce at h
  split at h
  · rename_i hk
    cases hr : Numeral.int32? token <;> simp [hr] at h
    rw [← h, hk]; rfl
  · rename_i hk
    cases hr : Binary32.read? token <;> simp [hr] at h
    rw [← h, hk]; rfl
  · rename_i hk
    cases hr : Coercion.bool? token <;> simp [hr] at h
    rw [← h, hk]; rfl
  · rename_i hk
    split at h
    · simp only [Except.ok.injEq] at h
      rw [← h, hk]; rfl
    · simp at h

end DevConsole
