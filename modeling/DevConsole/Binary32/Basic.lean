import DevConsole.Binary32.Rounding

/-! # Floating-point numbers of 32 bits

A number is not-a-number, an infinity, or a sign and a representable magnitude in
units of `2 ^ -149`.  Every operation is computed exactly on units and rounded once,
so the values are those of the binary interchange format of 32 bits.

Order is read off `position?`, which places every number except not-a-number on a line
of integers; both zeros stand at the origin and the infinities beyond every magnitude.
-/
namespace DevConsole

/-- A floating-point number of 32 bits; a magnitude is counted in units of `2 ^ -149`. -/
inductive Binary32 where
  | nan
  | infinite (negative : Bool)
  | finite (negative : Bool) (units : Nat) (representable : Format.binary32.Representable units)
deriving DecidableEq

namespace Binary32

/-! ## Making numbers -/

/-- The number nearest to `a / b` units with the given sign. -/
@[irreducible] def ofRatio (negative : Bool) (a b : Nat) : Binary32 :=
  match Format.binary32.round? a b with
  | some ⟨u, h⟩ => finite negative u h
  | none => infinite negative

/-- The number nearest to a whole number of units; `negativeZero` is the sign of zero. -/
def ofUnits (negativeZero : Bool) (z : Int) : Binary32 :=
  ofRatio (if z = 0 then negativeZero else decide (z < 0)) z.natAbs 1

/-- Positive zero. -/
def zero : Binary32 := finite false 0 ⟨Nat.two_pow_pos _, Nat.dvd_zero _⟩

/-- The units in one. -/
def unitsPerOne : Nat := 2 ^ Format.binary32.scale

/-- The number nearest to a natural number. -/
def ofNat (n : Nat) : Binary32 := ofRatio false (n * unitsPerOne) 1

/-- The number nearest to a quotient of natural numbers. -/
def ofFraction (a b : Nat) : Binary32 := ofRatio false (a * unitsPerOne) b

/-! ## Order -/

/-- A magnitude with a sign. -/
def signed (negative : Bool) (u : Nat) : Int := if negative then -(u : Int) else u

/-- The place of a number on the line of integers that orders all numbers. -/
def position? : Binary32 → Option Int
  | nan => none
  | infinite s => some (signed s (2 ^ Format.binary32.width))
  | finite s u _ => some (signed s u)

/-- Whether two numbers are ordered as `r` says; nothing is in any order with
not-a-number. -/
def related (r : Int → Int → Bool) (x y : Binary32) : Bool :=
  match x.position?, y.position? with
  | some a, some b => r a b
  | _, _ => false

/-- Less than. -/
def lt (x y : Binary32) : Bool := related (fun a b => decide (a < b)) x y

/-- Less than or equal. -/
def le (x y : Binary32) : Bool := related (fun a b => decide (a ≤ b)) x y

/-- Equal as numbers: the zeros are equal, and not-a-number equals nothing. -/
def equal (x y : Binary32) : Bool := related (fun a b => decide (a = b)) x y

/-! ## Arithmetic -/

/-- The number with the other sign. -/
def neg : Binary32 → Binary32
  | nan => nan
  | infinite s => infinite !s
  | finite s u h => finite (!s) u h

/-- The sum, rounded once. -/
def add : Binary32 → Binary32 → Binary32
  | finite s u _, finite t v _ => ofUnits (s && t) (signed s u + signed t v)
  | infinite s, infinite t => if s = t then infinite s else nan
  | infinite s, finite .. => infinite s
  | finite .., infinite t => infinite t
  | nan, _ => nan
  | _, nan => nan

/-- The difference, rounded once. -/
def sub (x y : Binary32) : Binary32 := add x (neg y)

/-- The product, rounded once; zero times an infinity is not-a-number. -/
def mul : Binary32 → Binary32 → Binary32
  | finite s u _, finite t v _ => ofRatio (s != t) (u * v) unitsPerOne
  | infinite s, infinite t => infinite (s != t)
  | infinite s, finite t v _ => if v = 0 then nan else infinite (s != t)
  | finite s u _, infinite t => if u = 0 then nan else infinite (s != t)
  | nan, _ => nan
  | _, nan => nan

/-- What is left of `x` after taking away `y` as often as it fits; the sign is that of
`x`. -/
def rem : Binary32 → Binary32 → Binary32
  | finite s u _, finite _ v _ => if v = 0 then nan else ofRatio s (u % v) 1
  | finite s u h, infinite _ => finite s u h
  | infinite _, _ => nan
  | nan, _ => nan
  | _, nan => nan

/-- Half of the number, rounded once. -/
def half : Binary32 → Binary32
  | finite s u _ => ofRatio s u 2
  | x => x

/-! ## Limits -/

/-- The number, or the nearer limit when it is outside `lo` to `hi`. -/
def clamp (x lo hi : Binary32) : Binary32 :=
  if x.lt lo then lo else if hi.lt x then hi else x

/-- The number when it is not below zero, and zero otherwise, also for not-a-number. -/
def atLeastZero (x : Binary32) : Binary32 := if zero.le x then x else zero

/-- The whole part of the number, kept within `0` to `bound`; `0` for not-a-number. -/
def wholeUpTo (bound : Nat) : Binary32 → Nat
  | nan => 0
  | infinite s => if s then 0 else bound
  | finite s u _ => if s then 0 else min (u / unitsPerOne) bound

instance : Add Binary32 := ⟨add⟩
instance : Sub Binary32 := ⟨sub⟩
instance : Mul Binary32 := ⟨mul⟩
instance : Neg Binary32 := ⟨neg⟩

end Binary32

end DevConsole
