import DevConsole.Binary32.Basic
import DevConsole.Numeral

/-! # Decimal numerals and binary formats

A decimal numeral is a sign, a whole coefficient and a power of ten.  Reading one into
a binary format rounds its exact value once (`Decimal.round?`).  Writing a number finds
the fewest digits that read back as it (`shortest`): of one digit, two digits and so on,
the first decimal grid on which one of the two neighbours of the value reads back.  Of
two neighbours that both do, the nearer is written, and of two equally near the larger.

The written form is positional: no exponent, no point after a whole number.
-/
namespace DevConsole

/-- The number `±coefficient · 10 ^ exponent`. -/
structure Decimal where
  /-- Whether there is a minus sign. -/
  negative : Bool
  /-- The digits as a whole number. -/
  coefficient : Nat
  /-- The power of ten that it is multiplied by. -/
  exponent : Int

namespace Decimal

/-- The number of digits of the coefficient. -/
def length (d : Decimal) : Nat := (Nat.toDigits 10 d.coefficient).length

/-- The magnitude as a quotient of whole numbers of units. -/
def quotient (d : Decimal) (scale : Nat) : Nat × Nat :=
  if d.exponent < 0 then (d.coefficient * 2 ^ scale, 10 ^ (-d.exponent).toNat)
  else (d.coefficient * 10 ^ d.exponent.toNat * 2 ^ scale, 1)

/-- The magnitude of a format nearest to the numeral, or nothing when that is beyond the
limit.  A numeral far below the smallest magnitude or far above the largest is settled
by its length and exponent alone. -/
def round? (f : Format) (d : Decimal) : Option { u : Nat // f.Representable u } :=
  let top : Int := d.length + d.exponent
  if d.coefficient = 0 ∨ top < -(f.scale : Int) then f.round? 0 1
  else if (f.scale : Int) + 1 < top then none
  else f.round? (d.quotient f.scale).1 (d.quotient f.scale).2

end Decimal

/-- What the text of a floating-point number says. -/
inductive Spelled where
  | nan
  | infinite (negative : Bool)
  | decimal (d : Decimal)

namespace Spelled

/-- Digits with an optional point among them, and an optional exponent. -/
def unsigned? (negative : Bool) (cs : List Char) : Option Spelled :=
  let whole := cs.takeWhile Char.isDigit
  let rest := cs.dropWhile Char.isDigit
  let (part, tail) :=
    match rest with
    | '.' :: r => (r.takeWhile Char.isDigit, r.dropWhile Char.isDigit)
    | _ => ([], rest)
  let power? : Option Int :=
    match tail with
    | [] => some 0
    | c :: r => if c = 'e' ∨ c = 'E' then Numeral.signedDecimal? r else none
  match power? with
  | none => none
  | some power =>
    if whole.isEmpty && part.isEmpty then none
    else some (.decimal ⟨negative, Nat.ofDigitChars 10 (whole ++ part) 0, power - part.length⟩)

/-- A word for a special number in any case, or a numeral. -/
def magnitude? (negative : Bool) (cs : List Char) : Option Spelled :=
  let word := String.ofList (cs.map Char.toLower)
  if word = "inf" ∨ word = "infinity" then some (.infinite negative)
  else if word = "nan" then some .nan
  else unsigned? negative cs

/-- The number that a text spells: an optional sign, then a numeral or a word. -/
def read? (s : String) : Option Spelled :=
  match s.toList with
  | '-' :: cs => magnitude? true cs
  | '+' :: cs => magnitude? false cs
  | cs => magnitude? false cs

end Spelled

namespace Binary32

/-! ## Reading -/

/-- The number nearest to a decimal numeral. -/
def ofDecimal (d : Decimal) : Binary32 :=
  match d.round? .binary32 with
  | some ⟨u, h⟩ => finite d.negative u h
  | none => infinite d.negative

/-- The number nearest to the number of 64 bits that is nearest to a decimal numeral:
the value is rounded twice. -/
def ofDecimalTwice (d : Decimal) : Binary32 :=
  match d.round? .binary64 with
  | some ⟨u, _⟩ =>
    ofRatio d.negative u (2 ^ (Format.binary64.scale - Format.binary32.scale))
  | none => infinite d.negative

/-- The number that a text spells. -/
def read? (s : String) : Option Binary32 :=
  (Spelled.read? s).map fun
    | .nan => nan
    | .infinite s => infinite s
    | .decimal d => ofDecimal d

/-! ## Writing -/

/-- The number of digits before the point of a magnitude; zero or less when the first
digit that counts stands after the point. -/
def leading (u : Nat) : Int :=
  (Nat.toDigits 10 (u * 10 ^ (45 : Nat) / unitsPerOne)).length - 45

/-- Whether a decimal numeral reads back as the magnitude `u`. -/
def readsBack (u : Nat) (d : Decimal) : Bool :=
  match d.round? .binary32 with
  | some v => v.1 == u
  | none => false

/-- The numeral with at most `n` digits that reads back as `u` and is nearest to it, if
one of the two neighbours of `u` on that grid reads back. -/
def ofLength? (u n : Nat) : Option Decimal :=
  let e := leading u - n
  let num := if e < 0 then u * 10 ^ (-e).toNat else u
  let den := if e < 0 then unitsPerOne else unitsPerOne * 10 ^ e.toNat
  let low : Decimal := ⟨false, num / den, e⟩
  let high : Decimal := ⟨false, num / den + 1, e⟩
  let lowHits := readsBack u low
  let highHits := readsBack u high
  if lowHits && (!highHits || 2 * (num % den) < den) then some low
  else if highHits then some high
  else none

/-- The shortest numeral that reads back as the magnitude `u`.  Nine digits always
suffice; the exact value stands in where none of them does. -/
def shortest (u : Nat) : Decimal :=
  ((List.range 9).findSome? fun i => ofLength? u (i + 1)).getD
    ⟨false, u * 5 ^ Format.binary32.scale, -(Format.binary32.scale : Int)⟩

/-- A magnitude in positional digits. -/
def positional (d : Decimal) : List Char :=
  let digits := Nat.toDigits 10 d.coefficient
  if 0 ≤ d.exponent then digits ++ List.replicate d.exponent.toNat '0'
  else
    let places := (-d.exponent).toNat
    let padded := List.replicate (places + 1 - digits.length) '0' ++ digits
    let whole := padded.take (padded.length - places)
    let part := ((padded.drop (padded.length - places)).reverse.dropWhile (· == '0')).reverse
    if part.isEmpty then whole else whole ++ '.' :: part

/-- The text of a number. -/
def text : Binary32 → String
  | nan => "NaN"
  | infinite s => if s then "-inf" else "inf"
  | finite s u _ =>
    let digits := if u = 0 then ['0'] else positional (shortest u)
    String.ofList (if s then '-' :: digits else digits)

end Binary32

end DevConsole
