import DevConsole.Command.Coercion
import Mathlib.Algebra.Ring.Int.Defs

/-! # The numerals of 32 bits

What a signed decimal numeral stands for is said here by the places of its digits
(`Numeral.Spells`), and the tokens that a whole-number parameter takes are the numerals of the
numbers from `-2 ^ 31` to `2 ^ 31 - 1` (`Parameter.coerce_int_exact`).

The same is read when only a number of 32 bits is kept (`Numeral.stepwise?`).  The digits are then
added one by one on the side of zero that the sign names, since there is one number more below
zero than above, and the reading ends where a number does not fit.  Nothing is lost by that: the
digits still to come only lead further away from zero (`Numeral.le_ofDigitChars`).
-/
namespace DevConsole

namespace Numeral

/-! ## What a numeral stands for -/

/-- The number that digits stand for: each counts by the number of those after it. -/
def placeValue : List Char → Nat
  | [] => 0
  | c :: cs => (c.toNat - '0'.toNat) * 10 ^ cs.length + placeValue cs

/-- One or more ASCII digits. -/
structure IsDigits (cs : List Char) : Prop where
  nonempty : cs ≠ []
  digits : ∀ c ∈ cs, '0' ≤ c ∧ c ≤ '9'

/-- The numerals of a whole number: digits, with one sign in front of them or none. -/
inductive Spells : List Char → Int → Prop
  | bare {digits : List Char} (h : IsDigits digits) : Spells digits (placeValue digits)
  | plus {digits : List Char} (h : IsDigits digits) : Spells ('+' :: digits) (placeValue digits)
  | minus {digits : List Char} (h : IsDigits digits) : Spells ('-' :: digits) (-placeValue digits)

theorem ofDigitChars_eq_placeValue (cs : List Char) : Nat.ofDigitChars 10 cs 0 = placeValue cs := by
  induction cs with
  | nil => rfl
  | cons c cs ih =>
    rw [Nat.ofDigitChars_cons, Nat.ofDigitChars_eq_ofDigitChars_zero, ih, placeValue, Nat.mul_zero,
      Nat.zero_add, Nat.mul_comm]

theorem all_isDigit_iff {cs : List Char} :
    cs.all Char.isDigit = true ↔ ∀ c ∈ cs, '0' ≤ c ∧ c ≤ '9' := by
  rw [List.all_eq_true]
  refine forall_congr' fun c => forall_congr' fun _ => ?_
  rw [Char.isDigit_iff_toNat]
  exact Iff.rfl

theorem decimal?_eq_some_iff {cs : List Char} {n : Nat} :
    decimal? cs = some n ↔ IsDigits cs ∧ placeValue cs = n := by
  unfold decimal?
  rw [ofDigitChars_eq_placeValue]
  constructor
  · intro h
    split at h
    · cases h
    · rename_i hne
      split at h
      · rename_i hall
        exact ⟨⟨by simpa using hne, all_isDigit_iff.1 hall⟩, Option.some.inj h⟩
      · cases h
  · rintro ⟨hdigits, rfl⟩
    rw [if_neg (by simpa using hdigits.nonempty), if_pos (all_isDigit_iff.2 hdigits.digits)]

/-- **Reading a numeral gives the number that it stands for.** -/
theorem signedDecimal?_eq_some {cs : List Char} {z : Int} :
    signedDecimal? cs = some z ↔ Spells cs z := by
  constructor
  · intro h
    unfold signedDecimal? at h
    -- The sign makes no difference to how the digits are read.
    split at h <;> obtain ⟨z, hz, rfl⟩ := Option.map_eq_some_iff.1 h <;>
      obtain ⟨n, hn, ⟨⟩⟩ := Option.bind_eq_some_iff.1 hz <;>
      obtain ⟨hdigits, rfl⟩ := decimal?_eq_some_iff.1 hn
    · exact .minus hdigits
    · exact .plus hdigits
    · exact .bare hdigits
  · intro h
    cases h with
    | bare hdigits =>
      rw [signedDecimal?_of_digits, decimal?_eq_some_iff.2 ⟨hdigits, rfl⟩]
      · rfl
      · exact List.all_eq_true.1 (all_isDigit_iff.2 hdigits.digits)
    | plus hdigits => rw [signedDecimal?, decimal?_eq_some_iff.2 ⟨hdigits, rfl⟩]; rfl
    | minus hdigits => rw [signedDecimal?, decimal?_eq_some_iff.2 ⟨hdigits, rfl⟩]; rfl

/-- A numeral is one of one number. -/
theorem Spells.unique {cs : List Char} {z z' : Int} (h : Spells cs z) (h' : Spells cs z') :
    z = z' :=
  Option.some.inj ((signedDecimal?_eq_some.2 h).symm.trans (signedDecimal?_eq_some.2 h'))

/-! ## Numbers that fit into 32 bits -/

/-- A whole number in 32 bits, if it fits there. -/
def fit? (z : Int) : Option Int32 :=
  if -2 ^ 31 ≤ z ∧ z ≤ 2 ^ 31 - 1 then some (Int32.ofInt z) else none

theorem fit?_eq_some {z : Int} {n : Int32} : fit? z = some n ↔ n.toInt = z := by
  unfold fit?
  constructor
  · intro h
    split at h
    · rename_i hz
      cases h
      exact Int32.toInt_ofInt_of_le hz.1 (Int.lt_of_le_sub_one hz.2)
    · cases h
  · rintro rfl
    have hlow := n.minValue_le_toInt
    have hhigh := n.toInt_le
    rw [Int32.toInt_minValue] at hlow
    rw [Int32.toInt_maxValue] at hhigh
    rw [if_pos ⟨hlow, hhigh⟩, Int32.ofInt_toInt]

theorem fit?_eq_none {z : Int} : fit? z = none ↔ z < -2 ^ 31 ∨ 2 ^ 31 - 1 < z := by
  unfold fit?
  split
  · rename_i hz
    exact ⟨fun h => (by cases h), fun h => by omega⟩
  · rename_i hz
    exact ⟨fun _ => by omega, fun _ => rfl⟩

theorem int32?_eq (s : String) : int32? s = (signedDecimal? s.toList).bind fit? := rfl

theorem int32?_eq_some {s : String} {n : Int32} : int32? s = some n ↔ Spells s.toList n.toInt := by
  rw [int32?_eq, Option.bind_eq_some_iff]
  constructor
  · rintro ⟨z, hz, hn⟩
    rw [fit?_eq_some.1 hn]
    exact signedDecimal?_eq_some.1 hz
  · intro h
    exact ⟨n.toInt, signedDecimal?_eq_some.2 h, fit?_eq_some.2 rfl⟩

theorem int32?_eq_none {s : String} :
    int32? s = none ↔ ∀ z, Spells s.toList z → z < -2 ^ 31 ∨ 2 ^ 31 - 1 < z := by
  rw [int32?_eq, Option.bind_eq_none_iff]
  refine forall_congr' fun z => ?_
  rw [signedDecimal?_eq_some, fit?_eq_none]

/-! ## Digits one by one -/

/-- The number that is so far from zero on one side of it. -/
def onSide : Bool → Nat → Int
  | true, k => -k
  | false, k => k

/-- Reads digits and keeps a number of 32 bits.  It becomes ten times itself and then goes on by
the digit, away from zero; both numbers have to fit. -/
def accumulate? (negative : Bool) : Int32 → List Char → Option Int32
  | n, [] => some n
  | n, c :: cs =>
    if c.isDigit then
      (fit? (10 * n.toInt)).bind fun shifted =>
        (fit? (shifted.toInt + onSide negative (c.toNat - '0'.toNat))).bind fun next =>
          accumulate? negative next cs
    else none

/-- Reads one or more digits from zero on. -/
def digitwise? (negative : Bool) (cs : List Char) : Option Int32 :=
  if cs.isEmpty then none else accumulate? negative 0 cs

/-- Reads a signed numeral digit by digit. -/
def stepwise? : List Char → Option Int32
  | '-' :: cs => digitwise? true cs
  | '+' :: cs => digitwise? false cs
  | cs => digitwise? false cs

variable {negative : Bool} {k m : Nat}

theorem onSide_add : onSide negative (k + m) = onSide negative k + onSide negative m := by
  cases negative <;> simp only [onSide] <;> omega

theorem onSide_ten_mul : onSide negative (10 * k) = 10 * onSide negative k := by
  cases negative <;> simp only [onSide] <;> omega

/-- What does not fit is too far from zero, and so is everything beyond it. -/
theorem fit?_onSide_of_le (h : fit? (onSide negative k) = none) (hle : k ≤ m) :
    fit? (onSide negative m) = none := by
  rw [fit?_eq_none] at h ⊢
  cases negative <;> simp only [onSide] at h ⊢ <;> omega

/-- More digits make a number no smaller. -/
theorem le_ofDigitChars (cs : List Char) (k : Nat) : k ≤ Nat.ofDigitChars 10 cs k := by
  induction cs generalizing k with
  | nil => exact Nat.le_refl k
  | cons c cs ih =>
    rw [Nat.ofDigitChars_cons]
    have hnext := ih (10 * k + (c.toNat - '0'.toNat))
    omega

/-- **Digits read one by one make their number, or it does not fit.** -/
theorem accumulate?_eq {n : Int32} (hn : n.toInt = onSide negative k) (cs : List Char) :
    accumulate? negative n cs =
      if cs.all Char.isDigit then fit? (onSide negative (Nat.ofDigitChars 10 cs k)) else none := by
  induction cs generalizing n k with
  | nil => exact (fit?_eq_some.2 hn).symm
  | cons c cs ih =>
    rw [accumulate?, List.all_cons, Nat.ofDigitChars_cons]
    by_cases hc : c.isDigit
    · rw [if_pos hc, hc, Bool.true_and, hn, ← onSide_ten_mul]
      have hgrows := le_ofDigitChars cs (10 * k + (c.toNat - '0'.toNat))
      cases hshifted : fit? (onSide negative (10 * k)) with
      | none =>
        rw [Option.bind_none, fit?_onSide_of_le hshifted (by omega), ite_self]
      | some shifted =>
        rw [Option.bind_some, fit?_eq_some.1 hshifted, ← onSide_add]
        cases hnext : fit? (onSide negative (10 * k + (c.toNat - '0'.toNat))) with
        | none => rw [Option.bind_none, fit?_onSide_of_le hnext hgrows, ite_self]
        | some next => rw [Option.bind_some, ih (fit?_eq_some.1 hnext)]
    · rw [if_neg hc, Bool.eq_false_iff.2 hc, Bool.false_and]
      rfl

theorem digitwise?_eq (negative : Bool) (cs : List Char) :
    digitwise? negative cs = (decimal? cs).bind fun k => fit? (onSide negative k) := by
  have hzero : (0 : Int32).toInt = onSide negative 0 := by
    cases negative <;> rfl
  rw [digitwise?, accumulate?_eq hzero]
  unfold decimal?
  split
  · rfl
  · split <;> rfl

/-- **Reading digit by digit in 32 bits takes the same numerals** and gives the same numbers. -/
theorem stepwise?_eq (s : String) : stepwise? s.toList = int32? s := by
  rw [int32?_eq]
  generalize s.toList = cs
  unfold stepwise?
  split
  · rename_i digits
    rw [digitwise?_eq, signedDecimal?]
    cases decimal? digits <;> rfl
  · rename_i digits
    rw [digitwise?_eq, signedDecimal?]
    cases decimal? digits <;> rfl
  · rename_i hminus hplus
    rw [digitwise?_eq, signedDecimal?_of_unsigned hminus hplus]
    cases decimal? cs <;> rfl

end Numeral

/-! ## Whole-number parameters -/

namespace Parameter

variable {catalogue : Catalogue} {p : Parameter} {token : String}

theorem coerce_of_int (hkind : p.kind = .int) (token : String) : p.coerce catalogue token =
    ((Numeral.int32? token).map Value.int).elim (.error (.malformed .int)) .ok := by
  rw [coerce, hkind]

/-- A token is coerced to the number that it is a numeral of. -/
theorem coerce_int_eq_ok (hkind : p.kind = .int) {v : Value} :
    p.coerce catalogue token = .ok v ↔
      ∃ n : Int32, v = .int n ∧ Numeral.Spells token.toList n.toInt := by
  rw [coerce_of_int hkind]
  constructor
  · intro h
    cases hread : Numeral.int32? token with
    | none =>
      rw [hread] at h
      cases h
    | some n =>
      rw [hread] at h
      exact ⟨n, (Except.ok.inj h).symm, Numeral.int32?_eq_some.1 hread⟩
  · rintro ⟨n, rfl, hspells⟩
    rw [Numeral.int32?_eq_some.2 hspells]
    rfl

/-- A token is malformed when it is a numeral of no number in the range. -/
theorem coerce_int_eq_error (hkind : p.kind = .int) {why : Mismatch} :
    p.coerce catalogue token = .error why ↔ why = .malformed .int ∧
      ∀ z, Numeral.Spells token.toList z → z < -2 ^ 31 ∨ 2 ^ 31 - 1 < z := by
  rw [coerce_of_int hkind, ← Numeral.int32?_eq_none]
  cases Numeral.int32? token with
  | none => exact ⟨fun h => ⟨(Except.error.inj h).symm, rfl⟩, fun h => h.1 ▸ rfl⟩
  | some n => exact ⟨fun h => (by cases h), fun h => (by cases h.2)⟩

/-- **A whole-number parameter takes exactly the numerals of 32 bits.**  A token is coerced to a
number when it is a numeral of that number, and it is malformed when it is no numeral, or only one
of a number outside the range.  A token is a numeral of one number at most, so nothing wraps around
and nothing is cut off at the limits; reading it digit by digit while only 32 bits are kept comes to
the same.  The text of every number is coerced to it. -/
theorem coerce_int_exact (catalogue : Catalogue) {p : Parameter} (hkind : p.kind = .int) :
    (∀ token : String,
      (∀ v, p.coerce catalogue token = .ok v ↔
        ∃ n : Int32, v = .int n ∧ Numeral.Spells token.toList n.toInt) ∧
      (∀ why, p.coerce catalogue token = .error why ↔ why = .malformed .int ∧
        ∀ z, Numeral.Spells token.toList z → z < -2 ^ 31 ∨ 2 ^ 31 - 1 < z) ∧
      (∀ z z', Numeral.Spells token.toList z → Numeral.Spells token.toList z' → z = z') ∧
      p.coerce catalogue token =
        ((Numeral.stepwise? token.toList).map Value.int).elim (.error (.malformed .int)) .ok) ∧
    ∀ n : Int32, p.coerce catalogue (Value.int n).text = .ok (.int n) := by
  refine ⟨fun token => ⟨fun v => coerce_int_eq_ok hkind, fun why => coerce_int_eq_error hkind,
    fun z z' hz hz' => hz.unique hz', ?_⟩, fun n => ?_⟩
  · rw [coerce_of_int hkind, Numeral.stepwise?_eq]
  · have hread : Numeral.int32? (Value.int n).text = some n := Numeral.int32?_ofInt32 n
    rw [coerce_of_int hkind, hread]
    rfl

/-- The least number is taken with leading zeros and the number after the greatest is not, nor is
a sign alone or a numeral with a blank before it. -/
theorem coerce_int_exact_limits :
    let p : Parameter := { name := "count", kind := .int }
    p.kind = .int ∧
    p.coerce [] "-0002147483648" = .ok (.int Int32.minValue) ∧
    (p.coerce [] "2147483648" = .error (.malformed .int) ∧
      p.coerce [] "+" = .error (.malformed .int) ∧ p.coerce [] " 1" = .error (.malformed .int)) ∧
    p.coerce [] (Value.int Int32.minValue).text = .ok (.int Int32.minValue) := by
  intro p
  obtain ⟨hexact, htext⟩ := coerce_int_exact [] (p := p) rfl
  refine ⟨rfl, ?_, ⟨?_, ?_, ?_⟩, htext Int32.minValue⟩
  · have hdigits : Numeral.IsDigits "0002147483648".toList :=
      ⟨by decide, Numeral.all_isDigit_iff.1 (by decide)⟩
    have hvalue : Int32.minValue.toInt = -Numeral.placeValue "0002147483648".toList := by
      decide +kernel
    refine ((hexact _).1 _).2 ⟨Int32.minValue, rfl, ?_⟩
    rw [hvalue]
    exact .minus hdigits
  · have hdigits : Numeral.IsDigits "2147483648".toList :=
      ⟨by decide, Numeral.all_isDigit_iff.1 (by decide)⟩
    refine ((hexact _).2.1 _).2 ⟨rfl, fun z hz => .inr ?_⟩
    rw [hz.unique (.bare hdigits)]
    decide +kernel
  · refine ((hexact _).2.1 _).2 ⟨rfl, fun z hz => ?_⟩
    cases Numeral.signedDecimal?_eq_some.2 hz
  · refine ((hexact _).2.1 _).2 ⟨rfl, fun z hz => ?_⟩
    cases Numeral.signedDecimal?_eq_some.2 hz

end Parameter

end DevConsole
