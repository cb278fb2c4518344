/-! # Rounding to a binary format

A binary floating-point format is described by three numbers.  Its finite magnitudes
are whole multiples of a smallest one, the *unit* `2 ^ -scale`; a multiple is
representable when it is below `2 ^ width` and has at most `precision` significant
bits.  Magnitudes are therefore natural numbers, counted in units, and nothing is lost
by working with them.

`roundSignificant` takes a quotient of units to the nearest multiple with few enough
significant bits, a tie to the even one.  `Format.round?` adds the upper limit.  The
main facts are that the result always has few enough significant bits
(`significant_roundSignificant`) and that a number which has is rounded to itself
(`roundSignificant_self`).
-/
namespace DevConsole

-- Powers are those of the core library, also where Mathlib brings its own.
attribute [scoped
instance 2000] instPowNat

/-- The whole number nearest to `a / b`; a tie goes to the even one. -/
def roundDiv (a b : Nat) : Nat :=
  let q := a / b
  let r := 2 * (a % b)
  if r < b || (r == b && q % 2 == 0) then q else q + 1

/-- At most `p` significant bits: what is below the leading `p` bits is zero. -/
def Significant (p n : Nat) : Prop := 2 ^ (n.log2 + 1 - p) ∣ n

instance (p n : Nat) : Decidable (Significant p n) := inferInstanceAs (Decidable (_ ∣ _))

/-- The number with at most `p` significant bits nearest to `a / b`; a tie goes to the
one with an even last bit. -/
def roundSignificant (p a b : Nat) : Nat :=
  let step := 2 ^ ((a / b).log2 + 1 - p)
  roundDiv a (b * step) * step

theorem roundDiv_le (a b : Nat) : roundDiv a b ≤ a / b + 1 := by
  unfold roundDiv; dsimp only; split <;> omega

theorem le_roundDiv (a b : Nat) : a / b ≤ roundDiv a b := by
  unfold roundDiv; dsimp only; split <;> omega

@[simp] theorem roundDiv_zero (b : Nat) : roundDiv 0 b = 0 := by
  rcases Nat.eq_zero_or_pos b with rfl | hb <;> simp [roundDiv, *]

/-- A whole quotient is rounded to itself. -/
@[simp] theorem roundDiv_mul_right {b : Nat} (hb : 0 < b) (q : Nat) : roundDiv (q * b) b = q := by
  simp [roundDiv, Nat.mul_div_cancel q hb, hb]

/-- A number below `2 ^ (p + s)` that is a multiple of `2 ^ s` has few enough bits. -/
theorem significant_of_dvd {p s n : Nat} (hlt : n < 2 ^ (p + s)) (hs : 2 ^ s ∣ n) :
    Significant p n := by
  rcases Nat.eq_zero_or_pos n with rfl | hn
  · exact Nat.dvd_zero _
  · have hlog : n.log2 < p + s := (Nat.log2_lt (Nat.ne_of_gt hn)).2 hlt
    exact Nat.dvd_trans (Nat.pow_dvd_pow 2 (by omega)) hs

theorem significant_two_pow {p : Nat} (hp : 0 < p) (k : Nat) : Significant p (2 ^ k) := by
  unfold Significant
  rw [Nat.log2_two_pow]
  exact Nat.pow_dvd_pow 2 (by omega)

theorem significant_roundSignificant {p : Nat} (hp : 0 < p) (a b : Nat) :
    Significant p (roundSignificant p a b) := by
  generalize hs : (a / b).log2 + 1 - p = s
  have hr : roundSignificant p a b = roundDiv a (b * 2 ^ s) * 2 ^ s := by
    simp [roundSignificant, hs]
  have hq : a / (b * 2 ^ s) < 2 ^ p := by
    rw [← Nat.div_div_eq_div_mul, Nat.div_lt_iff_lt_mul (Nat.two_pow_pos s), ← Nat.pow_add]
    exact Nat.lt_of_lt_of_le Nat.lt_log2_self (Nat.pow_le_pow_right (by decide) (by omega))
  rw [hr]
  rcases Nat.lt_or_ge (roundDiv a (b * 2 ^ s)) (2 ^ p) with h | h
  · refine significant_of_dvd (s := s) ?_ (Nat.dvd_mul_left _ _)
    rw [Nat.pow_add]
    exact Nat.mul_lt_mul_of_pos_right h (Nat.two_pow_pos s)
  · have : roundDiv a (b * 2 ^ s) = 2 ^ p :=
      Nat.le_antisymm (Nat.le_trans (roundDiv_le _ _) hq) h
    rw [this, ← Nat.pow_add]
    exact significant_two_pow hp _

/-- A number with few enough bits is rounded to itself. -/
theorem roundSignificant_self {p n : Nat} (h : Significant p n) : roundSignificant p n 1 = n := by
  obtain ⟨q, hq⟩ := h
  simp only [roundSignificant, Nat.div_one, Nat.one_mul]
  generalize 2 ^ (n.log2 + 1 - p) = step at hq
  rcases Nat.eq_zero_or_pos step with rfl | hpos
  · simp [hq]
  · have : n = q * step := by rw [hq, Nat.mul_comm]
    rw [this, roundDiv_mul_right hpos]

/-- A binary format: `precision` significant bits, units of `2 ^ -scale`, magnitudes
below `2 ^ width` units. -/
structure Format where
  /-- The greatest number of significant bits. -/
  precision : Nat
  /-- A unit is `2 ^ -scale`. -/
  scale : Nat
  /-- Magnitudes are below `2 ^ width` units. -/
  width : Nat
  precision_pos : 0 < precision := by decide

/-- The magnitudes of a format, in units. -/
def Format.Representable (f : Format) (u : Nat) : Prop :=
  u < 2 ^ f.width ∧ Significant f.precision u

instance (f : Format) (u : Nat) : Decidable (f.Representable u) :=
  inferInstanceAs (Decidable (_ ∧ _))

/-- The magnitude nearest to `a / b` units, or nothing when that is beyond the limit. -/
def Format.round? (f : Format) (a b : Nat) : Option { u : Nat // f.Representable u } :=
  let u := roundSignificant f.precision a b
  if h : u < 2 ^ f.width then
    some ⟨u, h, significant_roundSignificant f.precision_pos a b⟩
  else
    none

/-- The format of 32 bits. -/
def Format.binary32 : Format := ⟨24, 149, 277, by decide⟩

/-- The format of 64 bits. -/
def Format.binary64 : Format := ⟨53, 1074, 2098, by decide⟩

end DevConsole
