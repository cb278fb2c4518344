import DevConsole.Binary32.Basic

/-! # Whole numbers among the floating-point numbers

Scrolling counts lines in floating-point numbers.  Up to a bound they stand for whole numbers
exactly, and this module says how far that goes.  A number *stands at* `n` when its place is that
of `n` on the line of all numbers (`StandsAt`); the infinities stand at `2 ^ 128` and `-2 ^ 128`,
beyond every finite number, and not-a-number stands nowhere.

Whole numbers below `2 ^ 24` are there, and sums and differences of them that stay below the bound
are exact (`StandsAt.add`, `StandsAt.sub`).  Beyond the bound a difference is rounded, but to a
whole number again (`StandsAt.isWhole_sub`): rounding to a multiple of a power of two keeps every
smaller power of two that divides (`dvd_roundSignificant`).
-/
namespace DevConsole

/-! ## Rounding -/

/-- A power of two that divides a number divides what it is rounded to. -/
theorem dvd_roundSignificant {k a : Nat} (p : Nat) (h : 2 ^ k ∣ a) :
    2 ^ k ∣ roundSignificant p a 1 := by
  simp only [roundSignificant, Nat.div_one, Nat.one_mul]
  generalize a.log2 + 1 - p = e
  obtain hke | hek := Nat.le_total k e
  · exact Nat.dvd_trans (Nat.pow_dvd_pow 2 hke) (Nat.dvd_mul_left _ _)
  · -- The step divides the number, which is not rounded at all.
    obtain ⟨q, rfl⟩ := Nat.dvd_trans (Nat.pow_dvd_pow 2 hek) h
    rw [Nat.mul_comm (2 ^ e), roundDiv_mul_right (Nat.two_pow_pos e), Nat.mul_comm q]
    exact h

/-- A quotient that does not exceed a whole number is not rounded beyond it. -/
theorem roundDiv_le_of_le {a d m : Nat} (hd : 0 < d) (h : a ≤ m * d) : roundDiv a d ≤ m := by
  obtain hlt | hge := Nat.lt_or_ge (a / d) m
  · exact Nat.le_trans (roundDiv_le a d) hlt
  · have heq : a = m * d := Nat.le_antisymm h ((Nat.le_div_iff_mul_le hd).1 hge)
    exact heq ▸ Nat.le_of_eq (roundDiv_mul_right hd m)

/-- Rounding does not go beyond a number with few enough bits. -/
theorem roundSignificant_le {p n a b : Nat} (hn : Significant p n) (hb : 0 < b)
    (h : a ≤ n * b) : roundSignificant p a b ≤ n := by
  have hquotient : a / b ≤ n := Nat.div_le_of_le_mul (Nat.mul_comm n b ▸ h)
  have hlog : (a / b).log2 ≤ n.log2 := by
    obtain hzero | hpos := Nat.eq_zero_or_pos (a / b)
    · rw [hzero, Nat.log2_zero]
      exact Nat.zero_le _
    · exact (Nat.le_log2 (by omega)).2 (Nat.le_trans (Nat.log2_self_le (by omega)) hquotient)
  simp only [roundSignificant]
  have he : (a / b).log2 + 1 - p ≤ n.log2 + 1 - p := by omega
  generalize (a / b).log2 + 1 - p = e at he
  -- The number is a multiple of the step, so it is one of those that are rounded to.
  obtain ⟨m, rfl⟩ := Nat.dvd_trans (Nat.pow_dvd_pow 2 he) hn
  rw [Nat.mul_comm (2 ^ e) m] at h ⊢
  refine Nat.mul_le_mul_right _ (roundDiv_le_of_le (Nat.mul_pos hb (Nat.two_pow_pos e)) ?_)
  rwa [Nat.mul_comm b, ← Nat.mul_assoc]

/-- Rounding a quotient does not go below a power of two. -/
theorem two_pow_le_roundSignificant_div {p j a b : Nat} (hp : 0 < p) (h : 2 ^ j ≤ a / b) :
    2 ^ j ≤ roundSignificant p a b := by
  have hq : a / b ≠ 0 := Nat.ne_of_gt (Nat.lt_of_lt_of_le (Nat.two_pow_pos j) h)
  have hj : j ≤ (a / b).log2 := (Nat.le_log2 hq).2 h
  simp only [roundSignificant]
  have he : (a / b).log2 + 1 - p ≤ (a / b).log2 := by omega
  generalize (a / b).log2 + 1 - p = e at he
  -- The leading power of two is a multiple of the step, so it stays.
  have hlead : 2 ^ (a / b).log2 / 2 ^ e * 2 ^ e = 2 ^ (a / b).log2 :=
    Nat.div_mul_cancel (Nat.pow_dvd_pow 2 he)
  calc 2 ^ j ≤ 2 ^ (a / b).log2 := Nat.pow_le_pow_right (by decide) hj
    _ = 2 ^ (a / b).log2 / 2 ^ e * 2 ^ e := hlead.symm
    _ ≤ a / b / 2 ^ e * 2 ^ e :=
        Nat.mul_le_mul_right _ (Nat.div_le_div_right (Nat.log2_self_le hq))
    _ = a / (b * 2 ^ e) * 2 ^ e := by rw [Nat.div_div_eq_div_mul]
    _ ≤ roundDiv a (b * 2 ^ e) * 2 ^ e := Nat.mul_le_mul_right _ (le_roundDiv a _)

/-- Rounding does not go below a power of two. -/
theorem two_pow_le_roundSignificant {p j a : Nat} (hp : 0 < p) (h : 2 ^ j ≤ a) :
    2 ^ j ≤ roundSignificant p a 1 :=
  two_pow_le_roundSignificant_div hp (by rwa [Nat.div_one])

namespace Format

variable {f : Format} {m n : Nat}

theorem round?_of_lt (h : roundSignificant f.precision m n < 2 ^ f.width) :
    f.round? m n = some ⟨_, h, significant_roundSignificant f.precision_pos m n⟩ :=
  dif_pos h

theorem round?_of_ge (h : 2 ^ f.width ≤ roundSignificant f.precision m n) :
    f.round? m n = none :=
  dif_neg (Nat.not_lt_of_ge h)

end Format

namespace Binary32

/-! ## Places -/

/-- The place of the number is that of the whole number `n`. -/
def StandsAt (x : Binary32) (n : Int) : Prop := x.position? = some (n * unitsPerOne)

theorem position?_finite (s : Bool) (u : Nat) (h : Format.binary32.Representable u) :
    (finite s u h).position? = some (signed s u) := rfl

theorem position?_infinite (s : Bool) :
    (infinite s).position? = some (signed s (2 ^ Format.binary32.width)) := rfl

/-- The number stands at a whole number; the infinities do, too. -/
def IsWhole (x : Binary32) : Prop := ∃ n, x.StandsAt n

/-- The place of the number is below that of zero. -/
def IsNegative (x : Binary32) : Prop := ∃ w < 0, x.position? = some w

/-- Below `2 ^ 24` all whole numbers are there. -/
def exactBound : Nat := 2 ^ Format.binary32.precision

variable {x y lo hi : Binary32} {a b : Int}

theorem standsAt_zero : zero.StandsAt 0 := rfl

theorem unitsPerOne_pos : 0 < unitsPerOne := Nat.two_pow_pos _

theorem natCast_mul_unitsPerOne_nonneg (n : Nat) : 0 ≤ (n : Int) * unitsPerOne := by
  rw [← Int.natCast_mul]
  exact Int.natCast_nonneg _

/-! ## Signs -/

theorem natAbs_signed (s : Bool) (u : Nat) : (signed s u).natAbs = u := by
  cases s with
  | false => exact Int.natAbs_natCast u
  | true => exact (Int.natAbs_neg _).trans (Int.natAbs_natCast u)

theorem signed_not (s : Bool) (u : Nat) : signed (!s) u = -signed s u := by
  cases s with
  | false => rfl
  | true => exact (Int.neg_neg _).symm

/-- The sign that `ofUnits` puts before a magnitude. -/
theorem signed_natAbs (negativeZero : Bool) (z : Int) :
    signed (if z = 0 then negativeZero else decide (z < 0)) z.natAbs = z := by
  unfold signed
  by_cases hz : z = 0
  · simp [hz]
  · by_cases hneg : z < 0
    · rw [if_neg hz, if_pos (decide_eq_true hneg)]
      omega
    · rw [if_neg hz, if_neg (by simp [hneg])]
      omega

theorem signed_mul (s : Bool) (m n : Nat) : signed s (m * n) = signed s m * n := by
  cases s with
  | false => exact Int.natCast_mul m n
  | true =>
    show -((m * n : Nat) : Int) = -(m : Int) * n
    rw [Int.natCast_mul, Int.neg_mul]

/-! ## Rounded magnitudes -/

/-- A magnitude that is rounded to one of the format is there. -/
theorem ofRatio_of_lt (s : Bool) {m n : Nat}
    (h : roundSignificant Format.binary32.precision m n < 2 ^ Format.binary32.width) :
    ofRatio s m n =
      finite s _ ⟨h, significant_roundSignificant Format.binary32.precision_pos m n⟩ := by
  have hround := Format.round?_of_lt (f := .binary32) h
  unfold ofRatio
  -- The format is opened only behind the match, since it would be computed there.
  generalize Format.binary32.round? m n = o at hround ⊢
  rw [hround]

theorem ofRatio_of_ge (s : Bool) {m n : Nat}
    (h : 2 ^ Format.binary32.width ≤ roundSignificant Format.binary32.precision m n) :
    ofRatio s m n = infinite s := by
  have hround := Format.round?_of_ge (f := .binary32) h
  unfold ofRatio
  generalize Format.binary32.round? m n = o at hround ⊢
  rw [hround]

/-- The magnitude of a rounded number, beyond all magnitudes for an infinity. -/
def rounded (n : Nat) : Nat :=
  min (roundSignificant Format.binary32.precision n 1) (2 ^ Format.binary32.width)

theorem position?_ofRatio (s : Bool) (n : Nat) :
    (ofRatio s n 1).position? = some (signed s (rounded n)) := by
  unfold rounded
  obtain h | h := Nat.lt_or_ge (roundSignificant Format.binary32.precision n 1)
    (2 ^ Format.binary32.width)
  · rw [ofRatio_of_lt s h, Nat.min_eq_left (Nat.le_of_lt h)]
    exact position?_finite s _ _
  · rw [ofRatio_of_ge s h, Nat.min_eq_right h]
    exact position?_infinite s

/-- The place of a rounded number of units. -/
theorem position?_ofUnits (negativeZero : Bool) (z : Int) :
    (ofUnits negativeZero z).position? =
      some (signed (if z = 0 then negativeZero else decide (z < 0)) (rounded z.natAbs)) :=
  position?_ofRatio _ _

/-! ## What rounding keeps -/

theorem rounded_eq {n : Nat} (h : Format.binary32.Representable n) : rounded n = n := by
  rw [rounded, roundSignificant_self h.2]
  exact Nat.min_eq_left (Nat.le_of_lt h.1)

/-- The units in `exactBound`. -/
theorem exactBound_mul : exactBound * unitsPerOne =
    2 ^ (Format.binary32.precision + Format.binary32.scale) :=
  (Nat.pow_add 2 _ _).symm

/-- Small whole numbers are not rounded. -/
theorem representable_mul {n : Nat} (h : n < exactBound) :
    Format.binary32.Representable (n * unitsPerOne) := by
  have hlt : n * unitsPerOne < 2 ^ (Format.binary32.precision + Format.binary32.scale) := by
    rw [← exactBound_mul]
    exact Nat.mul_lt_mul_of_pos_right h unitsPerOne_pos
  refine ⟨?_, significant_of_dvd hlt (Nat.dvd_mul_left _ _)⟩
  exact Nat.lt_trans hlt (Nat.pow_lt_pow_right (by decide) (by decide))

/-- Whole numbers are rounded to whole numbers. -/
theorem dvd_rounded {n : Nat} (h : unitsPerOne ∣ n) : unitsPerOne ∣ rounded n := by
  unfold rounded
  obtain hmin | hmin := Nat.le_total (roundSignificant Format.binary32.precision n 1)
    (2 ^ Format.binary32.width)
  · rw [Nat.min_eq_left hmin]
    exact dvd_roundSignificant _ h
  · rw [Nat.min_eq_right hmin]
    exact Nat.pow_dvd_pow 2 (by decide)

theorem two_pow_le_rounded {j n : Nat} (hj : j ≤ Format.binary32.width) (h : 2 ^ j ≤ n) :
    2 ^ j ≤ rounded n :=
  Nat.le_min.2 ⟨two_pow_le_roundSignificant (by decide) h, Nat.pow_le_pow_right (by decide) hj⟩

/-- A whole number of units in ones stays one when it is rounded. -/
theorem isWhole_ofUnits (negativeZero : Bool) (n : Int) :
    (ofUnits negativeZero (n * unitsPerOne)).IsWhole := by
  have hdvd : unitsPerOne ∣ (n * unitsPerOne).natAbs := by
    rw [Int.natAbs_mul, Int.natAbs_natCast]
    exact Nat.dvd_mul_left _ _
  obtain ⟨m, hm⟩ := dvd_rounded hdvd
  unfold IsWhole StandsAt
  rw [position?_ofUnits, hm, Nat.mul_comm, signed_mul]
  exact ⟨_, rfl⟩

/-- **A small whole number of units in ones is not rounded.** -/
theorem standsAt_ofUnits (negativeZero : Bool) {n : Int} (h : n.natAbs < exactBound) :
    (ofUnits negativeZero (n * unitsPerOne)).StandsAt n := by
  have hunits : (n * unitsPerOne).natAbs = n.natAbs * unitsPerOne := by
    rw [Int.natAbs_mul, Int.natAbs_natCast]
  have hrounded : rounded (n * unitsPerOne).natAbs = (n * unitsPerOne).natAbs := by
    rw [hunits]
    exact rounded_eq (representable_mul h)
  unfold StandsAt
  rw [position?_ofUnits, hrounded, signed_natAbs]

/-- A negative number of units stays negative when it is rounded. -/
theorem isNegative_ofUnits (negativeZero : Bool) {z : Int} (h : z < 0) :
    (ofUnits negativeZero z).IsNegative := by
  refine ⟨_, ?_, position?_ofUnits negativeZero z⟩
  have hpos : 2 ^ 0 ≤ rounded z.natAbs := two_pow_le_rounded (by decide) (by omega)
  rw [if_neg (by omega), decide_eq_true h]
  show -(rounded z.natAbs : Int) < 0
  omega

/-! ## Arithmetic -/

theorem ofNat_eq_ofUnits (n : Nat) : ofNat n = ofUnits false ((n : Int) * unitsPerOne) := by
  have hsign : (if (n : Int) * unitsPerOne = 0 then false
      else decide ((n : Int) * unitsPerOne < 0)) = false := by
    split
    · rfl
    · exact decide_eq_false (Int.not_lt.2 (natCast_mul_unitsPerOne_nonneg n))
  rw [ofUnits, hsign, ← Int.natCast_mul, Int.natAbs_natCast, ofNat]

/-- **Small natural numbers are there.** -/
theorem standsAt_ofNat {n : Nat} (h : n < exactBound) : (ofNat n).StandsAt n := by
  rw [ofNat_eq_ofUnits]
  exact standsAt_ofUnits false h

/-- A number that stands closer than the infinities is finite. -/
theorem exists_finite_of_position? {z : Int} (hx : x.position? = some z)
    (hz : z.natAbs < 2 ^ Format.binary32.width) :
    ∃ s u h, x = finite s u h ∧ signed s u = z := by
  cases x with
  | nan => cases hx
  | finite s u h => exact ⟨s, u, h, rfl, Option.some.inj hx⟩
  | infinite s =>
    have hplace : signed s (2 ^ Format.binary32.width) = z := Option.some.inj hx
    have hnatAbs := congrArg Int.natAbs hplace
    rw [natAbs_signed] at hnatAbs
    exact absurd hnatAbs (Nat.ne_of_gt hz)

/-- A number at a small whole number is finite. -/
theorem StandsAt.exists_finite (hx : x.StandsAt a) (ha : a.natAbs < exactBound) :
    ∃ s u h, x = finite s u h ∧ signed s u = a * unitsPerOne := by
  refine exists_finite_of_position? hx ?_
  rw [Int.natAbs_mul, Int.natAbs_natCast]
  exact (representable_mul ha).1

theorem position?_neg (x : Binary32) : (Binary32.neg x).position? = x.position?.map (- ·) := by
  cases x with
  | nan => rfl
  | infinite s => exact congrArg some (signed_not s _)
  | finite s u h => exact congrArg some (signed_not s u)

theorem StandsAt.neg (hx : x.StandsAt a) : (Binary32.neg x).StandsAt (-a) := by
  unfold StandsAt at hx ⊢
  rw [position?_neg, hx, Option.map_some, Int.neg_mul]

/-- **A sum that stays small is exact.** -/
theorem StandsAt.add (hx : x.StandsAt a) (hy : y.StandsAt b) (ha : a.natAbs < exactBound)
    (hb : b.natAbs < exactBound) (hab : (a + b).natAbs < exactBound) :
    (x + y).StandsAt (a + b) := by
  obtain ⟨s, u, hu, rfl, hsu⟩ := hx.exists_finite ha
  obtain ⟨t, v, hv, rfl, htv⟩ := hy.exists_finite hb
  have hadd : finite s u hu + finite t v hv = ofUnits (s && t) ((a + b) * unitsPerOne) := by
    rw [Int.add_mul, ← hsu, ← htv]
    rfl
  rw [hadd]
  exact standsAt_ofUnits _ hab

/-- **A difference that stays small is exact.** -/
theorem StandsAt.sub (hx : x.StandsAt a) (hy : y.StandsAt b) (ha : a.natAbs < exactBound)
    (hb : b.natAbs < exactBound) (hab : (a - b).natAbs < exactBound) :
    (x - y).StandsAt (a - b) := by
  rw [Int.sub_eq_add_neg] at hab ⊢
  exact hx.add hy.neg ha (by omega) hab

theorem isWhole_infinite (s : Bool) : (infinite s).IsWhole := by
  have hexponent : Format.binary32.width = 128 + 149 := rfl
  have hwidth : 2 ^ Format.binary32.width = 2 ^ 128 * unitsPerOne :=
    (congrArg (2 ^ ·) hexponent).trans (Nat.pow_add 2 128 149)
  refine ⟨signed s (2 ^ 128), ?_⟩
  rw [StandsAt, position?_infinite, hwidth, signed_mul]

/-- **The difference of whole numbers is one**, when the first is small. -/
theorem StandsAt.isWhole_sub (hx : x.StandsAt a) (ha : a.natAbs < exactBound) (hy : y.IsWhole) :
    (x - y).IsWhole := by
  obtain ⟨s, u, hu, rfl, hsu⟩ := hx.exists_finite ha
  obtain ⟨b, hb⟩ := hy
  cases y with
  | nan => cases hb
  | infinite t => exact isWhole_infinite (!t)
  | finite t v hv =>
    have htv : signed t v = b * unitsPerOne := Option.some.inj hb
    have hsub : finite s u hu - finite t v hv = ofUnits (s && !t) ((a - b) * unitsPerOne) := by
      rw [Int.sub_mul, ← hsu, ← htv, Int.sub_eq_add_neg, ← signed_not]
      rfl
    rw [hsub]
    exact isWhole_ofUnits _ _

/-- Taking away a greater number leaves a negative one. -/
theorem isNegative_sub {s : Bool} {u : Nat} {hu : Format.binary32.Representable u} {q : Int}
    (hy : y.position? = some q) (hlt : signed s u < q) :
    (finite s u hu - y).IsNegative := by
  cases y with
  | nan => cases hy
  | finite t v hv =>
    have hq : signed t v = q := Option.some.inj hy
    have hsub : finite s u hu - finite t v hv = ofUnits (s && !t) (signed s u - q) := by
      rw [← hq, Int.sub_eq_add_neg, ← signed_not]
      rfl
    rw [hsub]
    exact isNegative_ofUnits _ (Int.sub_neg_of_lt hlt)
  | infinite t =>
    have hq : signed t (2 ^ Format.binary32.width) = q := Option.some.inj hy
    cases t with
    | false => exact ⟨_, Int.neg_neg_of_pos (Int.natCast_pos.2 (Nat.two_pow_pos _)), rfl⟩
    | true =>
      -- Nothing that is finite is below the negative infinity.
      have hlower : -(u : Int) ≤ signed s u := by
        have hnatAbs := natAbs_signed s u
        omega
      have hu' : (u : Int) < (2 ^ Format.binary32.width : Nat) := Int.ofNat_lt.2 hu.1
      have hq' : q = -((2 ^ Format.binary32.width : Nat) : Int) := hq.symm
      generalize ((2 ^ Format.binary32.width : Nat) : Int) = w at hu' hq'
      omega

/-- A natural number from which a greater one is taken away leaves a negative number, however the
greater one is rounded. -/
theorem isNegative_sub_ofNat {m n : Nat} (hmn : m < n) (hm : m < exactBound) :
    (ofNat m - ofNat n).IsNegative := by
  have hn : m * unitsPerOne < rounded (n * unitsPerOne) := by
    obtain hsmall | hlarge := Nat.lt_or_ge n exactBound
    · rw [rounded_eq (representable_mul hsmall)]
      exact Nat.mul_lt_mul_of_pos_right hmn unitsPerOne_pos
    · -- Rounding does not take a number below the bound.
      have hle := Nat.mul_le_mul_right unitsPerOne hlarge
      rw [exactBound_mul] at hle
      refine Nat.lt_of_lt_of_le ?_ (two_pow_le_rounded (by decide) hle)
      rw [← exactBound_mul]
      exact Nat.mul_lt_mul_of_pos_right hm unitsPerOne_pos
  obtain ⟨s, u, hu, hofNat, hsu⟩ := (standsAt_ofNat hm).exists_finite hm
  have hplace : (ofNat n).position? = some (rounded (n * unitsPerOne) : Int) :=
    position?_ofRatio false _
  rw [hofNat]
  refine isNegative_sub hplace ?_
  rw [hsu, ← Int.natCast_mul]
  exact Int.ofNat_lt.2 hn

/-! ## Order -/

theorem lt_of_position? {p q : Int} (hx : x.position? = some p) (hy : y.position? = some q) :
    x.lt y = decide (p < q) := by
  rw [Binary32.lt, related, hx, hy]

theorem equal_of_position? {p q : Int} (hx : x.position? = some p) (hy : y.position? = some q) :
    x.equal y = decide (p = q) := by
  rw [Binary32.equal, related, hx, hy]

theorem StandsAt.lt (hx : x.StandsAt a) (hy : y.StandsAt b) : x.lt y = decide (a < b) := by
  rw [lt_of_position? hx hy]
  exact decide_eq_decide.2 (Int.mul_lt_mul_right (Int.natCast_pos.2 unitsPerOne_pos))

theorem StandsAt.equal (hx : x.StandsAt a) (hy : y.StandsAt b) : x.equal y = decide (a = b) := by
  rw [equal_of_position? hx hy]
  have hone : (unitsPerOne : Int) ≠ 0 := Int.ne_of_gt (Int.natCast_pos.2 unitsPerOne_pos)
  exact decide_eq_decide.2 (Int.mul_eq_mul_right_iff hone)

theorem IsNegative.lt_zero (hx : x.IsNegative) : x.lt zero = true := by
  obtain ⟨w, hw, hplace⟩ := hx
  rw [Binary32.lt, related, hplace]
  exact decide_eq_true hw

/-- No natural number equals a negative number. -/
theorem StandsAt.equal_negative {n : Nat} (hx : x.StandsAt n) (hy : y.IsNegative) :
    x.equal y = false := by
  obtain ⟨w, hw, hplace⟩ := hy
  have hnonneg := natCast_mul_unitsPerOne_nonneg n
  rw [equal_of_position? hx hplace]
  exact decide_eq_false (by omega)

/-- A number that is kept within limits. -/
theorem StandsAt.clamp {l h : Int} (hx : x.StandsAt a) (hlo : lo.StandsAt l) (hhi : hi.StandsAt h)
    (hlh : l ≤ h) : (x.clamp lo hi).StandsAt (max l (min a h)) := by
  rw [Binary32.clamp, hx.lt hlo, hhi.lt hx]
  by_cases hal : a < l
  · rw [if_pos (decide_eq_true hal), show max l (min a h) = l by omega]
    exact hlo
  · rw [if_neg (by simpa using hal)]
    by_cases hha : h < a
    · rw [if_pos (decide_eq_true hha), show max l (min a h) = h by omega]
      exact hhi
    · rw [if_neg (by simpa using hha), show max l (min a h) = a by omega]
      exact hx

/-- The whole part of a number that is not negative is that of its units. -/
theorem wholeUpTo_of_position? {w : Nat} (hx : x.position? = some (w : Int))
    (hw : w < 2 ^ Format.binary32.width) (bound : Nat) :
    x.wholeUpTo bound = min (w / unitsPerOne) bound := by
  obtain ⟨s, u, h, rfl, hsu⟩ := exists_finite_of_position? hx hw
  have hunits : u = w := by
    have hnatAbs := congrArg Int.natAbs hsu
    rwa [natAbs_signed, Int.natAbs_natCast] at hnatAbs
  subst hunits
  cases s with
  | false => rfl
  | true =>
    -- The number is the negative zero.
    have hneg : -(u : Int) = u := hsu
    have hzero : u = 0 := by omega
    show 0 = min (u / unitsPerOne) bound
    rw [hzero, Nat.zero_div, Nat.zero_min]

/-- The whole part of a small natural number is that number. -/
theorem StandsAt.wholeUpTo {n : Nat} (hx : x.StandsAt n) (hn : n < exactBound) (bound : Nat) :
    x.wholeUpTo bound = min n bound := by
  have hplace : x.position? = some ((n * unitsPerOne : Nat) : Int) := by
    rw [Int.natCast_mul]
    exact hx
  rw [wholeUpTo_of_position? hplace (representable_mul hn).1,
    Nat.mul_div_cancel n unitsPerOne_pos]

end Binary32

end DevConsole
