import DevConsole.ConfigFile
import DevConsole.Proofs.QuietFrames
import DevConsole.Proofs.ViewBounds

/-! # The wheel and its settings

A frame moves the view by what the wheel was turned times a setting, and times another one while
control is held.  A product of numbers need not be a number: zero times an infinity is none, and a
view that is moved by not-a-number is nowhere.  The check of a configuration looks at neither
setting, and TOML has infinities and not-a-number, so a view can be lost by turning the wheel, or by
not turning it.

Which settings keep the view can be told exactly (`Config.TamesWheel`).  Both must be finite, since
a wheel at rest is zero.  And where the multiplier is zero, the first product must not be an
infinity however far the wheel is turned, which is so when the step is at most one: by more than one
the largest number becomes an infinity (`Binary32.largest_mul`).

With such settings every move is by a number or an infinity, and the view stays within the lines as
`Scrollback.withinLines_apply` says of one change and `Console.confined_operateAll` of all that is
done with a console.
-/
namespace DevConsole

namespace Binary32

variable {x : Binary32} {s t : Bool} {u v : Nat}

/-! ## Values -/

theorem exists_finite_of_value? {q : ℚ} (h : x.value? = some q) :
    ∃ s u hu, x = finite s u hu ∧ (signed s u : ℚ) / unitsPerOne = q := by
  cases x with
  | nan | infinite => cases h
  | finite s u hu => exact ⟨s, u, hu, rfl, Option.some.inj h⟩

theorem abs_signed_div (s : Bool) (u : Nat) :
    |(signed s u : ℚ) / unitsPerOne| = (u : ℚ) / unitsPerOne := by
  have habs : |(signed s u : ℚ)| = u := by
    rw [← Int.cast_abs, Int.abs_eq_natAbs, natAbs_signed, Int.cast_natCast]
  rw [abs_div, habs, Nat.abs_cast]

/-- A magnitude is at most one when it is in units. -/
theorem abs_signed_div_le_one : |(signed s u : ℚ) / unitsPerOne| ≤ 1 ↔ u ≤ unitsPerOne := by
  have hone : (0 : ℚ) < unitsPerOne := Nat.cast_pos.2 unitsPerOne_pos
  rw [abs_signed_div, div_le_one hone, Nat.cast_le]

theorem signed_div_eq_zero : (signed s u : ℚ) / unitsPerOne = 0 ↔ u = 0 := by
  have hone : (unitsPerOne : ℚ) ≠ 0 := Nat.cast_ne_zero.2 (Nat.ne_of_gt unitsPerOne_pos)
  rw [← abs_eq_zero, abs_signed_div, div_eq_zero_iff, or_iff_left hone, Nat.cast_eq_zero]

/-- A small natural number has itself for its value. -/
theorem value?_ofNat {n : Nat} (h : n < exactBound) : (ofNat n).value? = some (n : ℚ) := by
  have hunits : ((n : Int) * unitsPerOne).natAbs < 2 ^ Format.binary32.width := by
    rw [Int.natAbs_mul, Int.natAbs_natCast, Int.natAbs_natCast]
    exact (representable_mul h).1
  have hone : (unitsPerOne : ℚ) ≠ 0 := Nat.cast_ne_zero.2 (Nat.ne_of_gt unitsPerOne_pos)
  rw [value?_of_position? (standsAt_ofNat h) hunits, Int.cast_mul, Int.cast_natCast,
    Int.cast_natCast, mul_div_cancel_right₀ _ hone]

/-! ## Products -/

theorem finite_mul_finite (s t : Bool) (hu : Format.binary32.Representable u)
    (hv : Format.binary32.Representable v) :
    finite s u hu * finite t v hv = ofRatio (s != t) (u * v) unitsPerOne :=
  rfl

theorem ofRatio_ne_nan (s : Bool) (m n : Nat) : ofRatio s m n ≠ nan := by
  obtain h | h := Nat.lt_or_ge (roundSignificant Format.binary32.precision m n)
    (2 ^ Format.binary32.width)
  · rw [ofRatio_of_lt s h]
    exact fun heq => nomatch heq
  · rw [ofRatio_of_ge s h]
    exact fun heq => nomatch heq

/-- A product whose magnitude does not exceed one that is there is finite. -/
theorem exists_finite_mul (s t : Bool) (hu : Format.binary32.Representable u)
    (hv : Format.binary32.Representable v) {n : Nat} (hn : Format.binary32.Representable n)
    (h : u * v ≤ n * unitsPerOne) :
    ∃ w hw, w ≤ n ∧ finite s u hu * finite t v hv = finite (s != t) w hw := by
  have hle := roundSignificant_le hn.2 unitsPerOne_pos h
  rw [finite_mul_finite, ofRatio_of_lt _ (Nat.lt_of_le_of_lt hle hn.1)]
  exact ⟨_, _, hle, rfl⟩

/-- An infinity times a number is not-a-number only where the number is zero. -/
theorem infinite_mul_ne_nan {hv : Format.binary32.Representable v} (h : v ≠ 0) :
    infinite s * finite t v hv ≠ nan := by
  have hmul : infinite s * finite t v hv = if v = 0 then nan else infinite (s != t) := rfl
  rw [hmul, if_neg h]
  exact fun heq => nomatch heq

theorem infinite_mul_zero {h0 : Format.binary32.Representable 0} :
    infinite s * finite t 0 h0 = nan := rfl

/-- Zero times anything but a finite number is not-a-number. -/
theorem zero_mul_of_value? {h0 : Format.binary32.Representable 0} (h : x.value? = none) :
    finite s 0 h0 * x = nan := by
  cases x with
  | nan | infinite => rfl
  | finite => cases h

theorem sub_nan (x : Binary32) : x - nan = nan := by
  cases x <;> rfl

theorem clamp_nan (lo hi : Binary32) : nan.clamp lo hi = nan := by
  have hlt : nan.lt lo = false := rfl
  have hgt : hi.lt nan = false := by
    unfold Binary32.lt related
    cases hi.position? <;> rfl
  unfold clamp
  rw [hlt, hgt]
  rfl

/-! ## The largest number -/

theorem two_pow_width :
    2 ^ Format.binary32.width = 2 ^ Format.binary32.precision * 2 ^ 253 := by
  have hwidth : Format.binary32.width = Format.binary32.precision + 253 := rfl
  rw [hwidth, Nat.pow_add]

theorem unitsPerOne_eq : unitsPerOne = 2 ^ 23 * 2 ^ 126 := rfl

theorem representable_largest : Format.binary32.Representable ((2 ^ 24 - 1) * 2 ^ 253) := by
  have hlt : (2 ^ 24 - 1) * 2 ^ 253 < 2 ^ Format.binary32.precision * 2 ^ 253 :=
    Nat.mul_lt_mul_of_pos_right (by decide) (Nat.two_pow_pos 253)
  refine ⟨two_pow_width ▸ hlt, significant_of_dvd ?_ (Nat.dvd_mul_left (2 ^ 253) _)⟩
  rwa [Nat.pow_add]

/-- The largest finite number. -/
def largest : Binary32 := finite false _ representable_largest

/-- Of the numbers above one the least is greater by a unit in the last of 24 places. -/
theorem next_le_of_lt (hv : Format.binary32.Representable v) (h : unitsPerOne < v) :
    (2 ^ 23 + 1) * 2 ^ 126 ≤ v := by
  have hpos : v ≠ 0 := Nat.ne_of_gt (Nat.lt_trans unitsPerOne_pos h)
  have hlog : 149 ≤ v.log2 := (Nat.le_log2 hpos).2 (Nat.le_of_lt h)
  have hdvd : 2 ^ 126 ∣ v :=
    Nat.dvd_trans (Nat.pow_dvd_pow 2 (show 126 ≤ v.log2 + 1 - 24 by omega)) hv.2
  obtain ⟨m, rfl⟩ := hdvd
  rw [unitsPerOne_eq, Nat.mul_comm (2 ^ 126) m] at h
  rw [Nat.mul_comm (2 ^ 126) m]
  exact Nat.mul_le_mul_right _ (Nat.lt_of_mul_lt_mul_right h)

/-- **More than once the largest number is an infinity.** -/
theorem largest_mul {hv : Format.binary32.Representable v} (h : unitsPerOne < v) :
    largest * finite t v hv = infinite t := by
  have hprecision : 0 < Format.binary32.precision := by decide
  have hproduct : 2 ^ Format.binary32.width * unitsPerOne ≤ (2 ^ 24 - 1) * 2 ^ 253 * v :=
    calc 2 ^ Format.binary32.width * unitsPerOne
        = 2 ^ Format.binary32.precision * 2 ^ 253 * (2 ^ 23 * 2 ^ 126) := by
          rw [two_pow_width, unitsPerOne_eq]
      _ = 2 ^ Format.binary32.precision * 2 ^ 23 * (2 ^ 253 * 2 ^ 126) :=
          Nat.mul_mul_mul_comm _ _ _ _
      _ ≤ (2 ^ 24 - 1) * (2 ^ 23 + 1) * (2 ^ 253 * 2 ^ 126) :=
          Nat.mul_le_mul_right _ (by decide)
      _ = (2 ^ 24 - 1) * 2 ^ 253 * ((2 ^ 23 + 1) * 2 ^ 126) := Nat.mul_mul_mul_comm _ _ _ _
      _ ≤ (2 ^ 24 - 1) * 2 ^ 253 * v := Nat.mul_le_mul_left _ (next_le_of_lt hv h)
  have hround : 2 ^ Format.binary32.width ≤
      roundSignificant Format.binary32.precision ((2 ^ 24 - 1) * 2 ^ 253 * v) unitsPerOne :=
    two_pow_le_roundSignificant_div hprecision
      ((Nat.le_div_iff_mul_le unitsPerOne_pos).2 hproduct)
  rw [largest, finite_mul_finite, ofRatio_of_ge _ hround]
  cases t <;> rfl

end Binary32

/-! ## Settings that keep the view -/

/-- Both settings of the wheel are finite, and a multiplier of zero comes with a step of at most
one. -/
def Config.TamesWheel (c : Config) : Prop :=
  ∃ step fast : ℚ, c.wheelStep.value? = some step ∧ c.wheelFastMultiplier.value? = some fast ∧
    (fast = 0 → |step| ≤ 1)

theorem Config.tamesWheel_default : TamesWheel {} :=
  ⟨_, _, Binary32.value?_ofNat (by decide), Binary32.value?_ofNat (by decide),
    fun h => absurd h (by decide)⟩

/-- The wheel is turned by a number. -/
def Frame.HasFiniteWheel (frame : Frame) : Prop := ∃ w : ℚ, frame.wheel.value? = some w

namespace Console

open Binary32

variable {Host : Type} {c : Console Host} {frame : Frame}

/-- With such settings the view is moved by a number or an infinity. -/
theorem wheelDistance_ne_nan (h : c.config.TamesWheel) (hwheel : frame.HasFiniteWheel) :
    c.wheelDistance frame ≠ nan := by
  obtain ⟨step, fast, hstep, hfast, hzero⟩ := h
  obtain ⟨w, hw⟩ := hwheel
  obtain ⟨s, u, hu, hwheel, -⟩ := exists_finite_of_value? hw
  obtain ⟨t, v, hv, hsetting, rfl⟩ := exists_finite_of_value? hstep
  obtain ⟨r, m, hm, hmultiplier, rfl⟩ := exists_finite_of_value? hfast
  unfold wheelDistance
  rw [hwheel, hsetting, hmultiplier]
  dsimp only
  split
  case isFalse => exact ofRatio_ne_nan _ _ _
  by_cases hm0 : m = 0
  · -- The first product does not exceed what the wheel was turned, so it is finite.
    have hv1 : v ≤ unitsPerOne := abs_signed_div_le_one.1 (hzero (signed_div_eq_zero.2 hm0))
    obtain ⟨w', hw', -, hmul⟩ := exists_finite_mul s t hu hv hu
      (Nat.mul_le_mul_left u hv1)
    rw [hmul]
    exact ofRatio_ne_nan _ _ _
  · cases hmul : finite s u hu * finite t v hv with
    | nan => exact absurd hmul (ofRatio_ne_nan _ _ _)
    | infinite q => exact infinite_mul_ne_nan hm0
    | finite q n hn => exact ofRatio_ne_nan _ _ _

/-- With all others there is a turn of the wheel, perhaps with control, by which the view is moved
by not-a-number. -/
theorem exists_wheelDistance_eq_nan (h : ¬ c.config.TamesWheel) :
    ∃ wheel control, let frame := Frame.turn wheel { control := control }
      frame.HasFiniteWheel ∧ c.wheelDistance frame = nan := by
  have hresting : Frame.HasFiniteWheel (.turn zero {}) := ⟨_, rfl⟩
  cases hstep : c.config.wheelStep.value? with
  | none =>
    -- A wheel at rest is enough.
    exact ⟨zero, false, hresting, zero_mul_of_value? hstep⟩
  | some step =>
    obtain ⟨t, v, hv, hsetting, rfl⟩ := exists_finite_of_value? hstep
    cases hfast : c.config.wheelFastMultiplier.value? with
    | none =>
      have h0 : Format.binary32.Representable 0 := ⟨Nat.two_pow_pos _, Nat.dvd_zero _⟩
      obtain ⟨w, hw, hw0, hmul⟩ := exists_finite_mul false t h0 hv h0
        (by rw [Nat.zero_mul]; exact Nat.zero_le _)
      obtain rfl := Nat.le_zero.1 hw0
      refine ⟨zero, true, hresting, ?_⟩
      show zero * c.config.wheelStep * c.config.wheelFastMultiplier = nan
      rw [hsetting, zero, hmul]
      exact zero_mul_of_value? hfast
    | some fast =>
      obtain ⟨r, m, hm, hmultiplier, rfl⟩ := exists_finite_of_value? hfast
      have hlarge : m = 0 ∧ unitsPerOne < v := by
        by_contra hsmall
        refine h ⟨_, _, hstep, hfast, fun hzero => abs_signed_div_le_one.2 ?_⟩
        by_contra hv1
        exact hsmall ⟨signed_div_eq_zero.1 hzero, Nat.lt_of_not_le hv1⟩
      obtain ⟨rfl, hv1⟩ := hlarge
      refine ⟨largest, true, ⟨_, rfl⟩, ?_⟩
      show largest * c.config.wheelStep * c.config.wheelFastMultiplier = nan
      rw [hsetting, hmultiplier, largest_mul hv1]
      exact infinite_mul_zero

end Console

/-! ## Consoles whose view stays within the lines -/

namespace Scrollback

variable {s : Scrollback}

/-- The view is within the lines, as long as there are not too many to count. -/
def Confined (s : Scrollback) : Prop := s.size < Binary32.exactBound → s.WithinLines

theorem Confined.apply (h : s.Confined) (change : Change) (hproper : change.IsProper) :
    (change.apply s).Confined :=
  withinLines_apply hproper h

theorem Confined.receive (h : s.Confined) (event : Event) : (Sink.receive s event).Confined := by
  cases event with
  | appended text color => exact h.apply (.append text color) trivial
  | cleared => exact h.apply .clear trivial
  | noted | invoked | opened => exact h

theorem Confined.receiveAll (h : s.Confined) (trace : List Event) :
    (Sink.receiveAll s trace).Confined := by
  induction trace generalizing s with
  | nil => exact h
  | cons event trace ih => exact ih (h.receive event)

end Scrollback

namespace Console

variable {Host : Type} {c : Console Host} {frame : Frame}

theorem confined_perform {α : Type} (h : c.scrollback.Confined)
    (x : Action Host Scrollback α) : (c.perform x).2.1.scrollback.Confined :=
  h.receiveAll _

theorem confined_scroll (h : c.scrollback.Confined) (hdistance : c.wheelDistance frame ≠ .nan) :
    (c.scroll frame).scrollback.Confined := by
  unfold scroll
  split
  · exact h.apply (.scrollHorizontal _) trivial
  · exact h.apply (.scrollVertical _) hdistance

theorem confined_submit (h : c.scrollback.Confined) (line : String) :
    (c.submit line).1.scrollback.Confined := by
  have hecho := confined_perform h (Action.append ("> " ++ line) .gray)
  rw [submit_eq]
  dsimp only
  split
  · exact hecho.apply .resetScroll trivial
  · refine confined_perform (confined_perform ?_ _) _
    exact hecho.apply .resetScroll trivial

theorem confined_press (h : c.scrollback.Confined) (key : Key) (m : Modifiers)
    (clipboard : String) : (c.press key m clipboard).console.scrollback.Confined := by
  unfold press
  dsimp only
  split
  · exact h
  · exact h
  · exact confined_submit (c := { c with editor := (c.editor.press key m clipboard).1 }) h _

/-- **A frame keeps the view within the lines** when the console is disabled or its settings tame
the wheel. -/
theorem confined_tick (h : c.scrollback.Confined)
    (htame : c.config.enabled = true → c.config.TamesWheel) (hwheel : frame.HasFiniteWheel)
    (clipboard : String) (dt : Binary32) :
    (c.tick frame clipboard dt).console.scrollback.Confined := by
  by_cases hheeds : c.Heeds frame
  case neg =>
    obtain ⟨notes, htick⟩ := tick_of_not_heeds clipboard dt hheeds
    rw [htick]
    exact h
  have hdistance : (c.elapseTooltip dt).wheelDistance frame ≠ .nan :=
    wheelDistance_ne_nan (htame hheeds.enabled) hwheel
  have hscroll : ((c.elapseTooltip dt).attentive dt frame).scrollback.Confined :=
    confined_scroll (c := c.elapseTooltip dt) h hdistance
  rw [tick_of_open clipboard dt hheeds.enabled hheeds.no_toggle hheeds.isOpen, tickOpen]
  cases frame.key with
  | none => exact hscroll
  | some key => exact confined_press hscroll key frame.modifiers clipboard

/-- In every frame among the operations the wheel is turned by a number. -/
def Operation.HasFiniteWheel : Operation → Prop
  | .tick frame _ _ => frame.HasFiniteWheel
  | .log _ _ | .execute _ | .setOpen _ | .takeSignals => True

theorem confined_operate (h : c.scrollback.Confined)
    (htame : c.config.enabled = true → c.config.TamesWheel) {op : Operation}
    (hwheel : op.HasFiniteWheel) : (c.operate op).1.scrollback.Confined := by
  cases op with
  | log text color => exact confined_perform h _
  | execute line => exact confined_perform h _
  | tick frame clipboard dt => exact confined_tick h htame hwheel clipboard dt
  | setOpen wanted => exact h
  | takeSignals => exact h

theorem confined_operateAll (h : c.scrollback.Confined)
    (htame : c.config.enabled = true → c.config.TamesWheel) {ops : List Operation}
    (hwheels : ∀ op ∈ ops, op.HasFiniteWheel) : (c.operateAll ops).1.scrollback.Confined := by
  induction ops generalizing c with
  | nil => exact h
  | cons op ops ih =>
    obtain ⟨hwheel, hwheels⟩ := List.forall_mem_cons.1 hwheels
    refine ih (confined_operate h htame hwheel) ?_ hwheels
    rw [config_operate]
    exact htame

/-- A frame without a key and without shift moves the view up and down, and no more. -/
theorem scrollback_tick_of_no_key (henabled : c.config.enabled = true) (hopen : c.isOpen = true)
    (hkey : frame.key = none) (hshift : frame.modifiers.shift = false) (clipboard : String)
    (dt : Binary32) :
    (c.tick frame clipboard dt).console.scrollback =
      c.scrollback.scrollVertical (c.wheelDistance frame) := by
  have htoggle : c.isToggle frame = false := by
    rw [isToggle, hkey]
    rfl
  rw [tick_of_open clipboard dt henabled htoggle hopen, tickOpen, hkey]
  show ((c.elapseTooltip dt).scroll frame).scrollback = _
  rw [scroll, hshift]
  rfl

/-- Opening a console and letting a frame pass. -/
def openAndTick (frame : Frame) (clipboard : String) (dt : Binary32) : List Operation :=
  [.setOpen true, .tick frame clipboard dt]

theorem hasFiniteWheel_of_mem_openAndTick (h : frame.HasFiniteWheel) (clipboard : String)
    (dt : Binary32) : ∀ op ∈ openAndTick frame clipboard dt, op.HasFiniteWheel := by
  intro op hin
  obtain rfl | hin := List.mem_cons.1 hin
  · exact trivial
  · rw [List.mem_singleton.1 hin]
    exact h

/-- **A view that is moved by not-a-number is lost**, and the lines are as before. -/
theorem lost_of_openAndTick (henabled : c.config.enabled = true) (hkey : frame.key = none)
    (hshift : frame.modifiers.shift = false) (hnan : c.wheelDistance frame = .nan)
    (clipboard : String) (dt : Binary32) :
    let s := (c.operateAll (openAndTick frame clipboard dt)).1.scrollback
    s.size = c.scrollback.size ∧ s.scrollY = .nan := by
  intro s
  have hmoved : s = c.scrollback.scrollVertical (c.wheelDistance frame) :=
    scrollback_tick_of_no_key (c := (c.setOpen true).1) henabled henabled hkey hshift clipboard dt
  rw [hmoved, hnan]
  refine ⟨Scrollback.size_scrollVertical _ _, ?_⟩
  rw [Scrollback.scrollVertical, Binary32.sub_nan, Binary32.clamp_nan]

/-- **Exactly the settings that tame the wheel keep the view within the lines**, and the check of a
configuration looks at none of them.  Take any configuration, whether it was read from a document or
not, and a new console with it and any commands of the host.  The offset of the view is a number
from zero to the index of the last line after all operations in which the wheel is turned by
numbers and that leave fewer than `2 ^ 24` lines, if and only if the console is disabled, or both
settings of the wheel are finite and the step is at most one where the multiplier is zero. -/
theorem offset_within_lines_iff (config : Config) (scripts : ScriptDirectory) (host : Host)
    (commands : List (Command Host Scrollback)) :
    (∀ step fast : Binary32, Config.fault?
      { config with wheelStep := step, wheelFastMultiplier := fast } = config.fault?) ∧
    let console := (Console.new config scripts host).registerEach commands
    ((∀ ops : List Operation, (∀ op ∈ ops, op.HasFiniteWheel) →
        let s := (console.operateAll ops).1.scrollback
        s.size < Binary32.exactBound →
          ∃ y : ℚ, s.scrollY.value? = some y ∧ 0 ≤ y ∧ y ≤ (s.size - 1 : Nat)) ↔
      (config.enabled = true → config.TamesWheel)) := by
  refine ⟨fun _ _ => rfl, ?_⟩
  intro console
  have hconfig : console.config = config := by
    show (registerEach _ _).config = config
    rw [registerEach_eq]
    rfl
  have hempty : console.scrollback = .ofHeight config.maxLinesOnScreen := by
    show (registerEach _ _).scrollback = _
    rw [registerEach_eq]
    rfl
  constructor
  · intro hkeeps henabled
    by_contra htame
    rw [← hconfig] at henabled htame
    obtain ⟨wheel, control, hwheel, hnan⟩ := exists_wheelDistance_eq_nan htame
    obtain ⟨hsize, hlost⟩ := lost_of_openAndTick henabled rfl rfl hnan "" .zero
    have hbound : (0 : Nat) < Binary32.exactBound := by decide
    obtain ⟨y, hy, -, -⟩ := hkeeps _ (hasFiniteWheel_of_mem_openAndTick hwheel "" .zero)
      (by rw [hsize, hempty]; exact hbound)
    rw [hlost] at hy
    cases hy
  · intro htame ops hwheels s hsize
    have hnew : console.scrollback.Confined := by
      rw [hempty]
      exact fun _ => (Scrollback.startsAt_ofHeight _).withinLines
    have hconfined : s.Confined := confined_operateAll hnew (hconfig.symm ▸ htame) hwheels
    obtain ⟨y, hvalue, hlower, hupper, -⟩ := (hconfined hsize).window hsize
    exact ⟨y, hvalue, hlower, hupper⟩

/-- The default settings tame the wheel: the largest turn down with control held takes the view to
the last of three lines and not beyond. -/
theorem offset_within_lines_iff_default :
    let console := (Console.new {} ⟨"", .missing⟩ () : Console Unit).registerEach []
    let ops : List Operation := [.log "one\ntwo\nthree" .white, .setOpen true,
      .tick (.turn (-Binary32.largest) { control := true }) "" .zero]
    let s := (console.operateAll ops).1.scrollback
    s.scrollY = .ofNat 2 ∧
      ∃ y : ℚ, s.scrollY.value? = some y ∧ 0 ≤ y ∧ y ≤ (s.size - 1 : Nat) := by
  intro console ops s
  obtain ⟨-, hiff⟩ := offset_within_lines_iff {} ⟨"", .missing⟩ () []
  have hwheels : ∀ op ∈ ops, op.HasFiniteWheel := by
    intro op hin
    simp only [ops, List.mem_cons, List.not_mem_nil, or_false] at hin
    rcases hin with rfl | rfl | rfl
    · exact trivial
    · exact trivial
    · exact ⟨_, rfl⟩
  have hsize : s.size < Binary32.exactBound := by decide +kernel
  refine ⟨by decide +kernel, ?_⟩
  exact hiff.2 (fun _ => Config.tamesWheel_default) ops hwheels hsize

/-- A document with an infinite step is accepted, and the view is lost in the first frame in which
the console is open, without a key and with the wheel at rest. -/
theorem infinite_step_loses_view :
    ∃ config, Config.ofToml "wheel_step = inf" = .ok config ∧
      let ops := openAndTick .idle "" (.ofFraction 1 60)
      let s := ((Console.new config ⟨"", .missing⟩ () : Console Unit).operateAll ops).1.scrollback
      (∀ op ∈ ops, op.HasFiniteWheel) ∧ s.size < Binary32.exactBound ∧ s.scrollY = .nan := by
  obtain ⟨config, hread, hsettings⟩ := Config.exists_of_any "wheel_step = inf"
    (fun config => decide (config.enabled = true ∧ config.wheelStep = .infinite false))
    (by decide +kernel)
  obtain ⟨henabled, hstep⟩ := of_decide_eq_true hsettings
  let console : Console Unit := Console.new config ⟨"", .missing⟩ ()
  have hdistance : console.wheelDistance .idle = .nan := by
    show Binary32.zero * config.wheelStep = .nan
    rw [hstep]
    rfl
  obtain ⟨hsize, hlost⟩ := lost_of_openAndTick (c := console) henabled rfl rfl hdistance ""
    (.ofFraction 1 60)
  refine ⟨config, hread, hasFiniteWheel_of_mem_openAndTick ⟨_, rfl⟩ _ _, ?_, hlost⟩
  have hbound : (0 : Nat) < Binary32.exactBound := by decide
  exact hsize ▸ hbound

end Console

end DevConsole
