import DevConsole.Proofs.NewestLine
import Mathlib.Algebra.Order.Floor.Semifield
import Mathlib.Data.Rat.Floor

/-! # The view stays within the lines

The view is moved by floating-point numbers, so it may start within a line, and moves of any size
may be asked for.  It never leaves the lines: its offset stays between the first line and the last
one (`WithinLines`), whatever happens to the scrollback (`withinLines_run`).

Moving and resetting put the offset back within its limits, and removing the lines takes it to
zero.  Adding lines is the delicate case, since it adds to the offset and checks nothing.  But it
does so only where the offset is that of the newest screenful, which is a whole number within the
limits (`WithinLines.startsAt_of_isPinned`), so the exact arithmetic of whole numbers applies.

What is in view is then a slice of the lines whose bounds are in order (`WithinLines.window`).
-/
namespace DevConsole

namespace Binary32

variable {x y lo hi : Binary32} {a l h : Int}

/-! ## Numbers within limits -/

/-- The exact value of a finite number. -/
def value? : Binary32 → Option ℚ
  | nan => none
  | infinite _ => none
  | finite s u _ => some (signed s u / unitsPerOne)

theorem value?_of_position? {z : Int} (hx : x.position? = some z)
    (hz : z.natAbs < 2 ^ Format.binary32.width) :
    x.value? = some ((z : ℚ) / unitsPerOne) := by
  obtain ⟨s, u, hu, rfl, rfl⟩ := exists_finite_of_position? hx hz
  rfl

/-- A difference has a place when the first number is finite, however large the other one is. -/
theorem exists_position?_sub (hx : x.position? = some a)
    (ha : a.natAbs < 2 ^ Format.binary32.width) (hy : y ≠ nan) :
    ∃ z, (x - y).position? = some z := by
  obtain ⟨s, u, hu, rfl, -⟩ := exists_finite_of_position? hx ha
  cases y with
  | nan => exact absurd rfl hy
  | infinite t => exact ⟨_, rfl⟩
  | finite t v hv => exact ⟨_, position?_ofUnits _ _⟩

/-- A number that is kept within limits is within them. -/
theorem exists_position?_clamp (hx : x.position? = some a) (hlo : lo.position? = some l)
    (hhi : hi.position? = some h) (hlh : l ≤ h) :
    ∃ z, (x.clamp lo hi).position? = some z ∧ l ≤ z ∧ z ≤ h := by
  rw [clamp, lt_of_position? hx hlo, lt_of_position? hhi hx]
  by_cases hal : a < l
  · rw [if_pos (decide_eq_true hal)]
    exact ⟨l, hlo, Int.le_refl l, hlh⟩
  · rw [if_neg (by simpa using hal)]
    by_cases hha : h < a
    · rw [if_pos (decide_eq_true hha)]
      exact ⟨h, hhi, hlh, Int.le_refl h⟩
    · rw [if_neg (by simpa using hha)]
      exact ⟨a, hx, Int.not_lt.1 hal, Int.not_lt.1 hha⟩

theorem zero_le_atLeastZero (x : Binary32) : zero.le x.atLeastZero = true := by
  unfold atLeastZero
  split
  · assumption
  · rfl

end Binary32

namespace Scrollback

variable {s : Scrollback}

/-! ## Offsets within the lines -/

/-- The view starts between the first line and the last one, perhaps within a line. -/
def WithinLines (s : Scrollback) : Prop :=
  ∃ w : Nat, s.scrollY.position? = some (w : Int) ∧ w ≤ (s.size - 1) * Binary32.unitsPerOne

theorem StartsAt.withinLines {n : Nat} (h : s.StartsAt n) : s.WithinLines := by
  refine ⟨n * Binary32.unitsPerOne, ?_, Nat.mul_le_mul_right _ h.bound⟩
  rw [Int.natCast_mul]
  exact h.offset

theorem units_lt_width {w : Nat} (hw : w ≤ (s.size - 1) * Binary32.unitsPerOne)
    (hsize : s.size < Binary32.exactBound) : w < 2 ^ Format.binary32.width := by
  have hlast : s.size - 1 < Binary32.exactBound := by omega
  exact Nat.lt_of_le_of_lt hw (Binary32.representable_mul hlast).1

/-- **A view that is at the newest screenful starts at a line.**  With less than a screenful the
offset would have to be negative. -/
theorem WithinLines.startsAt_of_isPinned (h : s.WithinLines)
    (hsize : s.size < Binary32.exactBound) (hpinned : s.isPinned = true) :
    s.StartsAt (s.size - s.maxVisible) := by
  obtain ⟨w, hw, -⟩ := h
  have hpos := s.maxVisible_pos
  unfold Scrollback.isPinned at hpinned
  obtain hroom | hfull := Nat.lt_or_ge s.size s.maxVisible
  · obtain ⟨z, hz, hplace⟩ : s.newestOffset.IsNegative :=
      Binary32.isNegative_sub_ofNat hroom hsize
    rw [Binary32.equal_of_position? hw hplace, decide_eq_true_iff] at hpinned
    omega
  · have hnewest := standsAt_newestOffset hsize hfull
    unfold Binary32.StandsAt at hnewest
    rw [Binary32.equal_of_position? hw hnewest, decide_eq_true_iff] at hpinned
    refine ⟨?_, by omega⟩
    unfold Binary32.StandsAt
    rw [hw, hpinned]

/-! ## Every change keeps to them -/

/-- A view that is not at the newest screenful keeps its offset. -/
theorem scrollY_append_of_not_isPinned (h : s.isPinned = false) (text : String) (color : Color) :
    (s.append text color).scrollY = s.scrollY := by
  show (if s.isPinned then _ else s.scrollY) = s.scrollY
  rw [h]
  rfl

theorem WithinLines.append (h : s.WithinLines) (text : String) (color : Color)
    (hsize : (s.append text color).size < Binary32.exactBound) :
    (s.append text color).WithinLines := by
  have hadded := size_append text color s
  cases hpinned : s.isPinned with
  | true => exact ((h.startsAt_of_isPinned (by omega) hpinned).append hsize).withinLines
  | false =>
    -- The offset stays, and there are more lines than before.
    obtain ⟨w, hw, hbound⟩ := h
    have hscroll := scrollY_append_of_not_isPinned hpinned text color
    refine ⟨w, by rw [hscroll, hw], Nat.le_trans hbound (Nat.mul_le_mul_right _ ?_)⟩
    omega

theorem WithinLines.scrollVertical (h : s.WithinLines) (hsize : s.size < Binary32.exactBound)
    {delta : Binary32} (hdelta : delta ≠ .nan) : (s.scrollVertical delta).WithinLines := by
  obtain ⟨w, hw, hbound⟩ := h
  obtain ⟨a, hmoved⟩ := Binary32.exists_position?_sub hw (units_lt_width hbound hsize) hdelta
  have hlast : s.lastOffset.StandsAt ((s.size - 1 : Nat) : Int) :=
    Binary32.standsAt_ofNat (by omega)
  obtain ⟨z, hz, hlower, hupper⟩ := Binary32.exists_position?_clamp hmoved Binary32.standsAt_zero
    hlast (by simpa using Binary32.natCast_mul_unitsPerOne_nonneg (s.size - 1))
  rw [Int.zero_mul] at hlower
  obtain ⟨v, rfl⟩ := Int.eq_ofNat_of_zero_le hlower
  refine ⟨v, hz, ?_⟩
  rw [size_scrollVertical]
  rw [← Int.natCast_mul] at hupper
  exact Int.ofNat_le.1 hupper

theorem WithinLines.scrollHorizontal (h : s.WithinLines) (delta : Binary32) :
    (s.scrollHorizontal delta).WithinLines := by
  obtain ⟨w, hw, hbound⟩ := h
  refine ⟨w, hw, ?_⟩
  rw [size_scrollHorizontal]
  exact hbound

/-! ## What can happen to a scrollback -/

/-- One thing that happens to a scrollback. -/
inductive Change
  | append (text : String) (color : Color)
  | clear
  | scrollVertical (delta : Binary32)
  | scrollHorizontal (delta : Binary32)
  | resetScroll

/-- The scrollback after a change. -/
def Change.apply (change : Change) (s : Scrollback) : Scrollback :=
  match change with
  | append text color => s.append text color
  | clear => s.clear
  | scrollVertical delta => s.scrollVertical delta
  | scrollHorizontal delta => s.scrollHorizontal delta
  | resetScroll => s.resetScroll

/-- The view is not moved up or down by not-a-number.  Moves to the side may be by anything. -/
def Change.IsProper : Change → Prop
  | scrollVertical delta => delta ≠ .nan
  | _ => True

/-- What comes of an empty scrollback by changes, one after the other. -/
def run (height : Nat) (changes : List Change) : Scrollback :=
  changes.foldl (fun s change => change.apply s) (ofHeight height)

theorem run_snoc (height : Nat) (changes : List Change) (change : Change) :
    run height (changes ++ [change]) = change.apply (run height changes) :=
  List.foldl_concat _ _ _ _

theorem size_apply_le {change : Change} (h : change ≠ .clear) (s : Scrollback) :
    s.size ≤ (change.apply s).size := by
  cases change with
  | clear => exact absurd rfl h
  | append text color => exact Nat.le.intro (size_append text color s).symm
  | scrollVertical delta => exact Nat.le_of_eq (size_scrollVertical delta s).symm
  | scrollHorizontal delta => exact Nat.le_of_eq (size_scrollHorizontal delta s).symm
  | resetScroll => exact Nat.le_of_eq (size_resetScroll s).symm

/-- **One change keeps the view within the lines**, as long as there are not too many to count. -/
theorem withinLines_apply {change : Change} (hproper : change.IsProper)
    (h : s.size < Binary32.exactBound → s.WithinLines)
    (hsize : (change.apply s).size < Binary32.exactBound) : (change.apply s).WithinLines := by
  by_cases hclear : change = .clear
  · rw [hclear]
    exact (startsAt_clear s).withinLines
  · have hbefore : s.size < Binary32.exactBound :=
      Nat.lt_of_le_of_lt (size_apply_le hclear s) hsize
    have hwithin := h hbefore
    cases change with
    | append text color => exact hwithin.append text color hsize
    | clear => exact absurd rfl hclear
    | scrollVertical delta => exact hwithin.scrollVertical hbefore hproper
    | scrollHorizontal delta => exact hwithin.scrollHorizontal delta
    | resetScroll => exact (startsAt_resetScroll hbefore).withinLines

/-- **The view is within the lines after all changes.**  Lines that were removed again do not
count, however many they were. -/
theorem withinLines_run (height : Nat) {changes : List Change}
    (hproper : ∀ change ∈ changes, change.IsProper)
    (hsize : (run height changes).size < Binary32.exactBound) :
    (run height changes).WithinLines := by
  induction changes using List.reverseRecOn with
  | nil => exact (startsAt_ofHeight height).withinLines
  | append_singleton changes change ih =>
    rw [run_snoc] at hsize ⊢
    have hlast : change.IsProper := hproper change List.mem_concat_self
    have hbefore : ∀ earlier ∈ changes, earlier.IsProper := fun earlier hmem =>
      hproper earlier (List.mem_append_left _ hmem)
    exact withinLines_apply hlast (ih hbefore) hsize

theorem zero_le_scrollX_apply (change : Change) (h : Binary32.zero.le s.scrollX = true) :
    Binary32.zero.le (change.apply s).scrollX = true := by
  cases change with
  | append text color => exact h
  | clear => rfl
  | scrollVertical delta => exact h
  | scrollHorizontal delta => exact Binary32.zero_le_atLeastZero (s.scrollX - delta)
  | resetScroll => rfl

/-- The view is never left of the first column. -/
theorem zero_le_scrollX_run (height : Nat) (changes : List Change) :
    Binary32.zero.le (run height changes).scrollX = true := by
  induction changes using List.reverseRecOn with
  | nil => rfl
  | append_singleton changes change ih =>
    rw [run_snoc]
    exact zero_le_scrollX_apply change ih

theorem maxVisible_apply (change : Change) (s : Scrollback) :
    (change.apply s).maxVisible = s.maxVisible := by
  cases s
  cases change <;> rfl

theorem maxVisible_run (height : Nat) (changes : List Change) :
    (run height changes).maxVisible = max height 1 := by
  induction changes using List.reverseRecOn with
  | nil => rfl
  | append_singleton changes change ih => rw [run_snoc, maxVisible_apply, ih]

/-! ## The window on the lines -/

/-- The bounds are in order, and what is in view is the slice of the lines between them. -/
structure IsWindow (s : Scrollback) (start stop : Nat) : Prop where
  start_le_stop : start ≤ stop
  stop_le_size : stop ≤ s.size
  visible_eq : s.visible = (s.lines.extract start stop).toList
  length_le : s.visible.length ≤ s.maxVisible
  ne_nil : s.size ≠ 0 → s.visible ≠ []

theorem isWindow_firstVisible (hfirst : s.firstVisible ≤ s.size - 1) :
    s.IsWindow s.firstVisible (min (s.firstVisible + s.maxVisible) s.size) := by
  have hpos := s.maxVisible_pos
  have hlength := length_visible s
  refine ⟨by omega, Nat.min_le_right _ _, ?_, by omega, fun hsome hnil => ?_⟩
  · rw [visible, Array.toList_extract, List.extract_eq_take_drop, List.take_eq_take_iff,
      List.length_drop, Array.length_toList, ← size]
    omega
  · rw [hnil, List.length_nil] at hlength
    omega

/-- The first line in view is the one that the view starts at or within. -/
theorem firstVisible_of_position? {w : Nat} (hw : s.scrollY.position? = some (w : Int))
    (hbound : w ≤ (s.size - 1) * Binary32.unitsPerOne)
    (hwidth : w < 2 ^ Format.binary32.width) :
    s.firstVisible = w / Binary32.unitsPerOne ∧ w / Binary32.unitsPerOne ≤ s.size - 1 := by
  have hlast : w / Binary32.unitsPerOne ≤ s.size - 1 :=
    Nat.div_le_of_le_mul (Nat.mul_comm _ _ ▸ hbound)
  refine ⟨?_, hlast⟩
  rw [Scrollback.firstVisible, Binary32.wholeUpTo_of_position? hw hwidth]
  omega

/-- **A view within the lines is a window on them** that starts at the whole part of its
offset. -/
theorem WithinLines.window (h : s.WithinLines) (hsize : s.size < Binary32.exactBound) :
    ∃ y : ℚ, s.scrollY.value? = some y ∧ 0 ≤ y ∧ y ≤ (s.size - 1 : Nat) ∧
      ⌊y⌋₊ ≤ s.size - 1 ∧ s.IsWindow ⌊y⌋₊ (min (⌊y⌋₊ + s.maxVisible) s.size) := by
  obtain ⟨w, hw, hbound⟩ := h
  have hwidth := units_lt_width hbound hsize
  have hone : (0 : ℚ) < Binary32.unitsPerOne := Nat.cast_pos.2 Binary32.unitsPerOne_pos
  have hupper : (w : ℚ) / Binary32.unitsPerOne ≤ (s.size - 1 : Nat) := by
    rw [div_le_iff₀ hone]
    exact_mod_cast hbound
  have hfloor : ⌊(w : ℚ) / Binary32.unitsPerOne⌋₊ = w / Binary32.unitsPerOne :=
    Nat.floor_div_eq_div w _
  obtain ⟨hfirst, hlast⟩ := firstVisible_of_position? hw hbound hwidth
  refine ⟨(w : ℚ) / Binary32.unitsPerOne, ?_, by positivity, hupper, ?_⟩
  · rw [Binary32.value?_of_position? hw hwidth, Int.cast_natCast]
  · rw [hfloor, ← hfirst]
    rw [← hfirst] at hlast
    exact ⟨hlast, isWindow_firstVisible hlast⟩

/-- **After the view was reset it is exactly the newest lines.** -/
theorem visible_resetScroll (hsize : s.size < Binary32.exactBound) :
    s.resetScroll.visible = s.lines.toList.drop (s.size - min s.size s.maxVisible) := by
  have hmax : s.resetScroll.maxVisible = s.maxVisible := by cases s; rfl
  have hfirst : s.resetScroll.firstVisible = s.size - s.maxVisible :=
    (startsAt_resetScroll hsize).firstVisible (by rwa [size_resetScroll])
  rw [visible, hfirst, hmax, lines_resetScroll, List.take_of_length_le]
  · congr 1
    omega
  · rw [List.length_drop, Array.length_toList, ← size]
    omega

/-- **The view stays within the lines.**  Take any empty scrollback and any changes to it, with
moves of any size, that leave fewer than `2 ^ 24` lines.  The offset of the view is a number from
zero to the index of the last line, and its columns start at zero or after.  What is in view is a
slice of the lines that starts at the whole part of the offset, whose bounds are in order and small
enough to be computed; it is not empty unless there are no lines.  After a reset it is exactly the
newest lines, as many as there are or as fit. -/
theorem run_within_lines (height : Nat) (hheight : height < 2 ^ 63) (changes : List Change)
    (hproper : ∀ change ∈ changes, change.IsProper)
    (hsize : (run height changes).size < Binary32.exactBound) :
    let s := run height changes
    s.maxVisible = max height 1 ∧ Binary32.zero.le s.scrollX = true ∧
      (∃ y : ℚ, s.scrollY.value? = some y ∧ 0 ≤ y ∧ y ≤ (s.size - 1 : Nat) ∧
        ⌊y⌋₊ + s.maxVisible < 2 ^ 64 ∧
        s.IsWindow ⌊y⌋₊ (min (⌊y⌋₊ + s.maxVisible) s.size)) ∧
      s.resetScroll.visible = s.lines.toList.drop (s.size - min s.size s.maxVisible) := by
  intro s
  have hmax : s.maxVisible = max height 1 := maxVisible_run height changes
  have hwithin : s.WithinLines := withinLines_run height hproper hsize
  obtain ⟨y, hvalue, hlower, hupper, hfirst, hwindow⟩ := hwithin.window hsize
  have hcomputed : ⌊y⌋₊ + s.maxVisible < 2 ^ 64 := by
    have hexact : Binary32.exactBound < 2 ^ 63 := by decide
    have hcount : s.size < Binary32.exactBound := hsize
    omega
  refine ⟨hmax, zero_le_scrollX_run height changes, ?_, visible_resetScroll hsize⟩
  exact ⟨y, hvalue, hlower, hupper, hcomputed, hwindow⟩

/-- A view of two lines is taken down by one and a half.  It starts within the second of three
lines, and shows the second and the third one, before and after a reset. -/
theorem run_within_lines_half :
    let changes : List Change :=
      [.append "one\ntwo\nthree" .white, .scrollVertical (-.ofFraction 3 2)]
    let s := run 2 changes
    s.size = 3 ∧ s.scrollY = .ofFraction 3 2 ∧
      (∃ y : ℚ, s.scrollY.value? = some y ∧ 0 ≤ y ∧ y ≤ (s.size - 1 : Nat) ∧
        s.IsWindow ⌊y⌋₊ (min (⌊y⌋₊ + s.maxVisible) s.size)) ∧
      s.visible.map Line.text = ["two", "three"] ∧
      s.resetScroll.visible.map Line.text = ["two", "three"] := by
  intro changes s
  have hproper : ∀ change ∈ changes, change.IsProper := by
    intro change hmem
    obtain rfl | hmem := List.mem_cons.1 hmem
    · exact trivial
    · rw [List.mem_singleton.1 hmem]
      show -Binary32.ofFraction 3 2 ≠ .nan
      decide +kernel
  have hsize : s.size < Binary32.exactBound := by decide +kernel
  obtain ⟨-, -, ⟨y, hvalue, hlower, hupper, -, hwindow⟩, hreset⟩ :=
    run_within_lines 2 (by decide) changes hproper hsize
  have hnewest : s.resetScroll.visible.map Line.text = ["two", "three"] := by
    rw [hreset]
    decide +kernel
  exact ⟨by decide +kernel, by decide +kernel, ⟨y, hvalue, hlower, hupper, hwindow⟩,
    by decide +kernel, hnewest⟩

end Scrollback

end DevConsole
