import DevConsole.Proofs.IndexedLine

/-! # The walk through the submitted lines

The keys up and down go from one submitted line to the next one.  The first press is taken because
the line is empty; the ones after it find a submitted line there, which is not empty, and are taken
only because of the mark that the first one left.  So every press keeps what lets the next one be
taken (`canBrowse_walk`), and a press that is taken is a step between two walls
(`apply_stride`): the empty line before all submitted ones, and the oldest one.

A step at a wall is not counted.  However often up is pressed at the oldest line, the next press of
down leaves it.  That shows in the position after presses of up and then of down
(`position_ups_downs`).
-/
namespace DevConsole.Editor

variable {e : Editor}

/-- One of the two keys that walk through the submitted lines. -/
inductive Arrow where
  | up
  | down
deriving DecidableEq

namespace Arrow

/-- The key. -/
def key : Arrow → Key
  | up => .up
  | down => .down

/-- By how much the key changes the position where nothing is in its way. -/
def shift : Arrow → Int
  | up => 1
  | down => -1

/-- The position after the key, among so many submitted lines. -/
def next (lines position : Nat) : Arrow → Nat
  | up => min (position + 1) lines
  | down => min (position - 1) lines

/-- **The key takes the position to the next one, or to where the walls let it.** -/
theorem next_eq (lines position : Nat) (a : Arrow) :
    (a.next lines position : Int) = max 0 (min (position + a.shift) lines) := by
  cases a with
  | up =>
    rw [next, shift]
    omega
  | down =>
    rw [next, shift]
    omega

theorem next_le (lines position : Nat) (a : Arrow) : a.next lines position ≤ lines := by
  cases a with
  | up | down => exact Nat.min_le_right _ _

end Arrow

/-- A press of one of the two keys: what is held with it, and what the clipboard holds then. -/
structure Stride where
  /-- The key. -/
  arrow : Arrow
  /-- The modifiers that are held with it. -/
  modifiers : Modifiers := {}
  /-- What the clipboard holds. -/
  clipboard : String := ""

/-- The press as an input. -/
def Stride.input (s : Stride) : Input := .key s.arrow.key s.modifiers s.clipboard

/-- The line after some presses, the first one first. -/
def walk (strides : List Stride) (e : Editor) : Editor := applyAll (strides.map Stride.input) e

@[simp] theorem walk_nil (e : Editor) : walk [] e = e := rfl

theorem walk_append (strides more : List Stride) (e : Editor) :
    walk (strides ++ more) e = walk more (walk strides e) := by
  rw [walk, List.map_append, applyAll_append]
  rfl

@[simp] theorem walk_cons (s : Stride) (strides : List Stride) (e : Editor) :
    walk (s :: strides) e = walk strides (s.input.apply e) := rfl

/-! ## One press -/

theorem canBrowse_iff : e.canBrowse = true ↔ e.isBrowsing = true ∨ e.text = "" := by
  rw [canBrowse, Bool.or_eq_true, ← Indexed.isEmpty_chars, List.isEmpty_iff, text,
    String.ofList_eq_empty_iff]

/-- **A press that is taken selects the next position.** -/
theorem apply_stride (s : Stride) (h : e.canBrowse = true) :
    s.input.apply e = e.select (s.arrow.next e.history.length e.position) := by
  obtain ⟨arrow, m, clipboard⟩ := s
  cases arrow with
  | up | down => exact if_pos h

/-- The line shows the submitted line at its position, with the cursor at the end. -/
structure Selected (history : List String) (e : Editor) : Prop where
  browsing : e.isBrowsing = true
  empty : e.position = 0 → e.text = ""
  line : ∀ n, e.position = n + 1 → history[n]? = some e.text
  cursor : e.cursor = e.chars.length
  history : e.history = history

theorem selected_select {n : Nat} (h : n ≤ e.history.length) :
    (e.select n).Selected e.history := by
  have hposition : (e.select n).position = n := rfl
  have hline : Indexed.lineAt? e.history n = some (e.select n).text := by
    rw [text_select]
    exact Indexed.lineAt?_eq h
  refine ⟨rfl, fun hzero => ?_, fun k hk => ?_, ?_, rfl⟩
  · rw [text_select, ← hposition, hzero]
    rfl
  · rw [← hline, ← hposition, hk]
    rfl
  · rw [Indexed.length_chars]
    rfl

/-! ## Any presses -/

/-- **Presses keep what lets the next one be taken**, and the submitted lines. -/
theorem canBrowse_walk (h : e.canBrowse = true) (strides : List Stride) :
    (walk strides e).canBrowse = true ∧ (walk strides e).history = e.history := by
  induction strides generalizing e with
  | nil => exact ⟨h, rfl⟩
  | cons s strides ih =>
    rw [walk_cons, apply_stride s h]
    -- The selected line is browsing, whatever stands in it.
    exact ih (e := e.select _) rfl

/-- After presses there is one more, which selects the next position. -/
theorem walk_snoc (h : e.canBrowse = true) (strides : List Stride) (s : Stride) :
    walk (strides ++ [s]) e =
      (walk strides e).select (s.arrow.next e.history.length (walk strides e).position) := by
  obtain ⟨hcan, hhistory⟩ := canBrowse_walk h strides
  rw [walk_append, walk_cons, walk_nil, apply_stride s hcan, hhistory]

/-- Presses of one key take the position as far as the wall. -/
theorem position_walk {a : Arrow} {strides : List Stride} (hall : ∀ s ∈ strides, s.arrow = a)
    (h : e.canBrowse = true) (hle : e.position ≤ e.history.length) :
    ((walk strides e).position : Int) =
      max 0 (min (e.position + strides.length * a.shift) e.history.length) := by
  induction strides using List.reverseRecOn with
  | nil =>
    rw [walk_nil, List.length_nil]
    omega
  | append_singleton strides s ih =>
    have hlast : s.arrow = a := hall s (List.mem_append_right _ (List.mem_singleton_self s))
    have hbefore := ih fun t ht => hall t (List.mem_append_left _ ht)
    have hposition : ((walk (strides ++ [s]) e).position : Int) =
        max 0 (min ((walk strides e).position + a.shift) e.history.length) := by
      rw [walk_snoc h, hlast]
      exact Arrow.next_eq _ _ _
    rw [hposition, hbefore, List.length_append, List.length_singleton]
    -- In one direction it makes no difference that the position stopped at the wall before.
    cases a with
    | up | down =>
      rw [Arrow.shift]
      omega

/-- Up goes back as far as there are lines, and down comes back from there. -/
theorem position_ups_downs {ups downs : List Stride} (hups : ∀ s ∈ ups, s.arrow = .up)
    (hdowns : ∀ s ∈ downs, s.arrow = .down) (h : e.canBrowse = true) (hzero : e.position = 0) :
    ((walk (ups ++ downs) e).position : Int) =
      max 0 (min (ups.length : Int) e.history.length - downs.length) := by
  obtain ⟨hcan, hhistory⟩ := canBrowse_walk h ups
  have hback := position_walk hups h (hzero ▸ Nat.zero_le _)
  rw [hzero, Arrow.shift] at hback
  have hle : (walk ups e).position ≤ (walk ups e).history.length := by
    rw [hhistory]
    omega
  rw [walk_append, position_walk hdowns hcan hle, hhistory, hback, Arrow.shift]
  omega

/-- **Up and down walk through the submitted lines between two walls.**  Take any line that is
browsing or has no text, and any presses of the two keys, with whatever modifiers and whatever in
the clipboard.  After each press the line is browsing.  Its position is the one before, plus one
after up and minus one after down, clamped to the number of the submitted lines.  The line is empty
at position zero, and elsewhere it is the submitted line at the position, which is there; the cursor
is at its end.  The submitted lines stay as they are.  In particular some presses of up and then
some of down, from an empty line that is not browsing, take the position as far back as there are
lines and from there towards zero. -/
theorem history_walk (e : Editor) (h : e.isBrowsing = true ∨ e.text = "") :
    (∀ (strides : List Stride) (s : Stride),
      let before := walk strides e
      let after := walk (strides ++ [s]) e
      after.isBrowsing = true ∧
      (after.position : Int) = max 0 (min (before.position + s.arrow.shift) e.history.length) ∧
      ((after.position = 0 → after.text = "") ∧
        ∀ n, after.position = n + 1 → e.history[n]? = some after.text) ∧
      after.cursor = after.chars.length ∧ after.history = e.history) ∧
    (e.isBrowsing = false → ∀ ups downs : List Stride,
      (∀ s ∈ ups, s.arrow = .up) → (∀ s ∈ downs, s.arrow = .down) →
      ((walk (ups ++ downs) e).position : Int) =
        max 0 (min (ups.length : Int) e.history.length - downs.length)) := by
  have hcan : e.canBrowse = true := canBrowse_iff.2 h
  refine ⟨fun strides s => ?_, fun hidle ups downs hups hdowns => ?_⟩
  · intro before after
    have hafter : after =
        before.select (s.arrow.next e.history.length before.position) := walk_snoc hcan strides s
    have hhistory : before.history = e.history := (canBrowse_walk hcan strides).2
    have hselected : after.Selected e.history := by
      rw [hafter, ← hhistory]
      exact selected_select (Arrow.next_le _ _ _)
    have hposition : after.position = s.arrow.next e.history.length before.position := by
      rw [hafter]
      rfl
    refine ⟨hselected.browsing, ?_, ⟨hselected.empty, hselected.line⟩, hselected.cursor,
      hselected.history⟩
    rw [hposition]
    exact Arrow.next_eq _ _ _
  · have hzero : e.position = 0 := by
      rw [position, Option.not_isSome_iff_eq_none.1 (Bool.eq_false_iff.1 hidle)]
      rfl
    exact position_ups_downs hups hdowns hcan hzero

/-- With two submitted lines, three presses of up and one of down end at the newer line: the third
press of up is not counted. -/
theorem history_walk_past_oldest :
    let e : Editor := { history := ["new", "old"], period := .ofNat 1 }
    let ups : List Stride := [⟨.up, { shift := true }, ""⟩, ⟨.up, {}, "x"⟩, ⟨.up, {}, ""⟩]
    let down : Stride := ⟨.down, { control := true }, ""⟩
    let after := walk (ups ++ [down]) e
    (e.text = "" ∧ e.isBrowsing = false ∧ (∀ s ∈ ups, s.arrow = .up)) ∧
    (after.isBrowsing = true ∧ (after.position : Int) = 1 ∧ e.history[0]? = some after.text ∧
      after.text = "new" ∧ after.cursor = after.chars.length) := by
  intro e ups down after
  have hempty : e.text = "" := by decide
  have hups : ∀ s ∈ ups, s.arrow = .up := by decide
  obtain ⟨hpress, hback⟩ := history_walk e (.inr hempty)
  obtain ⟨hbrowsing, -, ⟨-, hline⟩, hcursor, -⟩ := hpress ups down
  have hposition : (after.position : Int) = 1 :=
    hback rfl ups [down] hups (List.forall_mem_singleton.2 rfl)
  have hshown : e.history[0]? = some after.text := hline 0 (Int.ofNat.inj hposition)
  exact ⟨⟨hempty, rfl, hups⟩, hbrowsing, hposition, hshown, (Option.some.inj hshown).symm, hcursor⟩

end DevConsole.Editor
