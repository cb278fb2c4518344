import DevConsole.Console
import DevConsole.Proofs.WholeNumbers
import Mathlib.Data.List.Induction

/-! # The newest line and the view

Lines that are added should move the view along as long as it shows the newest line.  It moves
when its offset is exactly that of the newest screenful.  So the newest line stays in view when
the view ends with it, and also when the view has room left for all the new lines.  It is lost in
the case between the two, when the view has room left but not for all of them (`Overfills`); that
takes a text of more than one line.

Offsets are floating-point numbers, but below `2 ^ 24` lines they are the whole numbers that they
stand for (`StartsAt`), so the view can be spoken of in natural numbers.  Everything that happens
to a scrollback keeps this (`Reached.aligned`).  It decides a single addition
(`Aligned.showsNewest_append_iff`), and one after the other all events of a command
(`Aligned.showsNewest_receiveAll_iff`).
-/
namespace DevConsole

namespace Scrollback

variable {s : Scrollback} {n : Nat}

/-! ## What is in view -/

/-- The line at an index is among those in view. -/
def IsInView (s : Scrollback) (i : Nat) : Prop :=
  s.firstVisible ≤ i ∧ i < s.firstVisible + s.visible.length

instance (s : Scrollback) (i : Nat) : Decidable (s.IsInView i) :=
  inferInstanceAs (Decidable (_ ∧ _))

/-- The newest line is in view, or there are no lines. -/
def ShowsNewest (s : Scrollback) : Prop := s.size = 0 ∨ s.IsInView (s.size - 1)

instance (s : Scrollback) : Decidable s.ShowsNewest :=
  inferInstanceAs (Decidable (_ ∨ _))

/-- The view has room left, but not for all lines of a text. -/
def Overfills (s : Scrollback) (text : String) : Prop :=
  s.size < s.firstVisible + s.maxVisible ∧
    s.firstVisible + s.maxVisible < s.size + (Text.pieces text).length

instance (s : Scrollback) (text : String) : Decidable (s.Overfills text) :=
  inferInstanceAs (Decidable (_ ∧ _))

theorem length_visible (s : Scrollback) :
    s.visible.length = min s.maxVisible (s.size - s.firstVisible) := by
  rw [visible, List.length_take, List.length_drop, Array.length_toList, size]

/-- A line in view is the one that the view has at its place. -/
theorem getElem?_visible {i : Nat} (h : s.IsInView i) :
    s.visible[i - s.firstVisible]? = s.lines[i]? := by
  obtain ⟨hfirst, hlast⟩ := h
  have hlt : i - s.firstVisible < s.maxVisible := by
    have hle : s.visible.length ≤ s.maxVisible := List.length_take_le _ _
    omega
  rw [visible, List.getElem?_take_of_lt hlt, List.getElem?_drop, Array.getElem?_toList]
  congr 1
  omega

/-! ## Views that start at a line -/

/-- The view starts at line `n`, which is there unless there are no lines at all. -/
structure StartsAt (s : Scrollback) (n : Nat) : Prop where
  offset : s.scrollY.StandsAt n
  bound : n ≤ s.size - 1

theorem size_append (text : String) (color : Color) (s : Scrollback) :
    (append text color s).size = s.size + (Text.pieces text).length := by
  rw [size, ← Array.length_toList, toList_append, List.length_append, Line.ofText, List.length_map,
    Array.length_toList, size]

@[simp] theorem size_scrollVertical (delta : Binary32) (s : Scrollback) :
    (s.scrollVertical delta).size = s.size :=
  congrArg Array.size (lines_scrollVertical delta s)

@[simp] theorem size_scrollHorizontal (delta : Binary32) (s : Scrollback) :
    (s.scrollHorizontal delta).size = s.size :=
  congrArg Array.size (lines_scrollHorizontal delta s)

@[simp] theorem size_resetScroll (s : Scrollback) : s.resetScroll.size = s.size :=
  congrArg Array.size (lines_resetScroll s)

@[simp] theorem maxVisible_append (text : String) (color : Color) (s : Scrollback) :
    (append text color s).maxVisible = s.maxVisible := rfl

theorem StartsAt.firstVisible (h : s.StartsAt n) (hsize : s.size < Binary32.exactBound) :
    s.firstVisible = n := by
  have hbound := h.bound
  rw [Scrollback.firstVisible, h.offset.wholeUpTo (by omega)]
  omega

/-- The newest line is in view when the view reaches it. -/
theorem StartsAt.showsNewest_iff (h : s.StartsAt n) (hsize : s.size < Binary32.exactBound) :
    s.ShowsNewest ↔ s.size ≤ n + s.maxVisible := by
  have hbound := h.bound
  have hpos := s.maxVisible_pos
  rw [ShowsNewest, IsInView, length_visible, h.firstVisible hsize]
  omega

/-- The offset of the newest screenful, while there is one. -/
theorem standsAt_newestOffset (hsize : s.size < Binary32.exactBound) (h : s.maxVisible ≤ s.size) :
    s.newestOffset.StandsAt ((s.size - s.maxVisible : Nat) : Int) := by
  have hmax : s.maxVisible < Binary32.exactBound := by omega
  have hsub := (Binary32.standsAt_ofNat hsize).sub (Binary32.standsAt_ofNat hmax)
    (by omega) (by omega) (by omega)
  rw [Int.ofNat_sub h]
  exact hsub

/-- **The view moves along when it ends with the newest line.** -/
theorem StartsAt.isPinned (h : s.StartsAt n) (hsize : s.size < Binary32.exactBound) :
    s.isPinned = decide (n + s.maxVisible = s.size) := by
  unfold Scrollback.isPinned
  obtain hroom | hfull := Nat.lt_or_ge s.size s.maxVisible
  · have hnegative : s.newestOffset.IsNegative := Binary32.isNegative_sub_ofNat hroom hsize
    rw [decide_eq_false (by omega)]
    exact h.offset.equal_negative hnegative
  · rw [h.offset.equal (standsAt_newestOffset hsize hfull)]
    exact decide_eq_decide.2 (by omega)

/-! ## What keeps a view at a line -/

theorem startsAt_ofHeight (height : Nat) : (ofHeight height).StartsAt 0 :=
  ⟨Binary32.standsAt_zero, Nat.zero_le _⟩

theorem startsAt_clear (s : Scrollback) : s.clear.StartsAt 0 :=
  ⟨Binary32.standsAt_zero, Nat.zero_le _⟩

theorem StartsAt.append (h : s.StartsAt n) {text : String} {color : Color}
    (hsize : (s.append text color).size < Binary32.exactBound) :
    (s.append text color).StartsAt
      (if n + s.maxVisible = s.size then n + (Text.pieces text).length else n) := by
  have hadded := size_append text color s
  have hbound := h.bound
  have hpos := s.maxVisible_pos
  have hpinned := h.isPinned (by omega)
  have hscroll : (s.append text color).scrollY =
      if s.isPinned then s.scrollY + .ofNat (Line.ofText text color).length else s.scrollY := rfl
  have hlength : (Line.ofText text color).length = (Text.pieces text).length := List.length_map _
  by_cases hend : n + s.maxVisible = s.size
  · rw [if_pos hend]
    rw [hpinned, if_pos (decide_eq_true hend), hlength] at hscroll
    refine ⟨?_, by omega⟩
    have hcount := Binary32.standsAt_ofNat (n := (Text.pieces text).length) (by omega)
    rw [hscroll, Int.natCast_add]
    exact h.offset.add hcount (by omega) (by omega) (by omega)
  · rw [if_neg hend]
    rw [hpinned, if_neg (by simpa using hend)] at hscroll
    refine ⟨?_, by omega⟩
    rw [hscroll]
    exact h.offset

/-- The first line of the newest screenful, or the first of all lines. -/
theorem startsAt_resetScroll (hsize : s.size < Binary32.exactBound) :
    s.resetScroll.StartsAt (s.size - s.maxVisible) := by
  have hpos := s.maxVisible_pos
  have hlast : s.lastOffset.StandsAt ((s.size - 1 : Nat) : Int) :=
    Binary32.standsAt_ofNat (by omega)
  refine ⟨?_, by rw [size_resetScroll]; omega⟩
  show (s.newestOffset.clamp .zero s.lastOffset).StandsAt _
  obtain hroom | hfull := Nat.lt_or_ge s.size s.maxVisible
  · -- With less than a screenful the offset would be negative.
    have hnegative : s.newestOffset.IsNegative := Binary32.isNegative_sub_ofNat hroom hsize
    rw [Binary32.clamp, if_pos hnegative.lt_zero, Nat.sub_eq_zero_of_le (Nat.le_of_lt hroom)]
    exact Binary32.standsAt_zero
  · have hclamp := (standsAt_newestOffset hsize hfull).clamp Binary32.standsAt_zero hlast (by omega)
    rwa [show max 0 (min ((s.size - s.maxVisible : Nat) : Int) (s.size - 1 : Nat)) =
      ((s.size - s.maxVisible : Nat) : Int) by omega] at hclamp

theorem StartsAt.scrollVertical (h : s.StartsAt n) (hsize : s.size < Binary32.exactBound)
    {delta : Binary32} (hdelta : delta.IsWhole) : ∃ m, (s.scrollVertical delta).StartsAt m := by
  have hbound := h.bound
  have hlast : s.lastOffset.StandsAt ((s.size - 1 : Nat) : Int) :=
    Binary32.standsAt_ofNat (by omega)
  obtain ⟨k, hk⟩ := h.offset.isWhole_sub (by omega) hdelta
  have hclamp := hk.clamp Binary32.standsAt_zero hlast (by omega)
  refine ⟨(max 0 (min k (s.size - 1 : Nat))).toNat, ?_, ?_⟩
  · rw [Int.toNat_of_nonneg (by omega)]
    exact hclamp
  · rw [size_scrollVertical]
    omega

theorem StartsAt.scrollHorizontal (h : s.StartsAt n) (delta : Binary32) :
    (s.scrollHorizontal delta).StartsAt n := by
  refine ⟨h.offset, ?_⟩
  rw [size_scrollHorizontal]
  exact h.bound

/-! ## Scrollbacks that can come up -/

/-- What comes of an empty scrollback by adding and removing lines, and by moving the view up and
down by whole lines. -/
inductive Reached (height : Nat) : Scrollback → Prop
  | start : Reached height (ofHeight height)
  | append {s : Scrollback} (text : String) (color : Color) (reached : Reached height s) :
    Reached height (s.append text color)
  | clear {s : Scrollback} (reached : Reached height s) : Reached height s.clear
  | scrollVertical {s : Scrollback} {delta : Binary32} (whole : delta.IsWhole)
    (reached : Reached height s) : Reached height (s.scrollVertical delta)
  | scrollHorizontal {s : Scrollback} (delta : Binary32) (reached : Reached height s) :
    Reached height (s.scrollHorizontal delta)
  | resetScroll {s : Scrollback} (reached : Reached height s) : Reached height s.resetScroll

/-- The view starts at a line, as long as there are not too many lines to count. -/
def Aligned (s : Scrollback) : Prop := s.size < Binary32.exactBound → ∃ n, s.StartsAt n

theorem Aligned.append (h : s.Aligned) (text : String) (color : Color) :
    (s.append text color).Aligned := by
  intro hsize
  have hadded := size_append text color s
  obtain ⟨n, hn⟩ := h (by omega)
  exact ⟨_, hn.append hsize⟩

theorem aligned_clear (s : Scrollback) : s.clear.Aligned := fun _ => ⟨0, startsAt_clear s⟩

theorem aligned_resetScroll (s : Scrollback) : s.resetScroll.Aligned := by
  intro hsize
  rw [size_resetScroll] at hsize
  exact ⟨_, startsAt_resetScroll hsize⟩

/-- **Every scrollback that can come up has a view that starts at a line.** -/
theorem Reached.aligned {height : Nat} (h : Reached height s) : s.Aligned := by
  induction h with
  | start => exact fun _ => ⟨0, startsAt_ofHeight height⟩
  | append text color _ ih => exact ih.append text color
  | clear => exact aligned_clear _
  | scrollVertical hwhole _ ih =>
    intro hsize
    rw [size_scrollVertical] at hsize
    obtain ⟨n, hn⟩ := ih hsize
    exact hn.scrollVertical hsize hwhole
  | scrollHorizontal delta _ ih =>
    intro hsize
    rw [size_scrollHorizontal] at hsize
    obtain ⟨n, hn⟩ := ih hsize
    exact ⟨n, hn.scrollHorizontal delta⟩
  | resetScroll => exact aligned_resetScroll _

/-! ## Adding a text -/

/-- **The newest line is in view after a text is added exactly when it was before, unless the text
overfills the view.** -/
theorem Aligned.showsNewest_append_iff (h : s.Aligned) {text : String} {color : Color}
    (hsize : (s.append text color).size < Binary32.exactBound) :
    (s.append text color).ShowsNewest ↔ s.ShowsNewest ∧ ¬ s.Overfills text := by
  have hadded := size_append text color s
  have hmax := maxVisible_append text color s
  obtain ⟨n, hn⟩ := h (by omega)
  -- The view starts at line `n` before, and there or so many lines further on afterwards.
  rw [(hn.append hsize).showsNewest_iff hsize, hn.showsNewest_iff (by omega), Overfills,
    hn.firstVisible (by omega), hmax, hadded]
  split <;> omega

/-- A text of one line finds the room that there is. -/
theorem not_overfills_of_single {text : String} (h : (Text.pieces text).length = 1) :
    ¬ s.Overfills text := by
  intro hover
  obtain ⟨hroom, hmore⟩ := hover
  omega

theorem showsNewest_resetScroll (hsize : s.size < Binary32.exactBound) :
    s.resetScroll.ShowsNewest := by
  have hmax : s.resetScroll.maxVisible = s.maxVisible := by cases s; rfl
  have hreset := (startsAt_resetScroll hsize).showsNewest_iff (by rwa [size_resetScroll])
  rw [hreset, size_resetScroll, hmax]
  omega

/-! ## The events of a command -/

/-- In a trace a text overfilled the view, and the lines have not been removed since. -/
inductive Lost (s : Scrollback) : List Event → Prop
  | append {trace : List Event} {text : String} {color : Color}
    (overfills : (Sink.receiveAll s trace).Overfills text) :
    Lost s (trace ++ [.appended text color])
  | keep {trace : List Event} {event : Event} (lost : Lost s trace) (kept : event ≠ .cleared) :
    Lost s (trace ++ [event])

theorem not_lost_nil : ¬ Lost s [] := by
  intro h
  generalize hnil : ([] : List Event) = trace at h
  cases h <;> simp at hnil

theorem lost_snoc_iff {trace : List Event} {event : Event} :
    Lost s (trace ++ [event]) ↔
      (Lost s trace ∧ event ≠ .cleared) ∨
        ∃ text color, event = .appended text color ∧ (Sink.receiveAll s trace).Overfills text := by
  constructor
  · intro h
    generalize hsnoc : trace ++ [event] = all at h
    cases h with
    | @append before text color hover =>
      obtain ⟨rfl, hlast⟩ := List.append_inj' hsnoc rfl
      cases hlast
      exact .inr ⟨text, color, rfl, hover⟩
    | @keep before last hlost hkept =>
      obtain ⟨rfl, hlast⟩ := List.append_inj' hsnoc rfl
      cases hlast
      exact .inl ⟨hlost, hkept⟩
  · rintro (⟨hlost, hkept⟩ | ⟨text, color, rfl, hover⟩)
    · exact .keep hlost hkept
    · exact .append hover

theorem Aligned.receive (h : s.Aligned) (event : Event) : (Sink.receive s event).Aligned := by
  cases event with
  | appended text color => exact h.append text color
  | cleared => exact aligned_clear s
  | noted | invoked | opened => exact h

theorem Aligned.receiveAll (h : s.Aligned) (trace : List Event) :
    (Sink.receiveAll s trace).Aligned := by
  induction trace generalizing s with
  | nil => exact h
  | cons event trace ih => exact ih (h.receive event)

/-- **After all events the newest line is in view, unless it was lost.** -/
theorem Aligned.showsNewest_receiveAll_iff (h : s.Aligned)
    (hnewest : s.size < Binary32.exactBound → s.ShowsNewest) (trace : List Event)
    (hsize : (Sink.receiveAll s trace).size < Binary32.exactBound) :
    (Sink.receiveAll s trace).ShowsNewest ↔ ¬ Lost s trace := by
  induction trace using List.reverseRecOn with
  | nil => exact iff_of_true (hnewest hsize) not_lost_nil
  | append_singleton trace event ih =>
    rw [Sink.receiveAll_append] at hsize ⊢
    rw [lost_snoc_iff]
    generalize hbefore : Sink.receiveAll s trace = t at hsize ih ⊢
    -- An addition may lose the newest line, a removal makes up for it, and the rest does nothing.
    cases event with
    | appended text color =>
      have hadded := size_append text color t
      have hsize' : (t.append text color).size < Binary32.exactBound := hsize
      have haligned : t.Aligned := hbefore ▸ h.receiveAll trace
      have happend := haligned.showsNewest_append_iff hsize'
      rw [ih (by omega)] at happend
      show (t.append text color).ShowsNewest ↔ _
      rw [happend]
      simp
    | cleared =>
      have hempty : t.clear.ShowsNewest := .inl rfl
      exact iff_of_true hempty (by simp)
    | noted | invoked | opened =>
      show t.ShowsNewest ↔ _
      rw [ih hsize]
      simp

end Scrollback

/-! ## Submitting a line -/

namespace Console

variable {Host : Type}

/-- The events of the echo of a line. -/
def echoed (line : String) : List Event :=
  .appended ("> " ++ line) .gray :: (Scrollback.echo ("> " ++ line)).map .noted

/-- The scrollback after the echo of a line, with the view taken to it. -/
def afterEcho (c : Console Host) (line : String) : Scrollback :=
  (c.scrollback.append ("> " ++ line) .gray).resetScroll

/-- What follows the echo of a submitted line is taken in by the scrollback after it. -/
theorem exists_events_submit (c : Console Host) (line : String) :
    ∃ events, (c.submit line).2 = echoed line ++ events ∧
      (c.submit line).1.scrollback = Sink.receiveAll (c.afterEcho line) events := by
  have hecho : Sink.receiveAll c.env.out (echoed line) = c.env.out.append ("> " ++ line) .gray := by
    rw [echoed, Sink.receiveAll_cons, Sink.receiveAll_noted]
    rfl
  unfold submit
  simp only [perform_eq]
  split
  · exact ⟨[], (List.append_nil _).symm, congrArg Scrollback.resetScroll hecho⟩
  · refine ⟨_, List.append_assoc _ _ _, ?_⟩
    rw [Sink.receiveAll_append]
    have hafter : Scrollback.resetScroll (Sink.receiveAll c.env.out (echoed line)) =
        c.afterEcho line := congrArg Scrollback.resetScroll hecho
    rw [← hafter]
    rfl

/-- The echo is in view when the command starts to run. -/
theorem showsNewest_afterEcho (c : Console Host) (line : String)
    (hsize : (c.afterEcho line).size < Binary32.exactBound) : (c.afterEcho line).ShowsNewest := by
  unfold afterEcho at hsize ⊢
  rw [Scrollback.size_resetScroll] at hsize
  exact Scrollback.showsNewest_resetScroll hsize

/-- **After a line was submitted the newest line is in view, unless a text of the command
overfilled the view and it was not cleared afterwards.** -/
theorem exists_events_press_enter (c : Console Host) (m : Modifiers) (clipboard : String) :
    let line := c.editor.text
    let after := c.press .enter m clipboard
    ∃ events, after.trace = echoed line ++ events ∧
      after.console.scrollback = Sink.receiveAll (c.afterEcho line) events ∧
      (after.console.scrollback.size < Binary32.exactBound →
        (after.console.scrollback.ShowsNewest ↔ ¬ Scrollback.Lost (c.afterEcho line) events)) := by
  intro line after
  obtain ⟨events, htrace, hscrollback⟩ :=
    exists_events_submit { c with editor := c.editor.submit } line
  have hafter : after.console.scrollback = Sink.receiveAll (c.afterEcho line) events := by
    have hecho : ({ c with editor := c.editor.submit } : Console Host).afterEcho line =
      c.afterEcho line := rfl
    rw [← hecho, ← hscrollback]
    exact congrArg (·.console.scrollback) (press_enter c m clipboard)
  refine ⟨events, ?_, hafter, fun hsize => ?_⟩
  · rw [← htrace]
    exact congrArg Ticked.trace (press_enter c m clipboard)
  · rw [hafter] at hsize ⊢
    exact (Scrollback.aligned_resetScroll _).showsNewest_receiveAll_iff
      (showsNewest_afterEcho c line) events hsize

end Console

namespace Scrollback

/-- **Appending keeps the newest line in view, except where a text overfills it.**  Take any
scrollback that can come up, with fewer than `2 ^ 24` lines after a text is added.  The newest line
is in view then exactly when it was before, or there were no lines, and the text did not overfill
the view.  After the enter key the newest line is in view exactly when no text of the command
overfilled the view and stayed. -/
theorem newest_line_in_view {Host : Type} (height : Nat) (text : String) (color : Color)
    (c : Console Host) (m : Modifiers) (clipboard : String) :
    (∀ s, Reached height s → (s.append text color).size < Binary32.exactBound →
      ((s.append text color).ShowsNewest ↔ s.ShowsNewest ∧ ¬ s.Overfills text)) ∧
    let line := c.editor.text
    let after := c.press .enter m clipboard
    ∃ events, after.trace = Console.echoed line ++ events ∧
      after.console.scrollback = Sink.receiveAll (c.afterEcho line) events ∧
      (after.console.scrollback.size < Binary32.exactBound →
        (after.console.scrollback.ShowsNewest ↔ ¬ Lost (c.afterEcho line) events)) := by
  refine ⟨fun s hreached hsize => ?_, ?_⟩
  · exact hreached.aligned.showsNewest_append_iff hsize
  · exact c.exists_events_press_enter m clipboard

/-- With one line in a view of three a second line is in view, too.  After `print hi` was submitted
the newest line is in view unless it was lost, and it is. -/
theorem newest_line_in_view_print :
    let s := (ofHeight 3).append "one" .white
    let c : Console Unit :=
      { Console.new {} ⟨"", .missing⟩ () with
        editor := { before := "print hi".toList.reverse, period := .ofNat 1 } }
    let after := c.press .enter {} ""
    (Reached 3 s ∧ (s.append "two" .white).size < Binary32.exactBound ∧
      (s.append "two" .white).ShowsNewest) ∧
    after.console.scrollback.size = 2 ∧
    ∃ events, after.trace = Console.echoed "print hi" ++ events ∧
      (after.console.scrollback.ShowsNewest ↔ ¬ Lost (c.afterEcho "print hi") events) ∧
      after.console.scrollback.ShowsNewest := by
  intro s c after
  obtain ⟨hscrollback, hconsole⟩ := newest_line_in_view 3 "two" .white c {} ""
  have hreached : Reached 3 s := .append _ _ .start
  have hsize : (s.append "two" .white).size < Binary32.exactBound := by decide +kernel
  have hbefore : s.ShowsNewest := by decide +kernel
  have hroom : ¬ s.Overfills "two" := not_overfills_of_single (by decide +kernel)
  refine ⟨⟨hreached, hsize, (hscrollback s hreached hsize).2 ⟨hbefore, hroom⟩⟩, ?_⟩
  have htwo : after.console.scrollback.size = 2 := by decide +kernel
  have hline : c.editor.text = "print hi" := by decide +kernel
  obtain ⟨events, htrace, -, hiff⟩ := hconsole
  rw [hline] at htrace hiff
  refine ⟨htwo, events, htrace, hiff (by rw [htwo]; decide), ?_⟩
  decide +kernel

/-- A view of three lines shows one line, and the newest of three more that are added at once is
not in view. -/
theorem append_loses_newest :
    let s := (ofHeight 3).append "one" .white
    let t := s.append "two\nthree\nfour" .white
    Reached 3 s ∧ Reached 3 t ∧ s.ShowsNewest ∧ s.Overfills "two\nthree\nfour" ∧ t.size = 4 ∧
      t.visible.map Line.text = ["one", "two", "three"] ∧ ¬ t.ShowsNewest := by
  intro s t
  have hreached : Reached 3 s := .append _ _ .start
  refine ⟨hreached, .append _ _ hreached, ?_⟩
  decide +kernel

end Scrollback

end DevConsole
