import DevConsole.Proofs.ViewBounds

/-! # A reader who has scrolled up

Lines that are added move the view along where its offset is exactly that of the newest screenful.
A reader who looks at older lines must not lose them, so the comparison of two floating-point
numbers must never come out true by accident: not where the offset is within a line, and not where
there is less than a screenful, so that the other number is below zero.

It does not.  A view within the lines that is at the newest screenful ends with the newest line
(`WithinLines.startsAt_of_isPinned`), so one that does not show the newest line keeps its offset
when lines are added (`WithinLines.not_isPinned`), and then it shows the same lines as before, since
all of them were there already (`WithinLines.keepsView_append`).  It does not show the newest line
then either, so the same holds of all the output of commands, as long as they do not clear it
(`WithinLines.keepsView_receiveAll`).
-/
namespace DevConsole

namespace Scrollback

variable {s t u : Scrollback}

/-- The second scrollback is seen from where the first one was, and the same lines are in view. -/
structure KeepsView (s t : Scrollback) : Prop where
  scrollY : t.scrollY = s.scrollY
  scrollX : t.scrollX = s.scrollX
  visible : t.visible = s.visible

theorem KeepsView.refl (s : Scrollback) : KeepsView s s := ⟨rfl, rfl, rfl⟩

theorem KeepsView.trans (hst : KeepsView s t) (htu : KeepsView t u) : KeepsView s u :=
  ⟨htu.scrollY.trans hst.scrollY, htu.scrollX.trans hst.scrollX, htu.visible.trans hst.visible⟩

/-! ## Views that do not show the newest line -/

/-- If the newest line is not one of those in view, then its place is not in view either. -/
theorem not_showsNewest_of_not_mem {line : Line} (hlast : s.lines.toList.getLast? = some line)
    (h : line ∉ s.visible) : ¬ s.ShowsNewest := by
  rintro (hnone | hview)
  · rw [List.eq_nil_of_length_eq_zero (Array.length_toList.trans hnone)] at hlast
    cases hlast
  · have hplace := getElem?_visible hview
    rw [List.getLast?_eq_getElem?, Array.length_toList, Array.getElem?_toList] at hlast
    rw [size, hlast] at hplace
    exact h (List.mem_of_getElem? hplace)

/-- A view that does not show the newest line is full, and ends before it. -/
theorem WithinLines.firstVisible_add_lt (h : s.WithinLines) (hsize : s.size < Binary32.exactBound)
    (hpast : ¬ s.ShowsNewest) : s.firstVisible + s.maxVisible < s.size := by
  obtain ⟨w, hw, hbound⟩ := h
  obtain ⟨hfirst, hlast⟩ := firstVisible_of_position? hw hbound (units_lt_width hbound hsize)
  have hlength := length_visible s
  rw [ShowsNewest, IsInView] at hpast
  omega

/-- **A view that does not show the newest line is not at the newest screenful.** -/
theorem WithinLines.not_isPinned (h : s.WithinLines) (hsize : s.size < Binary32.exactBound)
    (hpast : ¬ s.ShowsNewest) : s.isPinned = false := by
  refine Bool.eq_false_iff.2 fun hpinned => hpast ?_
  have hstarts := h.startsAt_of_isPinned hsize hpinned
  refine (hstarts.showsNewest_iff hsize).2 ?_
  omega

/-! ## Adding lines -/

/-- **Lines that are added leave a view that does not show the newest line as it is**, and it does
not show the newest line then either. -/
theorem WithinLines.keepsView_append (h : s.WithinLines) (hsize : s.size < Binary32.exactBound)
    (hpast : ¬ s.ShowsNewest) (text : String) (color : Color) :
    KeepsView s (s.append text color) ∧ ¬ (s.append text color).ShowsNewest := by
  have hroom := h.firstVisible_add_lt hsize hpast
  have hadded := size_append text color s
  have hscroll := scrollY_append_of_not_isPinned (h.not_isPinned hsize hpast) text color
  obtain ⟨w, hw, hbound⟩ := h
  have hwidth := units_lt_width hbound hsize
  have hfirst : (s.append text color).firstVisible = s.firstVisible := by
    have hbound' : w ≤ ((s.append text color).size - 1) * Binary32.unitsPerOne :=
      Nat.le_trans hbound (Nat.mul_le_mul_right _ (by omega))
    rw [(firstVisible_of_position? hw hbound hwidth).1]
    exact (firstVisible_of_position? (hscroll ▸ hw) hbound' hwidth).1
  have hvisible : (s.append text color).visible = s.visible := by
    rw [visible, visible, hfirst, maxVisible_append, toList_append,
      List.drop_append_of_le_length, List.take_append_of_le_length]
    · rw [List.length_drop, Array.length_toList, ← size]
      omega
    · rw [Array.length_toList, ← size]
      omega
  refine ⟨⟨hscroll, rfl, hvisible⟩, fun hnewest => ?_⟩
  have hlength := length_visible s
  rw [ShowsNewest, IsInView, hfirst, hvisible] at hnewest
  omega

/-- **What commands put out leaves such a view as it is**, whatever it is, until they clear the
output. -/
theorem WithinLines.keepsView_receiveAll (h : s.WithinLines) (hpast : ¬ s.ShowsNewest)
    {trace : List Event} (hkept : .cleared ∉ trace)
    (hsize : (Sink.receiveAll s trace).size < Binary32.exactBound) :
    (Sink.receiveAll s trace).WithinLines ∧ ¬ (Sink.receiveAll s trace).ShowsNewest ∧
      KeepsView s (Sink.receiveAll s trace) := by
  induction trace using List.reverseRecOn with
  | nil => exact ⟨h, hpast, .refl s⟩
  | append_singleton trace event ih =>
    rw [Sink.receiveAll_append] at hsize ⊢
    have ih := ih fun hin => hkept (List.mem_append_left _ hin)
    generalize Sink.receiveAll s trace = t at hsize ih ⊢
    cases event with
    | cleared => exact absurd List.mem_concat_self hkept
    | noted | invoked | opened => exact ih hsize
    | appended text color =>
      have hafter : (t.append text color).size < Binary32.exactBound := hsize
      have hadded := size_append text color t
      have hbefore : t.size < Binary32.exactBound := by omega
      obtain ⟨hwithin, hstill, hview⟩ := ih hbefore
      obtain ⟨hstep, hstill⟩ := hwithin.keepsView_append hbefore hstill text color
      exact ⟨hwithin.append text color hafter, hstill, hview.trans hstep⟩

/-- **An addition never disturbs a reader who has scrolled up.**  Take any empty scrollback and any
changes to it, with moves of any size and by fractions of a line, that leave fewer than `2 ^ 24`
lines of which the last one is not in view.  After any text is added, of however many lines, the
view is where it was and shows the same lines, and the lines are those that were there, followed by
the pieces between the newlines of the text, in order.  So it is after all that commands put out,
one text after the other, until they clear the output. -/
theorem append_keeps_view (height : Nat) (changes : List Change)
    (hproper : ∀ change ∈ changes, change.IsProper)
    (hsize : (run height changes).size < Binary32.exactBound)
    (hpast : ¬ (run height changes).ShowsNewest) (text : String) (color : Color) :
    let s := run height changes
    let t := s.append text color
    (t.scrollY = s.scrollY ∧ t.scrollX = s.scrollX ∧ t.visible = s.visible) ∧
      (∃ pieces : List String,
        t.lines.toList = s.lines.toList ++ pieces.map (fun piece => ⟨piece, color⟩) ∧
        (∀ piece ∈ pieces, '\n' ∉ piece.toList) ∧
        List.intercalate ['\n'] (pieces.map String.toList) = text.toList) ∧
      ∀ trace : List Event, .cleared ∉ trace →
        (Sink.receiveAll s trace).size < Binary32.exactBound →
        KeepsView s (Sink.receiveAll s trace) := by
  intro s t
  have hwithin : s.WithinLines := withinLines_run height hproper hsize
  obtain ⟨⟨hscrollY, hscrollX, hvisible⟩, -⟩ := hwithin.keepsView_append hsize hpast text color
  refine ⟨⟨hscrollY, hscrollX, hvisible⟩,
    ⟨Text.pieces text, toList_append text color s, ?_, ?_⟩, fun trace hkept hcount => ?_⟩
  · intro piece hpiece
    obtain ⟨cs, hcs, rfl⟩ := List.mem_map.1 hpiece
    rw [String.toList_ofList]
    exact Text.not_mem_of_mem_cut hcs
  · have hchars : (Text.pieces text).map String.toList = Text.cut '\n' text.toList := by
      rw [Text.pieces, List.map_map]
      exact List.map_id'' (fun _ => String.toList_ofList) _
    rw [hchars, Text.intercalate_cut]
  · exact (hwithin.keepsView_receiveAll hpast hkept hcount).2.2

/-- A view of two lines starts in the middle of the first of four, and stays there when two more
are added, and then another one. -/
theorem append_keeps_view_half :
    let changes : List Change :=
      [.append "one\ntwo\nthree\nfour" .white, .scrollVertical (-.ofFraction 1 2)]
    let s := run 2 changes
    let t := s.append "five\nsix" .red
    s.scrollY = .ofFraction 1 2 ∧ s.visible.map Line.text = ["one", "two"] ∧
      t.scrollY = s.scrollY ∧ t.visible = s.visible ∧
      t.lines.toList.map Line.text = ["one", "two", "three", "four", "five", "six"] ∧
      (Sink.receiveAll s [.appended "five\nsix" .red, .appended "seven" .white]).visible =
        s.visible := by
  intro changes s t
  have hproper : ∀ change ∈ changes, change.IsProper := by
    intro change hmem
    obtain rfl | hmem := List.mem_cons.1 hmem
    · exact trivial
    · rw [List.mem_singleton.1 hmem]
      show -Binary32.ofFraction 1 2 ≠ .nan
      decide +kernel
  have hsize : s.size < Binary32.exactBound := by decide +kernel
  have hpast : ¬ s.ShowsNewest := by
    have hlast : s.lines.toList.getLast? = some ⟨"four", .white⟩ := by decide +kernel
    exact not_showsNewest_of_not_mem hlast (by decide +kernel)
  obtain ⟨⟨hscrollY, -, hvisible⟩, -, hall⟩ :=
    append_keeps_view 2 changes hproper hsize hpast "five\nsix" .red
  refine ⟨by decide +kernel, by decide +kernel, hscrollY, hvisible, by decide +kernel, ?_⟩
  exact (hall [.appended "five\nsix" .red, .appended "seven" .white] (by decide)
    (by decide +kernel)).visible

end Scrollback

end DevConsole
