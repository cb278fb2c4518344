import DevConsole.Editor
import Mathlib.Data.List.Induction

/-! # The history keys and the text of the line

The keys up and down put submitted lines in place of the line.  They should do so only while
nothing would be lost: when the line is empty, or while it shows the submitted line at its
position (`ShowsEntry`).  Whether they do depends on a mark that the line is browsing, and every
key that changes the text has to take the mark away.  Typing does, and so does erasing.  Pasting
does not.

So after any inputs either the line shows the entry at its position while it is browsing, or
something was pasted into it since it was selected (`PastedInto`).  One step keeps this
(`showsEntry_of_settles` and `of_not_settles`), and with it all runs do (`showsEntry_or_pasted`).
A line with a text of its own is left as it is in the first case and lost in the second.
-/
namespace DevConsole.Editor

variable {e : Editor} {period : Binary32}

/-! ## Runs -/

/-- Something that happens to a line. -/
inductive Input where
  /-- A key, the modifiers that are held with it, and what the clipboard holds then. -/
  | key (key : Key) (modifiers : Modifiers) (clipboard : String)
  | tick (dt : Binary32)

namespace Input

/-- The line after something happened to it. -/
def apply : Input → Editor → Editor
  | key k m clipboard, e => (e.press k m clipboard).1
  | tick dt, e => e.tick dt

/-- Whether the input pastes some characters. -/
def pastes : Input → Bool
  | key (.char c) m clipboard => m.control && c.toLower == 'v' && !(pasteable clipboard).isEmpty
  | _ => false

/-- Whether the input selects a submitted line, submits the line, or types or erases in it. -/
def settles (e : Editor) : Input → Bool
  | key .up _ _ | key .down _ _ | key .enter _ _ => true
  | key .backspace _ _ => !e.before.isEmpty
  | key (.char _) m _ => !m.control
  | _ => false

/-- Pasting alone does not settle the line. -/
theorem settles_of_pastes {x : Input} (h : x.pastes = true) : x.settles e = false := by
  cases x with
  | tick dt => rfl
  | key k m clipboard =>
    cases k with
    | char c =>
      simp only [pastes, Bool.and_eq_true] at h
      rw [settles, h.1.1]
      rfl
    | _ => cases h

end Input

/-- The line after some inputs, the first one first. -/
def run (period : Binary32) (inputs : List Input) : Editor :=
  inputs.foldl (fun e x => x.apply e) (ofPeriod period)

@[simp] theorem run_snoc (inputs : List Input) (x : Input) :
    run period (inputs ++ [x]) = x.apply (run period inputs) := by
  rw [run, List.foldl_append]
  rfl

/-- The line after further inputs, the first one first. -/
def applyAll (inputs : List Input) (e : Editor) : Editor := inputs.foldl (fun e x => x.apply e) e

@[simp] theorem applyAll_cons (x : Input) (inputs : List Input) (e : Editor) :
    applyAll (x :: inputs) e = applyAll inputs (x.apply e) := rfl

theorem applyAll_append (inputs more : List Input) (e : Editor) :
    applyAll (inputs ++ more) e = applyAll more (applyAll inputs e) := List.foldl_append

/-- Something was pasted into the line while it was browsing, and the line has not been left or
selected again since, and nothing has been typed or erased in it. -/
inductive PastedInto (period : Binary32) : List Input → Prop
  | paste {inputs : List Input} {x : Input} (browsing : (run period inputs).isBrowsing = true)
      (pastes : x.pastes = true) : PastedInto period (inputs ++ [x])
  | keep {inputs : List Input} {x : Input} (pasted : PastedInto period inputs)
      (quiet : x.settles (run period inputs) = false) : PastedInto period (inputs ++ [x])

/-- While it is browsing, the line shows the submitted line at its position. -/
def ShowsEntry (e : Editor) : Prop := e.isBrowsing = true → e.text = entry e.history e.position

/-! ## One step -/

theorem text_select (n : Nat) (e : Editor) : (e.select n).text = entry e.history n := by
  simp [text, chars, select]

theorem showsEntry_select (n : Nat) (e : Editor) : (e.select n).ShowsEntry :=
  fun _ => text_select n e

theorem showsEntry_of_not_browsing (h : e.isBrowsing = false) : e.ShowsEntry := by
  intro hbrowsing
  rw [h] at hbrowsing
  cases hbrowsing

/-- Up and down select a position, or leave a line alone that is not browsing. -/
theorem showsEntry_select_or_idle (n : Nat) (e : Editor) :
    (if e.canBrowse then e.select n else e).ShowsEntry := by
  split
  · exact showsEntry_select n e
  · rename_i hidle
    simp only [canBrowse, Bool.or_eq_true, not_or, Bool.not_eq_true] at hidle
    exact showsEntry_of_not_browsing hidle.1

/-- **An input that settles the line leaves it with the entry at its position, or not browsing.** -/
theorem showsEntry_of_settles {x : Input} (h : x.settles e = true) : (x.apply e).ShowsEntry := by
  cases x with
  | tick dt => cases h
  | key k m clipboard =>
    cases k with
    | up => exact showsEntry_select_or_idle (min (e.position + 1) e.history.length) e
    | down => exact showsEntry_select_or_idle (min (e.position - 1) e.history.length) e
    | enter => exact showsEntry_of_not_browsing rfl
    | backspace =>
      refine showsEntry_of_not_browsing ?_
      have hbefore : e.before.isEmpty = false := by simpa [Input.settles] using h
      simp [Input.apply, press, hbefore, stopBrowsing, restartBlink, isBrowsing]
    | char c =>
      refine showsEntry_of_not_browsing ?_
      have hcontrol : m.control = false := by simpa [Input.settles] using h
      simp [Input.apply, press, hcontrol, stopBrowsing, restartBlink, isBrowsing]
    | _ => cases h

/-- **Any other input leaves the position as it is, and the characters too unless it pastes.**  No
character goes away either way. -/
theorem of_not_settles {x : Input} (h : x.settles e = false) :
    (x.apply e).browsing = e.browsing ∧ (x.apply e).history = e.history ∧
      (x.pastes = false → (x.apply e).chars = e.chars) ∧ e.chars.Sublist (x.apply e).chars := by
  have hsame : (x.apply e).chars = e.chars →
      (x.pastes = false → (x.apply e).chars = e.chars) ∧ e.chars.Sublist (x.apply e).chars :=
    fun hchars => ⟨fun _ => hchars, hchars ▸ List.Sublist.refl _⟩
  cases x with
  | tick dt => exact ⟨rfl, rfl, hsame rfl⟩
  | key k m clipboard =>
    cases k with
    | left => exact ⟨rfl, rfl, hsame (chars_moveLeft (e.stepLeft m) e)⟩
    | right => exact ⟨rfl, rfl, hsame (chars_moveRight (e.stepRight m) e)⟩
    | backspace =>
      -- There is nothing to erase.
      have hbefore : e.before.isEmpty = true := by simpa [Input.settles] using h
      have happly : (Input.key .backspace m clipboard).apply e = e.restartBlink := by
        simp [Input.apply, press, hbefore]
      rw [happly] at hsame ⊢
      exact ⟨rfl, rfl, hsame rfl⟩
    | char c =>
      have hcontrol : m.control = true := by simpa [Input.settles] using h
      simp only [Input.apply, press, hcontrol, if_true, Input.pastes, Bool.true_and]
      split
      · exact ⟨rfl, rfl, fun _ => rfl, List.Sublist.refl _⟩
      · rename_i hv
        refine ⟨rfl, rfl, fun hpastes => ?_, ?_⟩
        · have hempty : pasteable clipboard = [] := by simpa [hv] using hpastes
          rw [chars_insert, hempty, List.append_nil]
          rfl
        · rw [chars_insert]
          exact (List.sublist_append_left _ _).append (List.Sublist.refl _)
      · exact ⟨rfl, rfl, fun _ => rfl, List.Sublist.refl _⟩
    | up | down | enter => cases h
    | _ => exact ⟨rfl, rfl, hsame rfl⟩

/-! ## All runs -/

/-- A line that something was pasted into is browsing still. -/
theorem isBrowsing_of_pasted {inputs : List Input} (h : PastedInto period inputs) :
    (run period inputs).isBrowsing = true := by
  induction h with
  | @paste inputs x hbrowsing hpastes =>
    rw [run_snoc, isBrowsing, (of_not_settles (Input.settles_of_pastes hpastes)).1]
    exact hbrowsing
  | keep _ hquiet ih =>
    rw [run_snoc, isBrowsing, (of_not_settles hquiet).1]
    exact ih

/-- **While it is browsing, the line shows the entry at its position, or something was pasted into
it since it was selected.** -/
theorem showsEntry_or_pasted (period : Binary32) (inputs : List Input) :
    (run period inputs).ShowsEntry ∨ PastedInto period inputs := by
  -- The last input settles the line, or pastes into it, or leaves the text as it was before.
  induction inputs using List.reverseRecOn with
  | nil => exact .inl (showsEntry_of_not_browsing rfl)
  | append_singleton inputs x ih =>
    rw [run_snoc]
    cases hsettles : x.settles (run period inputs) with
    | true => exact .inl (showsEntry_of_settles hsettles)
    | false =>
      obtain ⟨hbrowsing, hhistory, hchars, -⟩ := of_not_settles hsettles
      obtain hshows | hpasted := ih
      · cases hb : (run period inputs).isBrowsing with
        | false =>
          refine .inl (showsEntry_of_not_browsing ?_)
          rw [isBrowsing, hbrowsing]
          exact hb
        | true =>
          cases hpastes : x.pastes with
          | true => exact .inr (.paste hb hpastes)
          | false =>
            refine .inl fun _ => ?_
            rw [text, hchars hpastes, hhistory, position, hbrowsing]
            exact hshows hb
      · exact .inr (.keep hpasted hsettles)

/-- **While it is browsing, the line has all characters of the entry at its position.** -/
theorem entry_sublist (period : Binary32) (inputs : List Input) :
    let e := run period inputs
    e.isBrowsing = true → (entry e.history e.position).toList.Sublist e.chars := by
  induction inputs using List.reverseRecOn with
  | nil => exact fun h => by cases h
  | append_singleton inputs x ih =>
    rw [run_snoc]
    intro e hbrowsing
    cases hsettles : x.settles (run period inputs) with
    | true =>
      have hshows : e.text = entry e.history e.position := showsEntry_of_settles hsettles hbrowsing
      have hchars : (entry e.history e.position).toList = e.chars := by
        rw [← hshows, text, String.toList_ofList]
      exact hchars ▸ List.Sublist.refl _
    | false =>
      obtain ⟨hsame, hhistory, -, hsublist⟩ := of_not_settles hsettles
      have hbefore : (run period inputs).isBrowsing = true := by
        rw [isBrowsing, ← hsame]
        exact hbrowsing
      have hposition : e.position = (run period inputs).position := congrArg (·.getD 0) hsame
      have hhistory : e.history = (run period inputs).history := hhistory
      rw [hposition, hhistory]
      exact (ih hbefore).trans hsublist

/-! ## What up and down do -/

/-- Selecting the position at which the line is changes the line, unless it shows the entry. -/
theorem select_ne {n : Nat} (h : e.text ≠ entry e.history e.position) : e.select n ≠ e := by
  intro heq
  have hposition : n = e.position := by
    rw [← heq]
    rfl
  have htext := text_select n e
  rw [heq, hposition] at htext
  exact h htext

/-- Up and down leave a line with a text of its own as it is, exactly when it is not browsing. -/
theorem keeps_iff_not_browsing (hne : e.isEmpty = false)
    (htext : e.text ≠ entry e.history e.position) :
    (∀ m clipboard, (e.press .up m clipboard).1 = e ∧ (e.press .down m clipboard).1 = e) ↔
      e.isBrowsing = false := by
  have hcan : e.canBrowse = e.isBrowsing := by rw [canBrowse, hne, Bool.or_false]
  constructor
  · intro h
    refine Bool.eq_false_iff.2 fun hbrowsing => ?_
    have hup : (if e.canBrowse then e.older else e) = e := (h {} "").1
    rw [hcan, if_pos hbrowsing] at hup
    exact select_ne htext hup
  · intro h m clipboard
    have hidle : ¬ e.canBrowse = true := by
      rw [hcan, h]
      exact Bool.false_ne_true
    exact ⟨if_neg hidle, if_neg hidle⟩

/-- **Up and down lose no text, except what was pasted into a submitted line.**  After any inputs
let the line have a text that is not the submitted line at its position.  Then up and down leave
it as it is, text and cursor, exactly when nothing was pasted into it while it was browsing and
it has stood there since.  In a line that is browsing all characters of the submitted line stand
still, so that nothing is lost but what was pasted. -/
theorem keeps_unless_pasted (period : Binary32) (inputs : List Input) :
    let e := run period inputs
    (e.isEmpty = false → e.text ≠ entry e.history e.position →
      ((∀ m clipboard, (e.press .up m clipboard).1 = e ∧ (e.press .down m clipboard).1 = e) ↔
        ¬ PastedInto period inputs)) ∧
      (e.isBrowsing = true → (entry e.history e.position).toList.Sublist e.chars) := by
  intro e
  refine ⟨fun hne htext => ?_, entry_sublist period inputs⟩
  rw [keeps_iff_not_browsing hne htext]
  constructor
  · intro hidle hpasted
    have hbrowsing := isBrowsing_of_pasted hpasted
    rw [hidle] at hbrowsing
    cases hbrowsing
  · intro hnot
    have hshows := (showsEntry_or_pasted period inputs).resolve_right hnot
    exact Bool.eq_false_iff.2 fun hbrowsing => htext (hshows hbrowsing)

/-- With `old` submitted and `x` typed, up and down leave the line as it is.  With `old` selected
the line is browsing and has the characters of `old`. -/
theorem keeps_unless_pasted_typed :
    let old : List Input := [.key (.char 'o') {} "", .key (.char 'l') {} "", .key (.char 'd') {} "",
      .key .enter {} ""]
    let typed := run (.ofNat 1) (old ++ [.key (.char 'x') {} ""])
    let selected := run (.ofNat 1) (old ++ [.key .up {} ""])
    (typed.isEmpty = false ∧ typed.text ≠ entry typed.history typed.position ∧
      ∀ m clipboard, (typed.press .up m clipboard).1 = typed ∧
        (typed.press .down m clipboard).1 = typed) ∧
    (selected.isBrowsing = true ∧ selected.position = 1 ∧
      (entry selected.history selected.position).toList.Sublist selected.chars) := by
  intro old typed selected
  have hne : typed.isEmpty = false := by decide +kernel
  have htext : typed.text ≠ entry typed.history typed.position := by decide +kernel
  have hnot : ¬ PastedInto (.ofNat 1) (old ++ [.key (.char 'x') {} ""]) := by
    intro hpasted
    have hbrowsing : typed.isBrowsing = true := isBrowsing_of_pasted hpasted
    have hidle : typed.isBrowsing = false := by decide +kernel
    rw [hidle] at hbrowsing
    cases hbrowsing
  have hbrowsing : selected.isBrowsing = true := by decide +kernel
  have hposition : selected.position = 1 := by decide +kernel
  obtain ⟨hkeeps, -⟩ := keeps_unless_pasted (.ofNat 1) (old ++ [.key (.char 'x') {} ""])
  obtain ⟨-, hsublist⟩ := keeps_unless_pasted (.ofNat 1) (old ++ [.key .up {} ""])
  exact ⟨⟨hne, htext, (hkeeps hne htext).2 hnot⟩, hbrowsing, hposition, hsublist hbrowsing⟩

/-- With `old` selected and something pasted behind it, the line is neither empty nor the submitted
line at its position, and up puts `old` in its place. -/
theorem up_after_paste :
    let e := run (.ofNat 1) [.key (.char 'o') {} "", .key (.char 'l') {} "", .key (.char 'd') {} "",
      .key .enter {} "", .key .up {} "", .key (.char 'v') { control := true } " new"]
    e.isEmpty = false ∧ e.text = "old new" ∧ entry e.history e.position = "old" ∧
      e.text ≠ entry e.history e.position ∧ e.cursor = 7 ∧
      (e.press .up {} "").1.text = "old" ∧ (e.press .up {} "").1.cursor = 3 := by
  decide

end DevConsole.Editor
