import DevConsole.Proofs.IndexedLine
import Mathlib.Order.Bounds.Basic

/-! # Steps of a word

With control held, the keys left and right take the cursor to the end of a word, and backspace
takes out what the key left would pass.  Where a word ends to the left is found by a loop that looks
at the character before an index, and to the right by one that looks at the character at it; the
first starts one place before the cursor and the second one place after.

Said without loops, the places to stop at on the way to the left are the start of the line and those
after a space (`StartsWord`), and on the way to the right the end of the line and those at a space
(`EndsWord`).  Each loop finds the nearest of its places (`Indexed.isGreatest_of_wordStart?`,
`Indexed.isLeast_wordEnd`), and the cursor has then moved by one character at least, so that as many
presses as there are characters on the way take it to the start or to the end
(`iterate_pressLeft`, `iterate_pressRight`).
-/
namespace DevConsole.Editor

/-! ## Where the cursor stops -/

/-- The place is the start of the line, or comes after a space. -/
def StartsWord (cs : List Char) (p : Nat) : Prop := p = 0 ∨ cs[p - 1]? = some ' '

/-- The place is the end of the line, or that of a space. -/
def EndsWord (cs : List Char) (q : Nat) : Prop := q = cs.length ∨ cs[q]? = some ' '

namespace Indexed

/-- **Looking for the start of a word finds the nearest one**, at an index or before it. -/
theorem isGreatest_of_wordStart? {cs : List Char} {i p : Nat} (h : wordStart? cs i = some p) :
    IsGreatest {p | p ≤ i ∧ StartsWord cs p} p := by
  induction i with
  | zero =>
    obtain rfl : 0 = p := Option.some.inj h
    exact ⟨⟨Nat.le_refl 0, .inl rfl⟩, fun p hp => hp.1⟩
  | succ i ih =>
    rw [wordStart?] at h
    cases hread : cs[i]? with
    | none =>
      rw [hread] at h
      cases h
    | some c =>
      simp only [hread] at h
      by_cases hspace : c = ' '
      · rw [if_pos hspace] at h
        obtain rfl : i + 1 = p := Option.some.inj h
        refine ⟨⟨Nat.le_refl _, .inr ?_⟩, fun p hp => hp.1⟩
        rw [Nat.add_sub_cancel, hread, hspace]
      · rw [if_neg hspace] at h
        obtain ⟨⟨hle, hstarts⟩, hgreatest⟩ := ih h
        refine ⟨⟨Nat.le_succ_of_le hle, hstarts⟩, fun q hq => hgreatest ⟨?_, hq.2⟩⟩
        -- A place right after the character that was passed is not one to stop at.
        rcases Nat.lt_or_eq_of_le hq.1 with hlt | rfl
        · exact Nat.le_of_lt_succ hlt
        · rcases hq.2 with hzero | hafter
          · cases hzero
          · rw [Nat.add_sub_cancel, hread] at hafter
            exact absurd (Option.some.inj hafter) hspace

/-- **Looking for the end of a word finds the nearest one**, at an index or after it. -/
theorem isLeast_wordEnd {cs : List Char} {i : Nat} (h : i ≤ cs.length) :
    IsLeast {q | i ≤ q ∧ q ≤ cs.length ∧ EndsWord cs q} (wordEnd cs i) := by
  fun_induction wordEnd cs i with
  | case1 i hlt hspace =>
    refine ⟨⟨Nat.le_refl i, h, .inr ?_⟩, fun q hq => hq.1⟩
    rw [List.getElem?_eq_getElem hlt, hspace]
  | case2 i hlt hspace ih =>
    obtain ⟨⟨hle, hend, hends⟩, hleast⟩ := ih hlt
    refine ⟨⟨Nat.le_of_succ_le hle, hend, hends⟩, fun q hq => hleast ⟨?_, hq.2⟩⟩
    -- The place of the character that was passed is not one to stop at.
    rcases Nat.eq_or_lt_of_le hq.1 with rfl | hlt'
    · rcases hq.2.2 with hlast | hat
      · omega
      · rw [List.getElem?_eq_getElem hlt] at hat
        exact absurd (Option.some.inj hat) hspace
    · exact hlt'
  | case3 i hnot =>
    refine ⟨⟨by omega, Nat.le_refl _, .inl rfl⟩, fun q hq => ?_⟩
    have hq := hq.1
    omega

end Indexed

/-! ## What the keys do -/

variable {e : Editor} {m : Modifiers} (clipboard : String)

theorem cursor_le_length (e : Editor) : e.cursor ≤ e.chars.length := by
  rw [Indexed.length_chars]
  exact Nat.le_add_right _ _

/-- What is erased stood right before the cursor. -/
theorem chars_erase (n : Nat) (e : Editor) :
    (e.erase n).chars = e.chars.take (e.cursor - n) ++ e.chars.drop e.cursor := by
  have hlength : e.cursor = e.before.reverse.length := List.length_reverse.symm
  have hkept : e.before.reverse.take (e.cursor - n) = (e.before.drop n).reverse :=
    List.reverse_drop.symm
  rw [drop_cursor, Editor.chars, Editor.chars, List.take_append_of_le_length (by omega), hkept]
  rfl

theorem cursor_pressLeft : (e.press .left m clipboard).1.cursor = e.cursor - e.stepLeft m :=
  List.length_drop

theorem chars_pressLeft : (e.press .left m clipboard).1.chars = e.chars := chars_moveLeft _ e

theorem cursor_pressRight : (e.press .right m clipboard).1.cursor = e.cursor + e.stepRight m :=
  congrArg Indexed.cursor (Indexed.ofEditor_moveRight e (Indexed.stepRight_le e m))

theorem chars_pressRight : (e.press .right m clipboard).1.chars = e.chars := chars_moveRight _ e

/-- Backspace takes the cursor where the key left would, and takes out what is between. -/
theorem press_backspace :
    let erased := (e.press .backspace m clipboard).1
    let p := (e.press .left m clipboard).1.cursor
    erased.cursor = p ∧ erased.chars = e.chars.take p ++ e.chars.drop e.cursor := by
  intro erased p
  have hp : p = e.cursor - e.stepLeft m := cursor_pressLeft clipboard
  rw [hp, ← chars_erase]
  by_cases hempty : e.before.isEmpty = true
  · -- There is nothing to erase.
    have herased : erased = e.restartBlink := congrArg Prod.fst (if_pos hempty)
    have hnil : e.before = [] := List.isEmpty_iff.1 hempty
    rw [herased, Editor.chars, Editor.chars, Editor.cursor, Editor.cursor, erase, restartBlink]
    dsimp only
    rw [hnil, List.drop_nil]
    exact ⟨(Nat.zero_sub _).symm, rfl⟩
  · have herased : erased = ((e.erase (e.stepLeft m)).stopBrowsing.restartBlink) :=
      congrArg Prod.fst (if_neg hempty)
    rw [herased]
    exact ⟨List.length_drop, rfl⟩

/-! ### At the ends of the line -/

theorem cursor_pressLeft_of_start (h : e.cursor = 0) :
    (e.press .left m clipboard).1.cursor = 0 := by
  rw [cursor_pressLeft, h, Nat.zero_sub]

theorem cursor_pressRight_of_end (h : e.cursor = e.chars.length) :
    (e.press .right m clipboard).1.cursor = e.chars.length := by
  have hcursor : e.cursor = e.before.length := rfl
  have hlength := Indexed.length_chars e
  have hstep := Indexed.stepRight_le e m
  rw [cursor_pressRight]
  omega

theorem press_backspace_of_start (h : e.cursor = 0) :
    let erased := (e.press .backspace m clipboard).1
    erased.chars = e.chars ∧ erased.cursor = 0 := by
  obtain ⟨hcursor, hchars⟩ := press_backspace (e := e) (m := m) clipboard
  rw [cursor_pressLeft_of_start clipboard h] at hcursor hchars
  refine ⟨?_, hcursor⟩
  rw [hchars, h, List.take_zero, List.drop_zero, List.nil_append]

/-! ### With control -/

section Control

variable (hcontrol : m.control = true)
include hcontrol

/-- **A step of a word to the left stops at the nearest place** before the cursor. -/
theorem isGreatest_pressLeft (hpos : 0 < e.cursor) :
    IsGreatest {p | p < e.cursor ∧ StartsWord e.chars p} (e.press .left m clipboard).1.cursor := by
  have hleft : Indexed.wordStart? e.chars (e.cursor - 1) = some (e.cursor - e.stepLeft m) := by
    rw [← Indexed.left?_ofEditor, Indexed.left?, if_pos hcontrol]
    rfl
  obtain ⟨⟨hle, hstarts⟩, hgreatest⟩ := Indexed.isGreatest_of_wordStart? hleft
  rw [cursor_pressLeft]
  exact ⟨⟨by omega, hstarts⟩, fun p hp => hgreatest ⟨Nat.le_sub_one_of_lt hp.1, hp.2⟩⟩

/-- **A step of a word to the right stops at the nearest place** after the cursor. -/
theorem isLeast_pressRight (hroom : e.cursor < e.chars.length) :
    IsLeast {q | e.cursor < q ∧ q ≤ e.chars.length ∧ EndsWord e.chars q}
      (e.press .right m clipboard).1.cursor := by
  have hright : Indexed.wordEnd e.chars (e.cursor + 1) = e.cursor + e.stepRight m := by
    rw [← Indexed.right_ofEditor, Indexed.right, if_pos hcontrol]
    rfl
  have hleast := Indexed.isLeast_wordEnd (Nat.succ_le_of_lt hroom)
  rw [cursor_pressRight, ← hright]
  exact hleast

/-- So many presses take the cursor so many characters to the left at least. -/
theorem iterate_pressLeft (k : Nat) :
    let moved := (fun e : Editor => (e.press .left m clipboard).1)^[k] e
    moved.chars = e.chars ∧ moved.cursor ≤ e.cursor - k := by
  induction k with
  | zero => exact ⟨rfl, Nat.le_refl _⟩
  | succ k ih =>
    rw [Function.iterate_succ_apply']
    generalize (fun e : Editor => (e.press .left m clipboard).1)^[k] e = moved at ih ⊢
    obtain ⟨hchars, hcursor⟩ := ih
    refine ⟨(chars_pressLeft clipboard).trans hchars, ?_⟩
    obtain hzero | hpos := Nat.eq_zero_or_pos moved.cursor
    · rw [cursor_pressLeft, hzero]
      omega
    · have hlt := (isGreatest_pressLeft clipboard hcontrol hpos).1.1
      omega

theorem iterate_pressRight (k : Nat) :
    let moved := (fun e : Editor => (e.press .right m clipboard).1)^[k] e
    moved.chars = e.chars ∧ min (e.cursor + k) e.chars.length ≤ moved.cursor := by
  induction k with
  | zero => exact ⟨rfl, Nat.min_le_left _ _⟩
  | succ k ih =>
    rw [Function.iterate_succ_apply']
    generalize (fun e : Editor => (e.press .right m clipboard).1)^[k] e = moved at ih ⊢
    obtain ⟨hchars, hcursor⟩ := ih
    refine ⟨(chars_pressRight clipboard).trans hchars, ?_⟩
    obtain hroom | hend := Nat.lt_or_ge moved.cursor moved.chars.length
    · have hlt := (isLeast_pressRight clipboard hcontrol hroom).1.1
      omega
    · rw [cursor_pressRight]
      rw [hchars] at hend
      omega

end Control

/-- **With control, the keys go to the nearest place where a word starts or ends.**  Take any line
with the cursor anywhere in it.  The key left takes the cursor to the greatest place before it that
is the start of the line or comes after a space, and the key right to the least place after it that
is the end of the line or that of a space; neither changes the line.  Backspace takes out exactly
the characters that the key left passes, and takes the cursor where it goes.  At the start of the
line left and backspace do nothing, and at the end right does nothing.  Each press passes a
character at least until there is none left, so the cursor comes to the start or to the end. -/
theorem words_by_nearest_place (e : Editor) (m : Modifiers) (hcontrol : m.control = true)
    (clipboard : String) :
    let b := e.chars
    let c := e.cursor
    let left := fun e : Editor => (e.press .left m clipboard).1
    let right := fun e : Editor => (e.press .right m clipboard).1
    let erased := (e.press .backspace m clipboard).1
    c ≤ b.length ∧
      ((left e).chars = b ∧ (c = 0 → (left e).cursor = 0) ∧
        (0 < c → IsGreatest {p | p < c ∧ (p = 0 ∨ b[p - 1]? = some ' ')} (left e).cursor)) ∧
      ((right e).chars = b ∧ (c = b.length → (right e).cursor = b.length) ∧
        (c < b.length →
          IsLeast {q | c < q ∧ q ≤ b.length ∧ (q = b.length ∨ b[q]? = some ' ')}
            (right e).cursor)) ∧
      ((c = 0 → erased.chars = b ∧ erased.cursor = 0) ∧
        (0 < c → erased.cursor = (left e).cursor ∧
          erased.chars = b.take (left e).cursor ++ b.drop c)) ∧
      ∀ k, (left^[k] e).cursor ≤ c - k ∧ min (c + k) b.length ≤ (right^[k] e).cursor := by
  intro b c left right erased
  have hleft : 0 < c → IsGreatest _ _ := isGreatest_pressLeft clipboard hcontrol
  have hright : c < b.length → IsLeast _ _ := isLeast_pressRight clipboard hcontrol
  refine ⟨cursor_le_length e,
    ⟨chars_pressLeft clipboard, cursor_pressLeft_of_start clipboard, hleft⟩,
    ⟨chars_pressRight clipboard, cursor_pressRight_of_end clipboard, hright⟩,
    ⟨press_backspace_of_start clipboard, fun _ => press_backspace clipboard⟩, fun k => ?_⟩
  exact ⟨(iterate_pressLeft clipboard hcontrol k).2, (iterate_pressRight clipboard hcontrol k).2⟩

/-- In the line `ab é c`, with the cursor after the letter of two bytes, left goes before that
letter and right to the end of the line, backspace takes out the letter, and four steps to the left
are more than enough for the start of the line. -/
theorem words_by_nearest_place_accent :
    let e : Editor :=
      { before := ['é', ' ', 'b', 'a'], after := [' ', 'c'], period := .ofNat 1 }
    let m : Modifiers := { control := true }
    let left := fun e : Editor => (e.press .left m "").1
    (e.cursor = 4 ∧ (left e).cursor = 3 ∧
      IsGreatest {p | p < 4 ∧ (p = 0 ∨ e.chars[p - 1]? = some ' ')} 3) ∧
    ((e.press .right m "").1.cursor = 6 ∧
      IsLeast {q | 4 < q ∧ q ≤ 6 ∧ (q = 6 ∨ e.chars[q]? = some ' ')} 6) ∧
    ((e.press .backspace m "").1.text = "ab  c" ∧
      (e.press .backspace m "").1.chars = e.chars.take 3 ++ e.chars.drop 4) ∧
    (left^[4] e).cursor = 0 := by
  intro e m left
  obtain ⟨-, ⟨-, -, hleft⟩, ⟨-, -, hright⟩, ⟨-, herased⟩, hmany⟩ :=
    words_by_nearest_place e m rfl ""
  exact ⟨⟨rfl, rfl, hleft (by decide)⟩, ⟨rfl, hright (by decide)⟩,
    ⟨by decide +kernel, (herased (by decide)).2⟩, Nat.le_zero.1 (hmany 4).1⟩

end DevConsole.Editor
