import DevConsole.Proofs.HistoryKeys
import Mathlib.Algebra.GroupWithZero.Nat

/-! # A line that counts

The editor keeps its line in two halves, so that the cursor cannot leave the text.  A line can also
be kept as one text with numbers: the cursor is a number of characters, a change happens at an
offset in bytes, and a submitted line is shown by its number.  Then a number can be wrong.  A word
is looked for outside the text, an offset lies behind the end or within a character, a submitted
line is not there.

`Indexed` is such a line, and `Indexed.press?` has no result when one of its numbers is wrong.  That
never happens.  Whatever is pressed, the line that counts has a result, and it is the one of the
editor (`press?_ofEditor`); so it is after any inputs (`run?_eq`).  What the numbers are bounded by
follows from what an input can do to the position and to the submitted lines (`apply_cases`).
-/
namespace DevConsole.Editor

/-- A line that is kept as one text, with numbers for the places in it. -/
structure Indexed where
  /-- The characters of the line. -/
  chars : List Char := []
  /-- The number of characters before the cursor. -/
  cursor : Nat := 0
  /-- The submitted lines, newest first. -/
  history : List String := []
  /-- Whether the line shows a submitted line, or the empty line before them all. -/
  browsing : Bool := false
  /-- The number of the submitted line that is shown, zero for none. -/
  position : Nat := 0
deriving DecidableEq

namespace Indexed

/-- The line of an editor. -/
def ofEditor (e : Editor) : Indexed := ⟨e.chars, e.cursor, e.history, e.isBrowsing, e.position⟩

/-! ## Looking up and cutting -/

/-- The offset in bytes of a character, or of the end when there are not so many characters. -/
def byteOffset (cs : List Char) (i : Nat) : Nat := ((cs.take i).map Char.utf8Size).sum

/-- The characters before and after an offset in bytes.  There is nothing to be had behind the end
and within a character. -/
def cutAt? : List Char → Nat → Option (List Char × List Char)
  | cs, 0 => some ([], cs)
  | [], _ + 1 => none
  | c :: cs, n + 1 =>
    if c.utf8Size ≤ n + 1 then
      (cutAt? cs (n + 1 - c.utf8Size)).map fun (before, after) => (c :: before, after)
    else
      none

/-- Where the word starts that an index is in: the characters before the index are looked at one
after the other, up to a space. -/
def wordStart? (cs : List Char) : Nat → Option Nat
  | 0 => some 0
  | i + 1 =>
    match cs[i]? with
    | none => none
    | some c => if c = ' ' then some (i + 1) else wordStart? cs i

/-- Where the next space is from an index on, or the end. -/
def wordEnd (cs : List Char) (i : Nat) : Nat :=
  if h : i < cs.length then
    if cs[i] = ' ' then i else wordEnd cs (i + 1)
  else
    cs.length
termination_by cs.length - i

/-- The submitted line at a position, counted from one. -/
def lineAt? (history : List String) : Nat → Option String
  | 0 => some ""
  | n + 1 => history[n]?

/-! ## Keys -/

/-- Puts characters in at the cursor, which ends up after them. -/
def insert? (new : List Char) (v : Indexed) : Option Indexed := do
  let (before, after) ← cutAt? v.chars (byteOffset v.chars v.cursor)
  pure { v with chars := before ++ new ++ after, cursor := v.cursor + new.length }

/-- Takes out the characters from an index up to the cursor. -/
def erase? (start : Nat) (v : Indexed) : Option Indexed := do
  let (kept, after) ← cutAt? v.chars (byteOffset v.chars v.cursor)
  let (before, _) ← cutAt? kept (byteOffset v.chars start)
  pure { v with chars := before ++ after, cursor := start }

/-- The line is no longer one of the submitted ones. -/
def stopBrowsing (v : Indexed) : Indexed := { v with browsing := false, position := 0 }

/-- Shows the submitted line at a position, with the cursor at its end. -/
def select? (position : Nat) (v : Indexed) : Option Indexed := do
  let line ← lineAt? v.history position
  pure { v with
    chars := line.toList, cursor := line.toList.length, browsing := true, position := position }

/-- Keeps the line, unless it is empty, and starts an empty one. -/
def submit (v : Indexed) : Indexed :=
  { history := if v.chars.isEmpty then v.history else String.ofList v.chars :: v.history }

/-- The index to the left: that of a word with control, of a character without. -/
def left? (m : Modifiers) (v : Indexed) : Option Nat :=
  if m.control then wordStart? v.chars (v.cursor - 1) else some (v.cursor - 1)

/-- The index to the right: that of a space with control, of a character without. -/
def right (m : Modifiers) (v : Indexed) : Nat :=
  if m.control then wordEnd v.chars (v.cursor + 1) else min (v.cursor + 1) v.chars.length

/-- Whether up and down walk through the submitted lines. -/
def canBrowse (v : Indexed) : Bool := v.browsing || v.chars.isEmpty

/-- The line, the clipboard and the response after one key, unless a number is wrong. -/
def press? (key : Key) (m : Modifiers) (clipboard : String) (v : Indexed) :
    Option (Indexed × String × Response) :=
  match key with
  | .escape => some (v, clipboard, .close)
  | .backspace => do
    if v.cursor = 0 then return (v, clipboard, .nothing)
    let erased ← v.erase? (← v.left? m)
    return (erased.stopBrowsing, clipboard, .nothing)
  | .left => do return ({ v with cursor := ← v.left? m }, clipboard, .nothing)
  | .right => some ({ v with cursor := v.right m }, clipboard, .nothing)
  | .up => do
    if !v.canBrowse then return (v, clipboard, .nothing)
    return (← v.select? (min (v.position + 1) v.history.length), clipboard, .nothing)
  | .down => do
    if !v.canBrowse then return (v, clipboard, .nothing)
    return (← v.select? (min (v.position - 1) v.history.length), clipboard, .nothing)
  | .enter => some (v.submit, clipboard, .submit (String.ofList v.chars))
  | .char c =>
    if m.control then
      match c.toLower with
      | 'c' => some (v, String.ofList v.chars, .nothing)
      | 'v' => do return (← v.insert? (pasteable clipboard), clipboard, .nothing)
      | _ => some (v, clipboard, .nothing)
    else do
      let typed ← v.insert? [Key.typed m c]
      return (typed.stopBrowsing, clipboard, .nothing)
  | _ => some (v, clipboard, .nothing)

/-- The line after something happened to it. -/
def input? : Input → Indexed → Option Indexed
  | .key k m clipboard, v => (v.press? k m clipboard).map Prod.fst
  | .tick _, v => some v

/-- The line after some inputs, the first one first. -/
def run? (inputs : List Input) : Option Indexed := inputs.foldlM (fun v x => v.input? x) {}

/-- The line after further inputs, the first one first. -/
def applyAll? (inputs : List Input) (v : Indexed) : Option Indexed :=
  inputs.foldlM (fun v x => v.input? x) v

/-! ## Offsets are where characters start -/

theorem byteOffset_succ (c : Char) (cs : List Char) (i : Nat) :
    byteOffset (c :: cs) (i + 1) = c.utf8Size + byteOffset cs i := by
  rw [byteOffset, List.take_succ_cons, List.map_cons, List.sum_cons, byteOffset]

/-- Further characters do not change where the first ones start. -/
theorem byteOffset_append {cs : List Char} {i : Nat} (h : i ≤ cs.length) (more : List Char) :
    byteOffset (cs ++ more) i = byteOffset cs i := by
  rw [byteOffset, byteOffset, List.take_append_of_le_length h]

theorem cutAt?_cons {c : Char} {cs : List Char} {n : Nat} :
    cutAt? (c :: cs) (c.utf8Size + n) =
      (cutAt? cs n).map fun (before, after) => (c :: before, after) := by
  have hpos := c.utf8Size_pos
  obtain ⟨k, hk⟩ : ∃ k, c.utf8Size + n = k + 1 := ⟨c.utf8Size + n - 1, by omega⟩
  rw [hk, cutAt?, if_pos (by omega), ← hk, Nat.add_sub_cancel_left]

/-- **A text can be cut at every character.** -/
theorem cutAt?_byteOffset (cs : List Char) (i : Nat) :
    cutAt? cs (byteOffset cs i) = some (cs.take i, cs.drop i) := by
  induction cs generalizing i with
  | nil =>
    rw [byteOffset, List.take_nil, List.drop_nil]
    rfl
  | cons c cs ih =>
    cases i with
    | zero => rfl
    | succ i =>
      rw [byteOffset_succ, cutAt?_cons, ih, List.take_succ_cons, List.drop_succ_cons]
      rfl

/-- **Looking for the start of a word stays in the text.**  What stands before the cursor is given
nearest character first. -/
theorem wordStart?_eq (before after : List Char) :
    wordStart? (before.reverse ++ after) before.length =
      some (before.dropWhile (· != ' ')).length := by
  -- A character that is passed belongs to what stands after the index.
  induction before generalizing after with
  | nil => rfl
  | cons c rest ih =>
    have hsplit : (c :: rest).reverse ++ after = rest.reverse ++ (c :: after) := by
      rw [List.reverse_cons, List.append_assoc, List.singleton_append]
    have hread : (rest.reverse ++ (c :: after))[rest.length]? = some c := by
      rw [List.getElem?_append_right (Nat.le_of_eq List.length_reverse), List.length_reverse,
        Nat.sub_self, List.getElem?_cons_zero]
    rw [hsplit, List.length_cons, wordStart?, hread]
    by_cases hc : c = ' '
    · rw [List.dropWhile_cons_of_neg (by simp [hc])]
      exact if_pos hc
    · rw [List.dropWhile_cons_of_pos (by simpa using hc), ← ih]
      exact if_neg hc

theorem wordEnd_eq (before after : List Char) :
    wordEnd (before ++ after) before.length =
      before.length + (after.takeWhile (· != ' ')).length := by
  induction after generalizing before with
  | nil =>
    rw [wordEnd, List.append_nil, dif_neg (Nat.lt_irrefl _)]
    rfl
  | cons c rest ih =>
    have hlt : before.length < (before ++ c :: rest).length := by
      rw [List.length_append, List.length_cons]
      omega
    have hread : (before ++ c :: rest)[before.length] = c := by simp
    rw [wordEnd, dif_pos hlt, hread]
    by_cases hc : c = ' '
    · rw [if_pos hc, List.takeWhile_cons_of_neg (by simp [hc])]
      rfl
    · have hnext := ih (before ++ [c])
      rw [List.append_assoc, List.singleton_append, List.length_append, List.length_singleton]
        at hnext
      rw [if_neg hc, hnext, List.takeWhile_cons_of_pos (by simpa using hc), List.length_cons]
      omega

/-! ## Key by key -/

variable (e : Editor)

/-- The offset of the cursor is between the two halves of the line. -/
theorem cutAt?_cursor :
    cutAt? e.chars (byteOffset e.chars e.cursor) = some (e.before.reverse, e.after) := by
  rw [cutAt?_byteOffset, take_cursor, drop_cursor]

theorem insert?_ofEditor (cs : List Char) :
    (ofEditor e).insert? cs = some (ofEditor (e.insert cs)) := by
  have hcut : cutAt? (ofEditor e).chars (byteOffset (ofEditor e).chars (ofEditor e).cursor) =
      some (e.before.reverse, e.after) := cutAt?_cursor e
  rw [insert?, hcut]
  simp only [ofEditor, chars_insert, cursor_insert]
  rfl

theorem erase?_ofEditor (n : Nat) :
    (ofEditor e).erase? (e.cursor - n) = some (ofEditor (e.erase n)) := by
  have hcut : cutAt? (ofEditor e).chars (byteOffset (ofEditor e).chars (ofEditor e).cursor) =
      some (e.before.reverse, e.after) := cutAt?_cursor e
  have hle : e.cursor - n ≤ e.before.reverse.length := by
    rw [List.length_reverse, Editor.cursor]
    omega
  have hstart : byteOffset (ofEditor e).chars (e.cursor - n) =
      byteOffset e.before.reverse (e.cursor - n) := byteOffset_append hle e.after
  have hkept : e.before.reverse.take (e.cursor - n) = (e.before.drop n).reverse :=
    List.reverse_drop.symm
  have hcursor : (e.erase n).cursor = e.cursor - n := List.length_drop
  rw [erase?, hcut]
  show (do
    let (before, _) ← cutAt? e.before.reverse (byteOffset (ofEditor e).chars (e.cursor - n))
    pure { ofEditor e with chars := before ++ e.after, cursor := e.cursor - n }) = _
  rw [hstart, cutAt?_byteOffset, hkept, ← hcursor]
  rfl

theorem lineAt?_eq {history : List String} {n : Nat} (h : n ≤ history.length) :
    lineAt? history n = some (entry history n) := by
  cases n with
  | zero => rfl
  | succ n =>
    rw [lineAt?, entry, if_neg (Nat.succ_ne_zero n), Nat.add_sub_cancel, List.getD_eq_getElem?_getD,
      List.getElem?_eq_getElem h]
    rfl

theorem select?_ofEditor {n : Nat} (h : n ≤ e.history.length) :
    (ofEditor e).select? n = some (ofEditor (e.select n)) := by
  have hentry : lineAt? (ofEditor e).history n = some (entry e.history n) := lineAt?_eq h
  have hchars : (e.select n).chars = (entry e.history n).toList := by
    simp [Editor.chars, select]
  have hcursor : (e.select n).cursor = (entry e.history n).toList.length := by
    simp [Editor.cursor, select]
  rw [select?, hentry]
  show some _ = some _
  rw [ofEditor, ofEditor, hchars, hcursor]
  rfl

/-- A step to the left looks at no character outside the line. -/
theorem left?_ofEditor (m : Modifiers) :
    (ofEditor e).left? m = some (e.cursor - e.stepLeft m) := by
  unfold left? stepLeft
  by_cases hcontrol : m.control = true
  · rw [if_pos hcontrol, if_pos hcontrol]
    show wordStart? e.chars (e.before.length - 1) = some (e.before.length - wordLeft e.before)
    rw [Editor.chars]
    cases e.before with
    | nil => rfl
    | cons c rest =>
      have hlength := congrArg List.length
        (List.takeWhile_append_dropWhile (p := (· != ' ')) (l := rest))
      rw [List.length_append] at hlength
      rw [List.reverse_cons, List.append_assoc, List.singleton_append, List.length_cons,
        Nat.add_sub_cancel, wordStart?_eq, wordLeft]
      congr 1
      omega
  · rw [if_neg hcontrol, if_neg hcontrol]
    show some (e.before.length - 1) = some (e.before.length - min 1 e.before.length)
    congr 1
    omega

theorem length_chars : e.chars.length = e.before.length + e.after.length := by
  rw [Editor.chars, List.length_append, List.length_reverse]

theorem right_ofEditor (m : Modifiers) : (ofEditor e).right m = e.cursor + e.stepRight m := by
  unfold right stepRight
  by_cases hcontrol : m.control = true
  · rw [if_pos hcontrol, if_pos hcontrol]
    show wordEnd e.chars (e.before.length + 1) = e.before.length + wordRight e.after
    have hlength := length_chars e
    cases hafter : e.after with
    | nil =>
      rw [hafter, List.length_nil] at hlength
      rw [wordEnd, dif_neg (by omega), wordRight]
      exact hlength
    | cons c rest =>
      have hsplit : e.chars = (e.before.reverse ++ [c]) ++ rest := by
        rw [Editor.chars, hafter, List.append_assoc, List.singleton_append]
      have hindex : e.before.length + 1 = (e.before.reverse ++ [c]).length := by
        rw [List.length_append, List.length_reverse, List.length_singleton]
      rw [hsplit, hindex, wordEnd_eq, ← hindex, wordRight]
      omega
  · rw [if_neg hcontrol, if_neg hcontrol]
    show min (e.before.length + 1) e.chars.length = e.before.length + min 1 e.after.length
    rw [length_chars]
    omega

theorem stepRight_le (m : Modifiers) : e.stepRight m ≤ e.after.length := by
  unfold stepRight
  split
  · cases e.after with
    | nil => exact Nat.le_refl _
    | cons c rest =>
      rw [wordRight, List.length_cons]
      exact Nat.succ_le_succ (List.takeWhile_sublist _).length_le
  · exact Nat.min_le_right _ _

theorem isEmpty_chars : e.chars.isEmpty = e.isEmpty := by
  rw [isEmpty, Editor.chars]
  cases e.before <;> cases e.after <;> simp

theorem canBrowse_ofEditor : (ofEditor e).canBrowse = e.canBrowse := by
  show (e.isBrowsing || e.chars.isEmpty) = (e.isBrowsing || e.isEmpty)
  rw [isEmpty_chars]

theorem ofEditor_moveLeft (n : Nat) :
    ofEditor (e.moveLeft n) = { ofEditor e with cursor := e.cursor - n } := by
  have hcursor : (e.moveLeft n).cursor = e.cursor - n := List.length_drop
  rw [ofEditor, chars_moveLeft, hcursor]
  rfl

theorem ofEditor_moveRight {n : Nat} (h : n ≤ e.after.length) :
    ofEditor (e.moveRight n) = { ofEditor e with cursor := e.cursor + n } := by
  have hcursor : (e.moveRight n).cursor = e.cursor + n := by
    rw [Editor.cursor, moveRight, List.length_append, List.length_reverse, List.length_take,
      Nat.min_eq_left h, Editor.cursor, Nat.add_comm]
  rw [ofEditor, chars_moveRight, hcursor]
  rfl

theorem ofEditor_submit : ofEditor e.submit = (ofEditor e).submit := by
  show _ = ({ history := if e.chars.isEmpty then e.history else e.text :: e.history } : Indexed)
  rw [isEmpty_chars]
  rfl

/-- Up and down show the submitted line at a position that is there, or leave the line alone. -/
theorem browse?_ofEditor {n : Nat} (h : n ≤ e.history.length) (clipboard : String) :
    (do
      if !(ofEditor e).canBrowse then return (ofEditor e, clipboard, .nothing)
      return (← (ofEditor e).select? n, clipboard, .nothing)) =
      some (ofEditor (if e.canBrowse then e.select n else e), clipboard, Response.nothing) := by
  rw [canBrowse_ofEditor, select?_ofEditor e h]
  cases e.canBrowse <;> rfl

/-- **Whatever is pressed, the line that counts has a result, and it is the one of the editor.** -/
theorem press?_ofEditor (key : Key) (m : Modifiers) (clipboard : String) :
    (ofEditor e).press? key m clipboard =
      some (ofEditor (e.press key m clipboard).1, (e.press key m clipboard).2) := by
  cases key with
  | backspace =>
    rw [press?, press]
    by_cases hbefore : e.before.isEmpty = true
    · have hcursor : (ofEditor e).cursor = 0 := congrArg List.length (List.isEmpty_iff.1 hbefore)
      rw [if_pos hcursor, if_pos hbefore]
      rfl
    · have hcursor : (ofEditor e).cursor ≠ 0 := by
        intro hzero
        exact hbefore (List.isEmpty_iff.2 (List.eq_nil_of_length_eq_zero hzero))
      rw [if_neg hcursor, if_neg hbefore, left?_ofEditor]
      show ((ofEditor e).erase? (e.cursor - e.stepLeft m) >>= _) = _
      rw [erase?_ofEditor]
      rfl
  | left =>
    rw [press?, left?_ofEditor]
    show _ = some (ofEditor (e.moveLeft (e.stepLeft m)), clipboard, Response.nothing)
    rw [ofEditor_moveLeft]
    rfl
  | right =>
    rw [press?, right_ofEditor]
    show _ = some (ofEditor (e.moveRight (e.stepRight m)), clipboard, Response.nothing)
    rw [ofEditor_moveRight e (stepRight_le e m)]
  | up => exact browse?_ofEditor e (Nat.min_le_right _ _) clipboard
  | down => exact browse?_ofEditor e (Nat.min_le_right _ _) clipboard
  | enter =>
    show _ = some (ofEditor e.submit, clipboard, Response.submit e.text)
    rw [ofEditor_submit]
    rfl
  | char c =>
    rw [press?, press]
    by_cases hcontrol : m.control = true
    · rw [if_pos hcontrol, if_pos hcontrol]
      -- Only pasting changes the line.
      split
      · simp only [*]
        rfl
      · simp only [*, insert?_ofEditor]
        rfl
      · simp only [*]
    · rw [if_neg hcontrol, if_neg hcontrol, insert?_ofEditor]
      rfl
  | _ => rfl

/-! ## All runs -/

theorem input?_ofEditor (x : Input) : (ofEditor e).input? x = some (ofEditor (x.apply e)) := by
  cases x with
  | tick dt => rfl
  | key k m clipboard =>
    rw [input?, press?_ofEditor]
    rfl

/-- **Further inputs do to the line that counts what they do to the editor.** -/
theorem applyAll?_ofEditor (inputs : List Input) :
    applyAll? inputs (ofEditor e) = some (ofEditor (applyAll inputs e)) := by
  induction inputs generalizing e with
  | nil => rfl
  | cons x inputs ih =>
    rw [applyAll?, List.foldlM_cons, input?_ofEditor]
    exact ih (x.apply e)

/-- **After any inputs the line that counts is the one of the editor.** -/
theorem run?_eq (period : Binary32) (inputs : List Input) :
    run? inputs = some (ofEditor (run period inputs)) :=
  applyAll?_ofEditor (ofPeriod period) inputs

end Indexed

/-! ## What an input can do to the submitted lines and to the position -/

/-- **An input keeps the submitted lines, and the position is kept, given up or taken among them;
or it is the enter key, which submits the line.** -/
theorem apply_cases (x : Input) (e : Editor) :
    ((x.apply e).history = e.history ∧
        ((x.apply e).browsing = e.browsing ∨ (x.apply e).browsing = none ∨
          ∃ n ≤ e.history.length, (x.apply e).browsing = some n)) ∨
      ∃ m clipboard, x = .key .enter m clipboard := by
  cases x with
  | tick dt => exact .inl ⟨rfl, .inl rfl⟩
  | key k m clipboard =>
    cases k with
    | enter => exact .inr ⟨m, clipboard, rfl⟩
    | up | down =>
      left
      rw [Input.apply, press]
      split
      · exact ⟨rfl, .inr (.inr ⟨_, Nat.min_le_right _ _, rfl⟩)⟩
      · exact ⟨rfl, .inl rfl⟩
    | backspace =>
      left
      rw [Input.apply, press]
      split
      · exact ⟨rfl, .inl rfl⟩
      · exact ⟨rfl, .inr (.inl rfl)⟩
    | char c =>
      left
      rw [Input.apply, press]
      split
      · split <;> exact ⟨rfl, .inl rfl⟩
      · exact ⟨rfl, .inr (.inl rfl)⟩
    | _ => exact .inl ⟨rfl, .inl rfl⟩

/-- The position is among the submitted lines, and none of them is empty. -/
structure KeepsCount (e : Editor) : Prop where
  position : e.position ≤ e.history.length
  nonempty : ∀ line ∈ e.history, line ≠ ""

theorem history_submit (e : Editor) :
    e.submit.history = if e.isEmpty then e.history else e.text :: e.history := rfl

theorem text_ne_empty {e : Editor} (h : e.isEmpty = false) : e.text ≠ "" := by
  intro htext
  have hchars : e.chars = [] := String.ofList_eq_empty_iff.1 htext
  rw [← Indexed.isEmpty_chars, hchars] at h
  cases h

/-- **Every input keeps the count.** -/
theorem KeepsCount.apply {e : Editor} (h : e.KeepsCount) (x : Input) : (x.apply e).KeepsCount := by
  obtain ⟨hposition, hnonempty⟩ := h
  rcases apply_cases x e with ⟨hhistory, hbrowsing⟩ | ⟨m, clipboard, rfl⟩
  · refine ⟨?_, hhistory ▸ hnonempty⟩
    rw [hhistory, Editor.position]
    rcases hbrowsing with hsame | hnone | ⟨n, hn, hsome⟩
    · rw [hsame]
      exact hposition
    · rw [hnone]
      exact Nat.zero_le _
    · rw [hsome]
      exact hn
  · refine ⟨Nat.zero_le _, ?_⟩
    show ∀ line ∈ e.submit.history, line ≠ ""
    rw [history_submit]
    cases hempty : e.isEmpty with
    | true => exact hnonempty
    | false => exact List.forall_mem_cons.2 ⟨text_ne_empty hempty, hnonempty⟩

theorem keepsCount_run (period : Binary32) (inputs : List Input) :
    (run period inputs).KeepsCount := by
  induction inputs using List.reverseRecOn with
  | nil => exact ⟨Nat.le_refl 0, fun line h => absurd h List.not_mem_nil⟩
  | append_singleton inputs x ih =>
    rw [run_snoc]
    exact ih.apply x

/-- Every input but the enter key in a line with text keeps the submitted lines. -/
theorem history_apply {x : Input} {e : Editor}
    (h : ∀ m clipboard, x = .key .enter m clipboard → e.isEmpty = true) :
    (x.apply e).history = e.history := by
  rcases apply_cases x e with ⟨hhistory, -⟩ | ⟨m, clipboard, rfl⟩
  · exact hhistory
  · show e.submit.history = e.history
    rw [history_submit, h m clipboard rfl]
    rfl

/-- **After any inputs all numbers of the line are within their bounds.**  The cursor is in the
line, the position among the submitted lines, zero when none of them is shown, and no submitted line
is empty.  Only the enter key in a line with text changes the submitted lines, and puts that text
before them.  A response that submits has the text of the line, and leaves an empty one with the
cursor at its start.  A line that counts, and that has no result when a character is looked for
outside the text, an offset is not between two characters or a submitted line is not there, has a
result after these inputs and after any further key: that of the editor. -/
theorem run_within_bounds (period : Binary32) (inputs : List Input) :
    let e := run period inputs
    (e.cursor ≤ e.chars.length ∧ e.position ≤ e.history.length ∧
      (e.isBrowsing = false → e.position = 0) ∧ ∀ line ∈ e.history, line ≠ "") ∧
    ((∀ x : Input, (∀ m clipboard, x = .key .enter m clipboard → e.isEmpty = true) →
        (x.apply e).history = e.history) ∧
      ∀ m clipboard, e.isEmpty = false →
        (e.press .enter m clipboard).1.history = e.text :: e.history) ∧
    (∀ key m clipboard line, (e.press key m clipboard).2.2 = .submit line →
      line = e.text ∧ (e.press key m clipboard).1.text = "" ∧
        (e.press key m clipboard).1.cursor = 0) ∧
    Indexed.run? inputs = some (.ofEditor e) ∧
      ∀ key m clipboard, (Indexed.ofEditor e).press? key m clipboard =
        some (.ofEditor (e.press key m clipboard).1, (e.press key m clipboard).2) := by
  intro e
  obtain ⟨hposition, hnonempty⟩ := keepsCount_run period inputs
  refine ⟨⟨?_, hposition, fun hidle => ?_, hnonempty⟩, ⟨fun x h => history_apply h, ?_⟩, ?_, ?_⟩
  · rw [Indexed.length_chars]
    exact Nat.le_add_right _ _
  · rw [position, Option.not_isSome_iff_eq_none.1 (Bool.eq_false_iff.1 hidle)]
    rfl
  · intro m clipboard hempty
    show e.submit.history = e.text :: e.history
    rw [history_submit, hempty]
    rfl
  · intro key m clipboard line hsubmit
    -- The response tells which key it was.
    by_cases hkey : key = .enter
    · subst hkey
      cases hsubmit
      exact ⟨rfl, rfl, rfl⟩
    · rcases response_press hkey m clipboard e with hresponse | hresponse
      · rw [hresponse] at hsubmit
        cases hsubmit
      · rw [hresponse] at hsubmit
        cases hsubmit
  · exact ⟨Indexed.run?_eq period inputs, fun key m clipboard => Indexed.press?_ofEditor e key m _⟩

/-- In the line `a é`, after a step of a word to the left, the cursor is before the letter of two
bytes.  Typing there keeps the submitted lines, and the enter key submits the line. -/
theorem run_within_bounds_word :
    let inputs : List Input := [.key (.char 'a') {} "", .key (.char ' ') {} "",
      .key (.char 'é') {} "", .key .left { control := true } ""]
    let e := run (.ofNat 1) inputs
    (e.text = "a é" ∧ e.cursor = 2 ∧ e.cursor ≤ e.chars.length ∧ e.isBrowsing = false ∧
      e.position = 0) ∧
    (Input.apply (.key (.char 'x') {} "") e).history = e.history ∧
    (e.isEmpty = false ∧ (e.press .enter {} "").1.history = e.text :: e.history) ∧
    ((e.press .enter {} "").2.2 = .submit "a é" ∧ "a é" = e.text ∧
      (e.press .enter {} "").1.text = "" ∧ (e.press .enter {} "").1.cursor = 0) ∧
    Indexed.run? inputs = some (.ofEditor e) := by
  intro inputs e
  obtain ⟨⟨hcursor, -, hidle, -⟩, ⟨hkept, henter⟩, hsubmit, hrun, -⟩ :=
    run_within_bounds (.ofNat 1) inputs
  have htext : e.text = "a é" := by decide +kernel
  have hbrowsing : e.isBrowsing = false := by decide +kernel
  have hempty : e.isEmpty = false := by decide +kernel
  have hresponse : (e.press .enter {} "").2.2 = .submit "a é" := by decide +kernel
  refine ⟨⟨htext, by decide +kernel, hcursor, hbrowsing, hidle hbrowsing⟩, ?_,
    ⟨hempty, henter {} "" hempty⟩, ⟨hresponse, hsubmit _ _ _ _ hresponse⟩, hrun⟩
  exact hkept _ fun m clipboard h => nomatch h

end DevConsole.Editor
