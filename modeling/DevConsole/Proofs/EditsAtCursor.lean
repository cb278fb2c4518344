import DevConsole.Proofs.IndexedLine

/-! # Edits at the cursor

Typing and pasting put characters in at the cursor, and backspace takes them out there.  What stands
after the cursor is none of their business: they leave it as it is, and they do to what stands
before it the same whatever comes after (`Input.Edits.after`, `Input.Edits.before`).

What is put in comes to stand right before the cursor, last character nearest
(`halves_of_puts`), and backspace takes the nearest one first (`halves_of_erasesOne`).  So as many
presses of backspace as there are characters take out exactly those that were put in, and the line
and the cursor are what they were.

A line that counts turns the cursor into an offset in bytes for every character that it puts in or
takes out, and characters differ in size.  It comes back to where it was all the same, since it
follows the editor step by step (`Indexed.applyAll?_ofEditor`).
-/
namespace DevConsole.Editor

variable {e : Editor}

/-! ## Inputs that edit -/

namespace Input

/-- The input puts these characters in at the cursor. -/
inductive Puts : Input → List Char → Prop
  /-- A character key without control gives its character, or what shift makes of it. -/
  | typed (c : Char) {m : Modifiers} (clipboard : String) (plain : m.control = false) :
      Puts (.key (.char c) m clipboard) [if m.shift then (Key.shifted? c).getD c else c]
  /-- The letter v with control gives the clipboard without its control characters. -/
  | pasted {c : Char} {m : Modifiers} (clipboard : String) (control : m.control = true)
      (letter : c = 'v' ∨ c = 'V') :
      Puts (.key (.char c) m clipboard) (clipboard.toList.filter fun c => !isControl c)

/-- The input takes out one character before the cursor: it is backspace without control. -/
inductive ErasesOne : Input → Prop
  | backspace {m : Modifiers} (clipboard : String) (plain : m.control = false) :
      ErasesOne (.key .backspace m clipboard)

/-- The input puts characters in at the cursor, or takes out some before it. -/
inductive Edits : Input → Prop
  | puts {x : Input} {cs : List Char} (h : x.Puts cs) : Edits x
  | backspace (m : Modifiers) (clipboard : String) : Edits (.key .backspace m clipboard)

end Input

/-- Lines with the same halves have the same characters and the cursor at the same place. -/
theorem chars_cursor_of_halves {e' : Editor} (hbefore : e'.before = e.before)
    (hafter : e'.after = e.after) : e'.chars = e.chars ∧ e'.cursor = e.cursor := by
  rw [chars, cursor, hbefore, hafter]
  exact ⟨rfl, rfl⟩

/-! ## One input -/

theorem apply_of_puts {x : Input} {cs : List Char} (h : x.Puts cs) (e : Editor) :
    (x.apply e).before = cs.reverse ++ e.before ∧ (x.apply e).after = e.after := by
  cases h with
  | @typed c m clipboard hplain =>
    have happly : (Input.key (.char c) m clipboard).apply e =
        ((e.insert [Key.typed m c]).stopBrowsing.restartBlink) := by
      simp [Input.apply, press, hplain]
    rw [happly]
    exact ⟨rfl, rfl⟩
  | @pasted c m clipboard hcontrol hletter =>
    have hlower : c.toLower = 'v' := by
      rcases hletter with rfl | rfl <;> rfl
    have happly : (Input.key (.char c) m clipboard).apply e = e.insert (pasteable clipboard) := by
      simp [Input.apply, press, hcontrol, hlower]
    rw [happly]
    exact ⟨rfl, rfl⟩

/-- Backspace takes out as many characters as a step to the left goes, which are none at the start
of the line. -/
theorem apply_backspace (m : Modifiers) (clipboard : String) (e : Editor) :
    ((Input.key .backspace m clipboard).apply e).before = e.before.drop (e.stepLeft m) ∧
      ((Input.key .backspace m clipboard).apply e).after = e.after := by
  rw [Input.apply, press]
  by_cases hstart : e.before.isEmpty = true
  · rw [if_pos hstart]
    have hnil : e.before = [] := List.isEmpty_iff.1 hstart
    refine ⟨?_, rfl⟩
    rw [hnil, List.drop_nil]
    exact hnil
  · rw [if_neg hstart]
    exact ⟨rfl, rfl⟩

theorem apply_of_erasesOne {x : Input} (h : x.ErasesOne) (e : Editor) :
    (x.apply e).before = e.before.drop 1 ∧ (x.apply e).after = e.after := by
  cases h with
  | @backspace m clipboard hplain =>
    obtain ⟨hbefore, hafter⟩ := apply_backspace m clipboard e
    refine ⟨?_, hafter⟩
    have hstep : e.stepLeft m = min 1 e.before.length := by
      rw [stepLeft, if_neg (Bool.eq_false_iff.1 hplain)]
    rw [hbefore, hstep]
    cases e.before with
    | nil => rfl
    | cons c rest => rw [List.length_cons, Nat.min_eq_left (Nat.succ_le_succ (Nat.zero_le _))]

/-- **An edit leaves alone what stands after the cursor.** -/
theorem Input.Edits.after {x : Input} (h : x.Edits) (e : Editor) : (x.apply e).after = e.after := by
  cases h with
  | puts h => exact (apply_of_puts h e).2
  | backspace m clipboard => exact (apply_backspace m clipboard e).2

/-- **An edit does the same to what stands before the cursor, whatever comes after.** -/
theorem Input.Edits.before {x : Input} (h : x.Edits) {e e' : Editor}
    (hbefore : e.before = e'.before) : (x.apply e).before = (x.apply e').before := by
  cases h with
  | puts h => rw [(apply_of_puts h e).1, (apply_of_puts h e').1, hbefore]
  | backspace m clipboard =>
    have hstep : e.stepLeft m = e'.stepLeft m := by rw [stepLeft, stepLeft, hbefore]
    rw [(apply_backspace m clipboard e).1, (apply_backspace m clipboard e').1, hbefore, hstep]

/-! ## Any inputs -/

/-- **What is put in comes to stand before the cursor, in order.** -/
theorem halves_of_puts {inputs : List Input} {pieces : List (List Char)}
    (h : List.Forall₂ Input.Puts inputs pieces) (e : Editor) :
    (applyAll inputs e).before = pieces.flatten.reverse ++ e.before ∧
      (applyAll inputs e).after = e.after := by
  induction h generalizing e with
  | nil => exact ⟨rfl, rfl⟩
  | @cons x cs inputs pieces hfirst _ ih =>
    obtain ⟨hbefore, hafter⟩ := apply_of_puts hfirst e
    obtain ⟨hbefore', hafter'⟩ := ih (x.apply e)
    rw [applyAll_cons, hbefore', hafter', hbefore, hafter, List.flatten_cons, List.reverse_append,
      List.append_assoc]
    exact ⟨rfl, rfl⟩

/-- **Backspace takes out the nearest characters before the cursor.** -/
theorem halves_of_erasesOne {backs : List Input} (h : ∀ x ∈ backs, x.ErasesOne) (e : Editor) :
    (applyAll backs e).before = e.before.drop backs.length ∧
      (applyAll backs e).after = e.after := by
  induction backs generalizing e with
  | nil => exact ⟨rfl, rfl⟩
  | cons x backs ih =>
    obtain ⟨hfirst, hbacks⟩ := List.forall_mem_cons.1 h
    obtain ⟨hbefore, hafter⟩ := apply_of_erasesOne hfirst e
    obtain ⟨hbefore', hafter'⟩ := ih hbacks (x.apply e)
    rw [applyAll_cons, hbefore', hafter', hbefore, hafter, List.drop_drop, List.length_cons,
      Nat.add_comm]
    exact ⟨rfl, rfl⟩

theorem halves_of_edits {edits : List Input} (h : ∀ x ∈ edits, x.Edits) {e e' : Editor}
    (hbefore : e.before = e'.before) :
    (applyAll edits e).after = e.after ∧
      (applyAll edits e).before = (applyAll edits e').before := by
  induction edits generalizing e e' with
  | nil => exact ⟨rfl, hbefore⟩
  | cons x edits ih =>
    obtain ⟨hfirst, hedits⟩ := List.forall_mem_cons.1 h
    obtain ⟨hafter, hsame⟩ := ih hedits (hfirst.before hbefore)
    exact ⟨hafter.trans (hfirst.after e), hsame⟩

/-- **Backspace undoes insertion, and edits act only at the cursor.**  Take any line, with the
cursor between what is left and what is right of it.  Let any keys type characters and paste
clipboards, in any order: the line is then what was left, the characters that were put in, and what
was right, with the cursor after them.  As many presses of backspace as there are such characters
bring back the line and the cursor; so they do for a line that counts, which cuts at offsets in
bytes.  No typing, pasting or backspace, with control or without, changes what is right of the
cursor, and what they make of the left side does not depend on it. -/
theorem backspace_undoes_insertion (e : Editor) :
    let left := e.chars.take e.cursor
    let right := e.chars.drop e.cursor
    (∀ inputs pieces, List.Forall₂ Input.Puts inputs pieces →
      let s := pieces.flatten
      let put := applyAll inputs e
      (put.chars = left ++ s ++ right ∧ put.cursor = left.length + s.length) ∧
      ∀ backs : List Input, (∀ x ∈ backs, x.ErasesOne) → backs.length = s.length →
        ((applyAll backs put).chars = e.chars ∧ (applyAll backs put).cursor = e.cursor) ∧
        ∃ v, Indexed.applyAll? (inputs ++ backs) (.ofEditor e) = some v ∧
          v.chars = e.chars ∧ v.cursor = e.cursor) ∧
    ∀ edits : List Input, (∀ x ∈ edits, x.Edits) →
      let edited := applyAll edits e
      edited.chars.drop edited.cursor = right ∧
      ∀ e' : Editor, e'.chars.take e'.cursor = left →
        let edited' := applyAll edits e'
        edited'.chars.take edited'.cursor = edited.chars.take edited.cursor := by
  intro left right
  have hleft : left = e.before.reverse := take_cursor e
  have hright : right = e.after := drop_cursor e
  refine ⟨fun inputs pieces hputs => ?_, fun edits hedits => ?_⟩
  · intro s put
    obtain ⟨hbefore, hafter⟩ : put.before = s.reverse ++ e.before ∧ put.after = e.after :=
      halves_of_puts hputs e
    refine ⟨⟨?_, ?_⟩, fun backs hbacks hlength => ?_⟩
    · rw [chars, hbefore, hafter, hleft, hright, List.reverse_append, List.reverse_reverse]
    · rw [cursor, hbefore, hleft, List.length_append, List.length_reverse, List.length_reverse,
        Nat.add_comm]
    · obtain ⟨hbefore', hafter'⟩ := halves_of_erasesOne hbacks put
      -- As many characters go as were put in.
      have hnumber : backs.length = s.reverse.length := by rw [hlength, List.length_reverse]
      have hback : (applyAll backs put).before = e.before := by
        rw [hbefore', hbefore, hnumber, List.drop_left]
      obtain ⟨hchars, hcursor⟩ := chars_cursor_of_halves hback (hafter'.trans hafter)
      refine ⟨⟨hchars, hcursor⟩, _, Indexed.applyAll?_ofEditor e _, ?_⟩
      rw [applyAll_append]
      exact ⟨hchars, hcursor⟩
  · intro edited
    refine ⟨?_, fun e' he' => ?_⟩
    · rw [drop_cursor, hright]
      exact (halves_of_edits hedits rfl).1
    · intro edited'
      have hbefore : e'.before = e.before := by
        rw [hleft, take_cursor] at he'
        exact List.reverse_inj.1 he'
      rw [take_cursor, take_cursor]
      exact congrArg List.reverse (halves_of_edits hedits hbefore).2

/-- Between letters of two and three bytes, `a` with shift and a clipboard of two lines are put in
as three characters, and three presses of backspace take them out again.  Backspace with control
takes the word before the cursor and leaves what is after it. -/
theorem backspace_undoes_insertion_bytes :
    let e : Editor := { before := ['é', ' '], after := ['€'], period := .ofNat 1 }
    let puts : List Input := [.key (.char 'a') { shift := true } "",
      .key (.char 'v') { control := true } "ß\n€"]
    let back : Input := .key .backspace {} ""
    let word : Input := .key .backspace { control := true } ""
    List.Forall₂ Input.Puts puts [['A'], ['ß', '€']] ∧
    ((applyAll puts e).text = " éAß€€" ∧ (applyAll puts e).cursor = 5 ∧
      (applyAll puts e).chars = [' ', 'é'] ++ ['A', 'ß', '€'] ++ ['€']) ∧
    ((applyAll [back, back, back] (applyAll puts e)).chars = e.chars ∧
      ∃ v, Indexed.applyAll? (puts ++ [back, back, back]) (.ofEditor e) = some v ∧
        v.chars = e.chars ∧ v.cursor = 2) ∧
    ((applyAll [word] e).text = " €" ∧
      (applyAll [word] e).chars.drop (applyAll [word] e).cursor = ['€']) := by
  intro e puts back word
  have hputs : List.Forall₂ Input.Puts puts [['A'], ['ß', '€']] :=
    .cons (.typed 'a' (m := { shift := true }) "" rfl)
      (.cons (.pasted "ß\n€" rfl (.inl rfl)) .nil)
  have hbacks : ∀ x ∈ [back, back, back], x.ErasesOne := by
    intro x hx
    obtain rfl : x = back := by simpa using hx
    exact .backspace "" rfl
  obtain ⟨hall, hedits⟩ := backspace_undoes_insertion e
  obtain ⟨⟨hchars, -⟩, hundo⟩ := hall puts _ hputs
  obtain ⟨⟨hundone, -⟩, hcounted⟩ := hundo [back, back, back] hbacks rfl
  obtain ⟨hright, -⟩ := hedits [word] (List.forall_mem_singleton.2 (.backspace _ _))
  exact ⟨hputs, ⟨by decide +kernel, by decide +kernel, hchars⟩, ⟨hundone, hcounted⟩,
    by decide +kernel, hright⟩

end DevConsole.Editor
