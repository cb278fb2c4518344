/-! # Lines of a text

Two ways to cut a text at its newlines.  `pieces` keeps everything between the
newlines, so a text with `n` newlines has `n + 1` pieces and they join up to the text
again.  `lines` is how a file or a stream is read: a newline ends a line, a carriage
return right before it belongs to the line end, and nothing follows the last newline.

Both are defined on lists, since a stream is cut before its bytes are decoded.
-/
namespace DevConsole.Text

variable {α : Type} [DecidableEq α]

/-- The runs between the occurrences of `mark`; there is always one at least. -/
def cut (mark : α) : List α → List (List α)
  | [] => [[]]
  | c :: cs =>
    if c = mark then [] :: cut mark cs
    else
      match cut mark cs with
      | [] => [[c]]
      | p :: ps => (c :: p) :: ps

/-- The list without a `mark` at its end. -/
def dropFinal (mark : α) (cs : List α) : List α :=
  if cs.getLast? = some mark then cs.dropLast else cs

/-- The lines among runs that newlines ended: the last run ended in none, so it keeps its
return, and it is no line when it is empty. -/
def linesOfCut (carriage : α) : List (List α) → List (List α)
  | [] => []
  | [last] => if last.isEmpty then [] else [last]
  | p :: ps => dropFinal carriage p :: linesOfCut carriage ps

/-- The pieces between the newlines of a text; there is always one at least. -/
def pieces (s : String) : List String := (cut '\n' s.toList).map String.ofList

/-- The lines of a text. -/
def lines (s : String) : List String :=
  (linesOfCut '\r' (cut '\n' s.toList)).map String.ofList

/-- The lines of a stream of bytes, and nothing for a line that is no text. -/
def linesOfBytes (bytes : ByteArray) : List (Option String) :=
  (linesOfCut (13 : UInt8) (cut (10 : UInt8) bytes.toList)).map fun line =>
    String.fromUTF8? ⟨line.toArray⟩

@[simp] theorem cut_nil (mark : α) : cut mark [] = [[]] := rfl

theorem cut_ne_nil (mark : α) : ∀ cs, cut mark cs ≠ []
  | [] => by simp
  | c :: cs => by
    unfold cut
    split
    · simp
    · split <;> simp

/-- Joined by marks, the runs are the list again. -/
theorem intercalate_cut (mark : α) (cs : List α) : List.intercalate [mark] (cut mark cs) = cs := by
  induction cs with
  | nil => rfl
  | cons c cs ih =>
    unfold cut
    cases hp : cut mark cs with
    | nil => exact absurd hp (cut_ne_nil mark cs)
    | cons p ps =>
      rw [hp] at ih
      by_cases h : c = mark
      · cases ps <;> simp_all [List.intercalate]
      · cases ps <;> simp_all [List.intercalate]

/-- No run holds a mark. -/
theorem not_mem_of_mem_cut {mark : α} {cs p : List α} (h : p ∈ cut mark cs) : mark ∉ p := by
  induction cs generalizing p with
  | nil => simp_all
  | cons c cs ih =>
    unfold cut at h
    split at h
    · rcases List.mem_cons.1 h with rfl | h
      · simp
      · exact ih h
    · rename_i hc
      cases hp : cut mark cs with
      | nil => exact absurd hp (cut_ne_nil mark cs)
      | cons q qs =>
        rw [hp] at h ih
        rcases List.mem_cons.1 h with rfl | h
        · have := ih List.mem_cons_self
          simp [this, Ne.symm hc]
        · exact ih (List.mem_cons_of_mem _ h)

end DevConsole.Text
