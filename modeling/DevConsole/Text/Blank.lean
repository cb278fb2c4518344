/-! # Blank characters and trimming

A character is blank when it has the Unicode property `White_Space`.  There are
twenty-five of them, and only six are ASCII.  Trimming works on lists of
characters; `trim` is the same thing on strings.

What is left neither starts nor ends with a blank (`head_trimChars`, `getLast_trimChars`),
and text that does neither stays as it is (`trimChars_eq_self`).
-/
namespace DevConsole.Text

/-- The property `White_Space`. -/
def isBlank (c : Char) : Bool :=
  let n := c.toNat
  (0x9 ≤ n && n ≤ 0xD) || n == 0x20 || n == 0x85 || n == 0xA0 || n == 0x1680 ||
    (0x2000 ≤ n && n ≤ 0x200A) || n == 0x2028 || n == 0x2029 || n == 0x202F ||
    n == 0x205F || n == 0x3000

/-- The characters from the first one that is not blank. -/
def trimStart (cs : List Char) : List Char := cs.dropWhile isBlank

/-- The characters up to the last one that is not blank. -/
def trimEnd (cs : List Char) : List Char := (cs.reverse.dropWhile isBlank).reverse

/-- The characters between the first and the last one that are not blank. -/
def trimChars (cs : List Char) : List Char := trimEnd (trimStart cs)

/-- The text without the blanks at its two ends. -/
def trim (s : String) : String := String.ofList (trimChars s.toList)

@[simp] theorem trimStart_nil : trimStart [] = [] := rfl

theorem trimStart_cons_of_blank {c : Char} (h : isBlank c = true) (cs : List Char) :
    trimStart (c :: cs) = trimStart cs := by simp [trimStart, h]

theorem trimStart_cons_of_not_blank {c : Char} (h : isBlank c = false) (cs : List Char) :
    trimStart (c :: cs) = c :: cs := by simp [trimStart, h]

/-- What trimming leaves does not start with a blank. -/
theorem head_trimStart (cs : List Char) : ∀ c ∈ (trimStart cs).head?, isBlank c = false := by
  induction cs with
  | nil => simp
  | cons d cs ih =>
    cases h : isBlank d with
    | true => rwa [trimStart_cons_of_blank h]
    | false => simp [trimStart_cons_of_not_blank h, h]

theorem trimStart_eq_self {cs : List Char} (h : ∀ c ∈ cs.head?, isBlank c = false) :
    trimStart cs = cs := by
  cases cs with
  | nil => rfl
  | cons c cs => exact trimStart_cons_of_not_blank (h c rfl) cs

@[simp] theorem trimStart_trimStart (cs : List Char) :
    trimStart (trimStart cs) = trimStart cs :=
  trimStart_eq_self (head_trimStart cs)

theorem trimEnd_eq (cs : List Char) : trimEnd cs = (trimStart cs.reverse).reverse := rfl

@[simp] theorem trimEnd_trimEnd (cs : List Char) : trimEnd (trimEnd cs) = trimEnd cs := by
  simp [trimEnd_eq]

/-- Trimming at the end takes nothing away before it. -/
theorem trimEnd_prefix (cs : List Char) : trimEnd cs <+: cs := by
  refine ⟨(cs.reverse.takeWhile isBlank).reverse, ?_⟩
  rw [trimEnd, ← List.reverse_append, List.takeWhile_append_dropWhile, List.reverse_reverse]

/-- Trimming at the end leaves a list that does not start with a blank, or nothing. -/
theorem trimStart_trimEnd {cs : List Char} (h : ∀ c ∈ cs.head?, isBlank c = false) :
    trimStart (trimEnd cs) = trimEnd cs := by
  refine trimStart_eq_self ?_
  obtain ⟨removed, hr⟩ := trimEnd_prefix cs
  cases ht : trimEnd cs with
  | nil => simp
  | cons d ds =>
    rw [← hr, ht] at h
    simpa using h

/-- Text between characters that are not blank stays as it is. -/
theorem trimChars_eq_self {cs : List Char} (hs : ∀ c ∈ cs.head?, isBlank c = false)
    (he : ∀ c ∈ cs.getLast?, isBlank c = false) : trimChars cs = cs := by
  unfold trimChars
  rw [trimStart_eq_self hs, trimEnd_eq, trimStart_eq_self (by simpa using he), List.reverse_reverse]

theorem head_trimChars (cs : List Char) : ∀ c ∈ (trimChars cs).head?, isBlank c = false := by
  unfold trimChars
  rw [← trimStart_trimEnd (head_trimStart cs)]
  exact head_trimStart _

theorem getLast_trimChars (cs : List Char) : ∀ c ∈ (trimChars cs).getLast?, isBlank c = false := by
  unfold trimChars
  rw [trimEnd_eq, List.getLast?_reverse]
  exact head_trimStart _

@[simp] theorem toList_trim (s : String) : (trim s).toList = trimChars s.toList := by
  simp [trim]

end DevConsole.Text
