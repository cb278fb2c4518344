import DevConsole.Command.Dispatch

/-! # Upper case is reached in one step

A line is brought to upper case before its command is looked up, and the look-up brings it to
upper case again.  That changes nothing (`normalize_normalize`), which is a fact about the
tables of upper-case forms: no form that they name has an upper-case form of its own, and
none is a blank, which trimming would remove, or a quote, which cuts lines.  So a
character either stays or becomes characters that are *settled* in this sense
(`upperChar_settled`).

The tables name more than a thousand forms.  They are compared with the code points to avoid
as sets of bits: one number for either set, whose common bits the kernel computes at once.
-/
namespace DevConsole.Text

/-! ## Sets of code points as bits -/

/-- The number whose bits are the members of a list. -/
def bits : List Nat → Nat
  | [] => 0
  | n :: ns => bits ns ||| 1 <<< n

theorem testBit_bits (ns : List Nat) (n : Nat) : (bits ns).testBit n = decide (n ∈ ns) := by
  induction ns with
  | nil => simp [bits]
  | cons m ns ih =>
    rw [bits, Nat.testBit_or, ih, Nat.one_shiftLeft, Nat.testBit_two_pow]
    simp only [List.mem_cons, Bool.decide_or, Bool.or_comm, eq_comm]

/-- Lists whose bits have nothing in common have no member in common. -/
theorem not_mem_of_bits {xs ys : List Nat} (h : bits xs &&& bits ys = 0) :
    ∀ n ∈ xs, n ∉ ys := by
  intro n hx hy
  have hn := congrArg (·.testBit n) h
  simp [testBit_bits, hx, hy] at hn

/-! ## What the tables hold -/

/-- The code points of a run. -/
def CaseRun.sources (r : CaseRun) : List Nat :=
  (List.range r.count).map fun k => r.first + k * r.stride

/-- The upper-case forms of a run. -/
def CaseRun.targets (r : CaseRun) : List Nat :=
  (List.range r.count).map fun k => r.target + k * r.stride

/-- The code points outside ASCII that have an upper-case form. -/
def lowerCodes : List Nat := caseExpansions.map Prod.fst ++ caseRuns.flatMap CaseRun.sources

/-- The letters `A` to `Z`, by code point. -/
def asciiUpperCodes : List Nat := (List.range 26).map (0x41 + ·)

/-- The code points that occur in upper-case forms of other characters. -/
def formCodes : List Nat :=
  asciiUpperCodes ++ (caseExpansions.flatMap Prod.snd ++ caseRuns.flatMap CaseRun.targets)

/-- The blanks, by code point. -/
def blankCodes : List Nat :=
  [0x9, 0xA, 0xB, 0xC, 0xD, 0x20, 0x85, 0xA0, 0x1680, 0x2000, 0x2001, 0x2002, 0x2003, 0x2004,
   0x2005, 0x2006, 0x2007, 0x2008, 0x2009, 0x200A, 0x2028, 0x2029, 0x202F, 0x205F, 0x3000]

/-- The quotes, by code point. -/
def quoteCodes : List Nat := [0x22, 0x27]

/-- The letters `a` to `z`, by code point. -/
def asciiLowerCodes : List Nat := (List.range 26).map (0x61 + ·)

/-- The code points that no upper-case form may hold. -/
def unsettledCodes : List Nat := asciiLowerCodes ++ (blankCodes ++ (quoteCodes ++ lowerCodes))

theorem isBlank_iff {c : Char} : isBlank c = true ↔ c.toNat ∈ blankCodes := by
  simp only [isBlank, blankCodes, Bool.or_eq_true, Bool.and_eq_true, decide_eq_true_eq,
    beq_iff_eq, List.mem_cons, List.not_mem_nil, or_false]
  omega

theorem isQuote_iff {c : Char} : Tokens.isQuote c = true ↔ c.toNat ∈ quoteCodes := by
  simp only [Tokens.isQuote, quoteCodes, Bool.or_eq_true, beq_iff_eq, List.mem_cons,
    List.not_mem_nil, or_false]
  exact or_congr ⟨fun h => h ▸ rfl, fun h => Char.toNat_inj.1 h⟩
    ⟨fun h => h ▸ rfl, fun h => Char.toNat_inj.1 h⟩

theorem CaseRun.image?_eq_some {r : CaseRun} {n m : Nat} (h : r.image? n = some m) :
    n ∈ r.sources ∧ m ∈ r.targets := by
  unfold image? at h
  split at h
  · rename_i hr
    simp only [Bool.and_eq_true, decide_eq_true_eq, beq_iff_eq] at hr
    obtain ⟨⟨hle, hlt⟩, hmod⟩ := hr
    -- The code point is the `k`-th of the run, so its form is the `k`-th of the forms.
    obtain ⟨k, hk⟩ := Nat.dvd_of_mod_eq_zero hmod
    have hcount : k < r.count := by
      refine Nat.lt_of_mul_lt_mul_left (a := r.stride) ?_
      rw [← hk, Nat.mul_comm r.stride]
      omega
    have hm : r.target + (n - r.first) = m := Option.some.inj h
    refine ⟨List.mem_map.2 ⟨k, List.mem_range.2 hcount, ?_⟩,
      List.mem_map.2 ⟨k, List.mem_range.2 hcount, ?_⟩⟩
    · rw [Nat.mul_comm, ← hk]; omega
    · rw [Nat.mul_comm, ← hk]; exact hm
  · simp at h

theorem mem_caseExpansions_of_lookup {n : Nat} {codes : List Nat}
    (h : caseExpansions.lookup n = some codes) : (n, codes) ∈ caseExpansions := by
  obtain ⟨l₁, l₂, hl, -⟩ := List.lookup_eq_some_iff.1 h
  rw [hl]
  exact List.mem_append_right l₁ List.mem_cons_self

/-- A code point has an upper-case form in the tables, or it is its own. -/
theorem upperCode_cases (n : Nat) :
    (n ∉ lowerCodes → upperCode n = [n]) ∧
      (upperCode n = [n] ∨ ∀ m ∈ upperCode n, m ∈ formCodes) := by
  unfold upperCode
  cases hl : caseExpansions.lookup n with
  | some codes =>
    have hmem := mem_caseExpansions_of_lookup hl
    refine ⟨fun hn => absurd ?_ hn, Or.inr fun m hm => ?_⟩
    · exact List.mem_append_left _ (List.mem_map.2 ⟨_, hmem, rfl⟩)
    · exact List.mem_append_right _ (List.mem_append_left _ (List.mem_flatMap.2 ⟨_, hmem, hm⟩))
  | none =>
    cases hr : caseRuns.findSome? (·.image? n) with
    | none => exact ⟨fun _ => rfl, Or.inl rfl⟩
    | some m =>
      obtain ⟨r, hmem, him⟩ := List.exists_of_findSome?_eq_some hr
      obtain ⟨hn, hm⟩ := r.image?_eq_some him
      refine ⟨fun hn' => absurd ?_ hn', Or.inr fun m' hm' => ?_⟩
      · exact List.mem_append_right _ (List.mem_flatMap.2 ⟨r, hmem, hn⟩)
      · rw [List.mem_singleton.1 hm']
        exact List.mem_append_right _
          (List.mem_append_right _ (List.mem_flatMap.2 ⟨r, hmem, hm⟩))

theorem upperCode_ne_nil (n : Nat) : upperCode n ≠ [] := by
  unfold upperCode
  split
  · rename_i codes hl
    have hne : ∀ e ∈ caseExpansions, e.2 ≠ [] := by decide
    exact hne (n, codes) (mem_caseExpansions_of_lookup hl)
  · simp

/-- No upper-case form holds a code point that has one itself, a blank or a quote. -/
theorem formCodes_settled : ∀ n ∈ formCodes, n ∉ unsettledCodes :=
  not_mem_of_bits (by decide +kernel)

/-- Neither blanks nor quotes have an upper-case form of their own. -/
theorem blank_or_quote_not_mem_lowerCodes :
    ∀ n ∈ blankCodes ++ quoteCodes, n ∉ asciiLowerCodes ++ lowerCodes :=
  not_mem_of_bits (by decide +kernel)

/-! ## Settled characters -/

/-- The character is its own upper-case form, and neither a blank nor a quote. -/
structure Settled (c : Char) : Prop where
  upperChar_eq : upperChar c = [c]
  not_blank : isBlank c = false
  not_quote : Tokens.isQuote c = false

theorem toUpper_of_not_mem : ∀ n < 0x80, n ∉ asciiLowerCodes →
    (Char.ofNat n).toUpper = Char.ofNat n := by decide

theorem toUpper_mem_formCodes : ∀ n < 0x80, n ∈ asciiLowerCodes →
    (Char.ofNat n).toUpper.toNat ∈ asciiUpperCodes := by decide

theorem upperChar_of_not_mem {c : Char} (h : c.toNat ∉ asciiLowerCodes ++ lowerCodes) :
    upperChar c = [c] := by
  rw [List.mem_append, not_or] at h
  unfold upperChar
  split
  · rename_i hc
    have hup := toUpper_of_not_mem c.toNat hc h.1
    rw [Char.ofNat_toNat] at hup
    rw [hup]
  · rw [(upperCode_cases c.toNat).1 h.2, List.map_singleton, Char.ofNat_toNat]

theorem upperChar_blank {c : Char} (h : isBlank c = true) : upperChar c = [c] :=
  upperChar_of_not_mem
    (blank_or_quote_not_mem_lowerCodes _ (List.mem_append_left _ (isBlank_iff.1 h)))

theorem upperChar_quote {c : Char} (h : Tokens.isQuote c = true) : upperChar c = [c] :=
  upperChar_of_not_mem
    (blank_or_quote_not_mem_lowerCodes _ (List.mem_append_right _ (isQuote_iff.1 h)))

theorem settled_of_not_mem {c : Char} (h : c.toNat ∉ unsettledCodes) : Settled c := by
  simp only [unsettledCodes, List.mem_append, not_or] at h
  obtain ⟨hlow, hblank, hquote, hcodes⟩ := h
  refine ⟨upperChar_of_not_mem ?_, ?_, ?_⟩
  · simp only [List.mem_append, not_or]
    exact ⟨hlow, hcodes⟩
  · exact Bool.eq_false_iff.2 fun hb => hblank (isBlank_iff.1 hb)
  · exact Bool.eq_false_iff.2 fun hq => hquote (isQuote_iff.1 hq)

/-- A code point that is no character stands for the null character, which is settled. -/
theorem settled_ofNat {n : Nat} (h : n ∈ formCodes) : Settled (Char.ofNat n) := by
  by_cases hv : n.isValidChar
  · refine settled_of_not_mem ?_
    have hn : (Char.ofNat n).toNat = n := by rw [Char.ofNat, dif_pos hv]; rfl
    rw [hn]
    exact formCodes_settled n h
  · have hz : Char.ofNat n = '\x00' := by rw [Char.ofNat, dif_neg hv]; rfl
    rw [hz]
    exact ⟨by decide, by decide, by decide⟩

/-- A character stays, or becomes characters that the tables name. -/
theorem upperChar_cases (c : Char) :
    upperChar c = [c] ∨ ∀ d ∈ upperChar c, ∃ n ∈ formCodes, d = Char.ofNat n := by
  -- The tables begin after ASCII, where the letters are looked at one by one.
  by_cases hc : c.toNat < 0x80
  · by_cases hl : c.toNat ∈ asciiLowerCodes
    · right
      intro d hd
      simp only [upperChar, hc, if_true, List.mem_singleton] at hd
      have hup := toUpper_mem_formCodes c.toNat hc hl
      rw [Char.ofNat_toNat, ← hd] at hup
      exact ⟨d.toNat, List.mem_append_left _ hup, (Char.ofNat_toNat d).symm⟩
    · left
      have hup := toUpper_of_not_mem c.toNat hc hl
      rw [Char.ofNat_toNat] at hup
      simp only [upperChar, hc, if_true, hup]
  · simp only [upperChar, hc, if_false]
    rcases (upperCode_cases c.toNat).2 with h | h
    · left
      rw [h, List.map_singleton, Char.ofNat_toNat]
    · right
      intro d hd
      obtain ⟨n, hn, rfl⟩ := List.mem_map.1 hd
      exact ⟨n, h n hn, rfl⟩

/-- **Upper-casing makes no character that the tables do not name.** -/
theorem not_mem_upperChar {c d : Char} (hforms : bits formCodes &&& bits [d.toNat] = 0)
    (hnull : d ≠ '\x00') (hc : c ≠ d) : d ∉ upperChar c := by
  intro hin
  rcases upperChar_cases c with h | h
  · rw [h, List.mem_singleton] at hin
    exact hc hin.symm
  · obtain ⟨n, hn, hform⟩ := h _ hin
    -- A code point that is no character stands for the null character.
    by_cases hv : n.isValidChar
    · have hcode : (Char.ofNat n).toNat = n := by rw [Char.ofNat, dif_pos hv]; rfl
      rw [← hform] at hcode
      exact not_mem_of_bits hforms n hn (List.mem_singleton.2 hcode.symm)
    · have hofNat : Char.ofNat n = '\x00' := by rw [Char.ofNat, dif_neg hv]; rfl
      exact hnull (hform.trans hofNat)

/-- **A character stays, or becomes settled characters.** -/
theorem upperChar_settled (c : Char) :
    upperChar c = [c] ∨ ∀ d ∈ upperChar c, Settled d := by
  rcases upperChar_cases c with h | h
  · exact Or.inl h
  · refine Or.inr fun d hd => ?_
    obtain ⟨n, hn, rfl⟩ := h d hd
    exact settled_ofNat hn

theorem upperChar_ne_nil (c : Char) : upperChar c ≠ [] := by
  unfold upperChar
  split
  · simp
  · simpa using upperCode_ne_nil c.toNat

/-! ## Upper-casing and trimming twice -/

@[simp] theorem upperChars_eq_nil {cs : List Char} : upperChars cs = [] ↔ cs = [] := by
  cases cs with
  | nil => simp
  | cons c cs => simp [upperChars_cons, upperChar_ne_nil]

/-- The upper-case form of a character is in upper case. -/
theorem upperChars_upperChar (c : Char) : upperChars (upperChar c) = upperChar c := by
  rcases upperChar_settled c with h | h
  · rw [h, upperChars_cons, h, upperChars_nil, List.append_nil]
  · -- Settled characters stay, so all that counts is that every one of them is settled.
    generalize upperChar c = ds at h
    induction ds with
    | nil => rfl
    | cons d ds ih =>
      rw [upperChars_cons, (h d List.mem_cons_self).upperChar_eq,
        ih fun e he => h e (List.mem_cons_of_mem _ he), List.singleton_append]

/-- **Upper case is reached in one step.** -/
@[simp] theorem upperChars_upperChars (cs : List Char) :
    upperChars (upperChars cs) = upperChars cs := by
  induction cs with
  | nil => rfl
  | cons c cs ih => rw [upperChars_cons, upperChars_append, upperChars_upperChar, ih]

/-- Upper-casing makes no characters of a class that settled characters are not in. -/
theorem absent_of_mem_upperChar {p : Char → Bool} (hp : ∀ d, Settled d → p d = false)
    {c d : Char} (hd : d ∈ upperChar c) (hc : p c = false) : p d = false := by
  rcases upperChar_settled c with h | h
  · rw [h, List.mem_singleton] at hd
    rwa [hd]
  · exact hp d (h d hd)

/-- Upper-casing makes no blanks. -/
theorem isBlank_of_mem_upperChar {c d : Char} (hd : d ∈ upperChar c) (hc : isBlank c = false) :
    isBlank d = false :=
  absent_of_mem_upperChar (fun _ h => h.not_blank) hd hc

/-- Between characters that are not blank, upper-casing makes no blank end. -/
theorem trimChars_upperChars {cs : List Char} (hs : ∀ c ∈ cs.head?, isBlank c = false)
    (he : ∀ c ∈ cs.getLast?, isBlank c = false) : trimChars (upperChars cs) = upperChars cs := by
  apply trimChars_eq_self
  · intro d hd
    cases cs with
    | nil => simp at hd
    | cons c cs =>
      -- The form begins with the form of the first character, which is not empty.
      rw [upperChars_cons, List.head?_append, List.head?_eq_some_head (upperChar_ne_nil c),
        Option.some_or, Option.mem_some_iff] at hd
      have hmem : d ∈ upperChar c := hd ▸ List.head_mem _
      exact isBlank_of_mem_upperChar hmem (hs c rfl)
  · intro d hd
    rcases List.eq_nil_or_concat cs with rfl | ⟨init, c, rfl⟩
    · simp at hd
    · rw [List.concat_eq_append] at hd he
      rw [upperChars_append, upperChars_cons, upperChars_nil, List.append_nil, List.getLast?_append,
        List.getLast?_eq_some_getLast (upperChar_ne_nil c), Option.some_or,
        Option.mem_some_iff] at hd
      have hmem : d ∈ upperChar c := hd ▸ List.getLast_mem _
      exact isBlank_of_mem_upperChar hmem (he c (by simp))

end DevConsole.Text

namespace DevConsole.Registry

/-- **Looking up a normalized line normalizes it to itself.** -/
@[simp] theorem normalize_normalize (line : String) :
    normalize (normalize line) = normalize line := by
  rw [← String.toList_inj]
  simp only [normalize, Text.toList_upper, Text.toList_trim]
  rw [Text.trimChars_upperChars (Text.head_trimChars _) (Text.getLast_trimChars _),
    Text.upperChars_upperChars]

end DevConsole.Registry
