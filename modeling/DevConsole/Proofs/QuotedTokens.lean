import DevConsole.Command.Tokens

/-! # Tokens written in quotes

Every text without quotes and without the two characters `\N` can be written so that it is
one token again: between double quotes, with `\N` for each newline (`quote`).  The switch that
tells quoted spaces from others is then off at both ends, so that a line of such tokens is cut
exactly between them (`ofLine_written`).
-/
namespace DevConsole.Tokens

/-! ## Writing tokens -/

/-- The characters with `\N` for each newline. -/
def escape (cs : List Char) : List Char :=
  cs.flatMap fun c => if c = '\n' then ['\\', 'N'] else [c]

/-- The characters of a token that is written in quotes. -/
def quote (cs : List Char) : List Char := '"' :: escape cs ++ ['"']

/-- The characters of tokens that are written in quotes, each after a space. -/
def quoteAll (texts : List String) : List Char :=
  texts.flatMap fun text => ' ' :: quote text.toList

/-- A line of a word and tokens that are written in quotes. -/
def written (word : String) (texts : List String) : String :=
  word ++ String.ofList (quoteAll texts)

/-- The text can be written as a token: no quotes, and nothing that stands for a newline. -/
structure Writable (text : String) : Prop where
  no_quote : ∀ c ∈ text.toList, isQuote c = false
  no_escape : ¬ ['\\', 'N'] <:+: text.toList

@[simp] theorem escape_nil : escape [] = [] := rfl

theorem escape_newline (cs : List Char) : escape ('\n' :: cs) = '\\' :: 'N' :: escape cs := rfl

theorem escape_cons {c : Char} (h : c ≠ '\n') (cs : List Char) :
    escape (c :: cs) = c :: escape cs := by
  simp [escape, h]

theorem mem_escape {c : Char} {cs : List Char} (h : c ∈ escape cs) :
    c ∈ cs ∨ c = '\\' ∨ c = 'N' := by
  obtain ⟨d, hd, hc⟩ := List.mem_flatMap.1 h
  split at hc
  · simpa using Or.inr hc
  · rw [List.mem_singleton.1 hc]
    exact Or.inl hd

theorem quoteAll_cons (text : String) (texts : List String) :
    quoteAll (text :: texts) = ' ' :: (quote text.toList ++ quoteAll texts) := rfl

@[simp] theorem toList_written (word : String) (texts : List String) :
    (written word texts).toList = word.toList ++ quoteAll texts := by
  simp [written]

/-! ## Cutting -/

/-- Whether the switch is on after some characters. -/
def insideAfter (inside : Bool) (cs : List Char) : Bool :=
  cs.foldl (fun inside c => inside != isQuote c) inside

/-- The segments of a line end at a space where the switch is off. -/
theorem segments_append {inside : Bool} {a : List Char} (h : insideAfter inside a = false)
    (b : List Char) :
    segments inside (a ++ ' ' :: b) = segments inside a ++ segments false b := by
  -- The rest of the line starts with the switch as the first character leaves it.
  induction a generalizing inside with
  | nil =>
    have hoff : inside = false := h
    simp [hoff, segments]
  | cons c cs ih =>
    rw [List.cons_append, segments, segments]
    split
    · rename_i hc
      obtain ⟨rfl, rfl⟩ : c = ' ' ∧ inside = false := by simpa using hc
      have hcs : insideAfter false cs = false := h
      rw [ih hcs, List.cons_append]
    · rw [ih h]
      cases hs : segments (inside != isQuote c) cs with
      | nil => exact absurd hs (segments_ne_nil _ _)
      | cons s ss => rfl

@[simp] theorem insideAfter_cons (inside : Bool) (c : Char) (cs : List Char) :
    insideAfter inside (c :: cs) = insideAfter (inside != isQuote c) cs := rfl

@[simp] theorem insideAfter_append (inside : Bool) (a b : List Char) :
    insideAfter inside (a ++ b) = insideAfter (insideAfter inside a) b := List.foldl_append

/-- Nothing is cut where there is no space. -/
theorem segments_of_no_space {inside : Bool} {cs : List Char} (h : ' ' ∉ cs) :
    segments inside cs = [cs] := by
  induction cs generalizing inside with
  | nil => rfl
  | cons c cs ih =>
    rw [List.mem_cons, not_or] at h
    rw [segments, if_neg (by simp [Ne.symm h.1]), ih h.2]

theorem insideAfter_of_no_quote {inside : Bool} {cs : List Char}
    (h : ∀ c ∈ cs, isQuote c = false) : insideAfter inside cs = inside := by
  induction cs generalizing inside with
  | nil => rfl
  | cons c cs ih =>
    obtain ⟨hc, hcs⟩ := List.forall_mem_cons.1 h
    rw [insideAfter_cons, hc, Bool.bne_false, ih hcs]

/-- Nothing is cut between two quotes. -/
theorem segments_quoted {cs : List Char} (h : ∀ c ∈ cs, isQuote c = false) :
    segments true (cs ++ ['"']) = [cs ++ ['"']] := by
  induction cs with
  | nil => rfl
  | cons c cs ih =>
    obtain ⟨hc, hcs⟩ := List.forall_mem_cons.1 h
    rw [List.cons_append, segments, if_neg (by simp), hc, Bool.bne_false, ih hcs]

/-! ## Tokens in quotes -/

theorem unescape_cons {c : Char} {cs : List Char} (h : ¬ (c = '\\' ∧ cs.head? = some 'N')) :
    unescape (c :: cs) = c :: unescape cs := by
  -- Only the first equation takes two characters at once, and it asks for `\N`.
  rw [unescape.eq_def]
  split
  · rename_i ds heq
    obtain ⟨rfl, rfl⟩ := List.cons.inj heq
    exact absurd ⟨rfl, rfl⟩ h
  · rename_i heq
    obtain ⟨rfl, rfl⟩ := List.cons.inj heq
    rfl
  · rename_i heq
    cases heq

theorem no_escape_at_front {c : Char} {cs : List Char}
    (h : ∀ ds, c = '\\' → cs = 'N' :: ds → False) : ¬ (c = '\\' ∧ cs.head? = some 'N') := by
  rintro ⟨hc, hhead⟩
  obtain ⟨ds, hds⟩ := List.head?_eq_some_iff.1 hhead
  exact h ds hc hds

/-- Text without `\N` stays as it is, up to where it could join with what follows. -/
theorem unescape_append_of_no_escape {before rest : List Char} (h : ¬ ['\\', 'N'] <:+: before)
    (hjoin : before.getLast? = some '\\' → rest.head? ≠ some 'N') :
    unescape (before ++ rest) = before ++ unescape rest := by
  induction before with
  | nil => rfl
  | cons c cs ih =>
    have hcs : ¬ ['\\', 'N'] <:+: cs := fun hin => h (hin.trans (List.suffix_cons c cs).isInfix)
    cases cs with
    | nil =>
      have hc : ¬ (c = '\\' ∧ rest.head? = some 'N') := fun hc => hjoin (congrArg some hc.1) hc.2
      rw [List.singleton_append, unescape_cons hc, List.singleton_append]
    | cons d ds =>
      have hc : ¬ (c = '\\' ∧ (d :: ds ++ rest).head? = some 'N') := by
        rintro ⟨rfl, hd⟩
        obtain rfl : d = 'N' := Option.some.inj hd
        exact h ⟨[], ds, rfl⟩
      rw [List.getLast?_cons_cons] at hjoin
      rw [List.cons_append, unescape_cons hc, ih hcs hjoin]
      rfl

/-- Escaped newlines are newlines again, unless the text itself says `\N`. -/
theorem unescape_escape {cs : List Char} (h : ¬ ['\\', 'N'] <:+: cs) :
    unescape (escape cs) = cs := by
  induction cs with
  | nil => rfl
  | cons c cs ih =>
    have hcs : ¬ ['\\', 'N'] <:+: cs := fun hin => h (hin.trans (List.suffix_cons c cs).isInfix)
    by_cases hn : c = '\n'
    · rw [hn, escape_newline, unescape, ih hcs]
    · rw [escape_cons hn, unescape_cons, ih hcs]
      -- A backslash could only join with an `N` that follows it in the text.
      rintro ⟨rfl, hhead⟩
      cases cs with
      | nil => simp at hhead
      | cons d ds =>
        by_cases hd : d = '\n'
        · rw [hd, escape_newline] at hhead
          simp at hhead
        · rw [escape_cons hd, List.head?_cons, Option.some.injEq] at hhead
          exact h ⟨[], ds, by simp [hhead]⟩

theorem isQuote_of_mem_escape {cs : List Char} (h : ∀ c ∈ cs, isQuote c = false) :
    ∀ c ∈ escape cs, isQuote c = false := by
  intro c hc
  rcases mem_escape hc with hc | rfl | rfl
  · exact h c hc
  · rfl
  · rfl

/-- A text in quotes stands for itself; blanks at its ends are kept. -/
theorem clean_quote {text : String} (h : Writable text) :
    clean (quote text.toList) = text.toList := by
  have hstart : Text.trimStart (quote text.toList) = quote text.toList :=
    Text.trimStart_cons_of_not_blank (by decide) _
  have hbody : (escape text.toList).filter (fun c => !isQuote c) = escape text.toList :=
    List.filter_eq_self.2 fun c hc => by simp [isQuote_of_mem_escape h.no_quote c hc]
  have hquote : isQuote '"' = true := rfl
  rw [clean, hstart, quote, List.cons_append, List.filter_cons_of_neg (by simp [hquote]),
    List.filter_append, hbody, List.filter_cons_of_neg (by simp [hquote]), List.filter_nil,
    List.append_nil, unescape_escape h.no_escape]

theorem map_clean_quote {texts : List String} (h : ∀ text ∈ texts, Writable text) :
    (texts.map fun text => quote text.toList).map (fun s => String.ofList (clean s)) = texts := by
  rw [List.map_map]
  refine (List.map_congr_left fun text hin => ?_).trans (List.map_id texts)
  rw [Function.comp, clean_quote (h text hin), String.ofList_toList, id]

theorem segments_quote {text : String} (h : Writable text) :
    segments false (quote text.toList) = [quote text.toList] := by
  have hon : segments true (escape text.toList ++ ['"']) = [escape text.toList ++ ['"']] :=
    segments_quoted (isQuote_of_mem_escape h.no_quote)
  have hquote : isQuote '"' = true := rfl
  rw [quote, List.cons_append, segments, if_neg (by simp), hquote, Bool.bne_true, Bool.not_false,
    hon]

/-- The switch is off after a text in quotes. -/
theorem insideAfter_quote {text : String} (h : Writable text) :
    insideAfter false (quote text.toList) = false := by
  have hbody : insideAfter true (escape text.toList) = true :=
    insideAfter_of_no_quote (isQuote_of_mem_escape h.no_quote)
  have hquote : isQuote '"' = true := rfl
  rw [quote, List.cons_append, insideAfter_cons, hquote, Bool.bne_true, Bool.not_false,
    insideAfter_append, hbody, insideAfter_cons, hquote]
  rfl

theorem segments_quoteAll {first : List Char} {texts : List String}
    (hcut : segments false first = [first]) (hoff : insideAfter false first = false)
    (h : ∀ text ∈ texts, Writable text) :
    segments false (first ++ quoteAll texts) =
      first :: texts.map fun text => quote text.toList := by
  -- Each text is the `first` of what comes after it.
  induction texts generalizing first with
  | nil => rw [quoteAll, List.flatMap_nil, List.append_nil, hcut, List.map_nil]
  | cons text texts ih =>
    obtain ⟨htext, htexts⟩ := List.forall_mem_cons.1 h
    rw [quoteAll_cons, segments_append hoff, hcut,
      ih (segments_quote htext) (insideAfter_quote htext) htexts, List.singleton_append,
      List.map_cons]

/-- **The tokens of a line of quoted tokens are the texts that were quoted.** -/
theorem ofLine_written {word : String} {texts : List String}
    (hword : ∀ c ∈ word.toList, c ≠ ' ' ∧ isQuote c = false)
    (h : ∀ text ∈ texts, Writable text) :
    ofLine (written word texts) = String.ofList (clean word.toList) :: texts := by
  have hcut : segments false word.toList = [word.toList] :=
    segments_of_no_space fun hin => (hword _ hin).1 rfl
  have hoff : insideAfter false word.toList = false :=
    insideAfter_of_no_quote fun c hc => (hword c hc).2
  rw [ofLine, toList_written, segments_quoteAll hcut hoff h, List.map_cons, map_clean_quote h]

end DevConsole.Tokens
