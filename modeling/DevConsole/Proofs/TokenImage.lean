import DevConsole.Proofs.TokenSegments

/-! # Which texts are tokens

No token has a quote in it, since quotes are deleted, and none says `\N`: decoding leaves none
behind.  A backslash that stays is one that no `N` follows, and what follows it afterwards is the
same character as before, or a newline (`not_escape_unescape`).  These are all the conditions there
are.  Texts that keep to them can be written in quotes, and joined by spaces they make a line with
just these tokens (`ofLine_canonicalLine`).  So the lists of tokens are known
(`exists_ofLine_iff_writable`), and each is the list of tokens of a line in which nothing but quotes
matters.
-/
namespace DevConsole.Tokens

/-! ## What decoding leaves -/

/-- Decoding makes no `N` at the front. -/
theorem head_of_head_unescape {cs : List Char} (h : (unescape cs).head? = some 'N') :
    cs.head? = some 'N' := by
  revert h
  fun_cases unescape cs with
  | case1 ds => simp
  | case2 ds d hd => exact id
  | case3 => exact id

theorem mem_of_mem_unescape {c : Char} {cs : List Char} (h : c ∈ unescape cs) :
    c ∈ cs ∨ c = '\n' := by
  revert h
  fun_induction unescape cs with
  | case1 ds ih =>
    intro h
    rcases List.mem_cons.1 h with rfl | h
    · exact Or.inr rfl
    · exact (ih h).imp_left fun hin => List.mem_cons_of_mem _ (List.mem_cons_of_mem _ hin)
  | case2 d ds hd ih =>
    intro h
    rcases List.mem_cons.1 h with rfl | h
    · exact Or.inl List.mem_cons_self
    · exact (ih h).imp_left fun hin => List.mem_cons_of_mem _ hin
  | case3 => exact Or.inl

/-- **Decoding leaves nothing to decode.** -/
theorem not_escape_unescape (cs : List Char) : ¬ ['\\', 'N'] <:+: unescape cs := by
  fun_induction unescape cs with
  | case1 ds ih =>
    intro hin
    rcases List.infix_cons_iff.1 hin with hfront | hin
    · exact absurd (List.cons_prefix_cons.1 hfront).1 (by decide)
    · exact ih hin
  | case2 d ds hd ih =>
    intro hin
    rcases List.infix_cons_iff.1 hin with hfront | hin
    · -- The `N` after the backslash would have stood there before.
      obtain ⟨hbackslash, tail, htail⟩ := List.cons_prefix_cons.1 hfront
      have hhead : (unescape ds).head? = some 'N' := by rw [← htail]; rfl
      exact no_escape_at_front hd ⟨hbackslash.symm, head_of_head_unescape hhead⟩
    · exact ih hin
  | case3 => simp

/-- **What is left of a segment can be written as a token.** -/
theorem writable_clean (segment : List Char) : Writable (String.ofList (clean segment)) := by
  refine ⟨fun c hc => ?_, ?_⟩
  · rw [String.toList_ofList] at hc
    rcases mem_of_mem_unescape hc with hkept | rfl
    · simpa using (List.mem_filter.1 hkept).2
    · rfl
  · rw [String.toList_ofList]
    exact not_escape_unescape _

/-! ## A line for every list of tokens -/

/-- The line in which each text stands in quotes, with a space between them. -/
def canonicalLine (texts : List String) : String :=
  String.ofList (List.intercalate [' '] (texts.map fun text => quote text.toList))

theorem intercalate_quote (text : String) (texts : List String) :
    List.intercalate [' '] ((text :: texts).map fun text => quote text.toList) =
      quote text.toList ++ quoteAll texts := by
  induction texts generalizing text with
  | nil => simp [quoteAll]
  | cons next texts ih =>
    have hnext := ih next
    rw [List.map_cons] at hnext
    rw [List.map_cons, List.map_cons, List.intercalate_cons_cons, hnext, quoteAll_cons,
      List.append_assoc, List.singleton_append]

/-- **The tokens of that line are the texts.** -/
theorem ofLine_canonicalLine {texts : List String} (hne : texts ≠ [])
    (h : ∀ text ∈ texts, Writable text) : ofLine (canonicalLine texts) = texts := by
  obtain ⟨text, rest, rfl⟩ := List.exists_cons_of_ne_nil hne
  obtain ⟨htext, hrest⟩ := List.forall_mem_cons.1 h
  have hsegments : segments false (canonicalLine (text :: rest)).toList =
      (text :: rest).map fun text => quote text.toList := by
    rw [canonicalLine, String.toList_ofList, intercalate_quote,
      segments_quoteAll (segments_quote htext) (insideAfter_quote htext) hrest, List.map_cons]
  rw [ofLine, hsegments, map_clean_quote h]

/-- **The lists of tokens are those that can be written in quotes.**  A list comes of some line
exactly when it is not empty and each of its texts is free of quotes and of `\N`; it comes of the
line in which its texts stand in quotes.  So putting the tokens of a line in quotes changes
nothing. -/
theorem exists_ofLine_iff_writable :
    (∀ texts : List String,
      (∃ line, ofLine line = texts) ↔ texts ≠ [] ∧ ∀ text ∈ texts, Writable text) ∧
    (∀ texts : List String, texts ≠ [] → (∀ text ∈ texts, Writable text) →
      ofLine (canonicalLine texts) = texts) ∧
    ∀ line : String, ofLine (canonicalLine (ofLine line)) = ofLine line := by
  have hwritable : ∀ line, ∀ text ∈ ofLine line, Writable text := by
    intro line text hin
    obtain ⟨segment, -, rfl⟩ := List.mem_map.1 hin
    exact writable_clean segment
  refine ⟨fun texts => ⟨?_, ?_⟩, fun texts hne h => ofLine_canonicalLine hne h, fun line => ?_⟩
  · rintro ⟨line, rfl⟩
    exact ⟨ofLine_ne_nil line, hwritable line⟩
  · rintro ⟨hne, h⟩
    exact ⟨canonicalLine texts, ofLine_canonicalLine hne h⟩
  · exact ofLine_canonicalLine (ofLine_ne_nil line) (hwritable line)

/-- A blank text, one that a backslash ends, and one in which a backslash stands before a newline
and that before an `N`. -/
theorem exists_ofLine_iff_writable_backslashes :
    let texts := [" ", "a\\", "\\\nN"]
    (texts ≠ [] ∧ ∀ text ∈ texts, Writable text) ∧
      canonicalLine texts = "\" \" \"a\\\" \"\\\\NN\"" ∧ ofLine (canonicalLine texts) = texts ∧
      ∃ line, ofLine line = texts := by
  intro texts
  obtain ⟨himage, hcanonical, -⟩ := exists_ofLine_iff_writable
  have hne : texts ≠ [] := List.cons_ne_nil _ _
  have hwritable : ∀ text ∈ texts, Writable text := by
    intro text hin
    simp only [texts, List.mem_cons, List.not_mem_nil, or_false] at hin
    rcases hin with rfl | rfl | rfl <;>
      exact ⟨by simp [isQuote], by simp [List.infix_cons_iff]⟩
  exact ⟨⟨hne, hwritable⟩, by decide +kernel, hcanonical texts hne hwritable,
    (himage texts).2 ⟨hne, hwritable⟩⟩

end DevConsole.Tokens
