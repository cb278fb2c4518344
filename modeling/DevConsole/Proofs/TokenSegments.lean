import DevConsole.Proofs.IndexedLine
import DevConsole.Proofs.QuotedTokens

/-! # Segments by their places

`segments` cuts a line while it walks along it, with a switch for the quotes.  Where it cuts can be
said of each place by itself: there is a space, and an even number of quotes of either kind stands
before it (`cutPlaces`).  The segments are the runs between these places (`segments_eq`), and a
token is what is left of its segment after three changes in this order: the blanks at its start go,
then the quotes, and then every `\N` becomes a newline (`Decodes`).  Quotes go before `\N` is looked
for, so that `\"N` is a newline too.

A line can also be read in one pass with offsets in bytes and without segments (`scan?`).  Such a
pass keeps the space at which it cuts in front of the next token and takes the last token at the
last character, and an offset could be wrong.  It never is, and the space is gone when the token is
clean: the tokens are the same (`scan?_eq`).
-/
namespace DevConsole.Tokens

open Editor.Indexed (byteOffset cutAt? cutAt?_byteOffset)

/-! ## Places -/

/-- The places where a line is cut: those of the spaces with an even number of quotes before. -/
def cutPlaces (cs : List Char) : List Nat :=
  (List.range cs.length).filter fun i =>
    decide (cs[i]? = some ' ' ∧ (cs.take i).countP isQuote % 2 = 0)

/-- The runs of characters between places, without the characters at the places. -/
def runsBetween (cs : List Char) (places : List Nat) : List (List Char) :=
  List.zipWith (fun start stop => (cs.take stop).drop start)
    (0 :: places.map (· + 1)) (places ++ [cs.length])

/-- The places where a line is cut when it starts inside quotes or not. -/
def placesFrom (inside : Bool) (cs : List Char) : List Nat :=
  (List.range cs.length).filter fun i => cs[i]? == some ' ' && !insideAfter inside (cs.take i)

/-- The switch says whether the number of quotes is odd. -/
theorem insideAfter_eq (inside : Bool) (cs : List Char) :
    insideAfter inside cs = (inside != decide (cs.countP isQuote % 2 = 1)) := by
  induction cs generalizing inside with
  | nil => simp [insideAfter]
  | cons c cs ih =>
    rw [insideAfter_cons, ih, List.countP_cons]
    rcases Nat.mod_two_eq_zero_or_one (cs.countP isQuote) with h | h <;>
      cases isQuote c <;> cases inside <;> simp [Nat.add_mod, h]

theorem insideAfter_false_iff {cs : List Char} :
    insideAfter false cs = false ↔ cs.countP isQuote % 2 = 0 := by
  rw [insideAfter_eq, Bool.false_bne, decide_eq_false_iff_not]
  omega

theorem placesFrom_false (cs : List Char) : placesFrom false cs = cutPlaces cs := by
  refine List.filter_congr fun i _ => ?_
  rw [Bool.eq_iff_iff, decide_eq_true_iff, Bool.and_eq_true, beq_iff_eq, Bool.not_eq_true',
    insideAfter_false_iff]

theorem placesFrom_cons (inside : Bool) (c : Char) (cs : List Char) :
    placesFrom inside (c :: cs) =
      (if c == ' ' && !inside then [0] else []) ++
        (placesFrom (inside != isQuote c) cs).map (· + 1) := by
  have hlater : ((List.range cs.length).map (· + 1)).filter (fun i =>
      (c :: cs)[i]? == some ' ' && !insideAfter inside ((c :: cs).take i)) =
      (placesFrom (inside != isQuote c) cs).map (· + 1) := by
    rw [List.filter_map]
    rfl
  rw [placesFrom, List.length_cons, List.range_succ_eq_map, List.filter_cons, hlater]
  split <;> simp_all [insideAfter]

/-! ## Runs -/

theorem zipWith_slices_cons (c : Char) (cs : List Char) (starts stops : List Nat) :
    List.zipWith (fun start stop => ((c :: cs).take stop).drop start)
      (starts.map (· + 1)) (stops.map (· + 1)) =
      List.zipWith (fun start stop => (cs.take stop).drop start) starts stops := by
  rw [List.zipWith_map]
  rfl

/-- The places move with the end of the text. -/
theorem stops_cons (c : Char) (cs : List Char) (places : List Nat) :
    places.map (· + 1) ++ [(c :: cs).length] = (places ++ [cs.length]).map (· + 1) := by
  rw [List.map_append]
  rfl

/-- A cut before all others leaves an empty run. -/
theorem runsBetween_cut (c : Char) (cs : List Char) (places : List Nat) :
    runsBetween (c :: cs) (0 :: places.map (· + 1)) = [] :: runsBetween cs places := by
  rw [runsBetween, List.cons_append, stops_cons, List.zipWith_cons_cons]
  exact congrArg _ (zipWith_slices_cons c cs (0 :: places.map (· + 1)) (places ++ [cs.length]))

/-- Without such a cut the first run has one more character. -/
theorem runsBetween_keep (c : Char) {cs s : List Char} {places : List Nat} {ss : List (List Char)}
    (h : runsBetween cs places = s :: ss) :
    runsBetween (c :: cs) (places.map (· + 1)) = (c :: s) :: ss := by
  obtain ⟨stop, stops, hstops⟩ : ∃ stop stops, places ++ [cs.length] = stop :: stops :=
    List.exists_cons_of_ne_nil (by simp)
  rw [runsBetween, hstops, List.zipWith_cons_cons, List.drop_zero] at h
  obtain ⟨rfl, rfl⟩ := List.cons.inj h
  rw [runsBetween, stops_cons, hstops, List.map_cons, List.zipWith_cons_cons, zipWith_slices_cons]
  rfl

/-- **The segments of a line are the runs between the places where it is cut.** -/
theorem segments_eq (inside : Bool) (cs : List Char) :
    segments inside cs = runsBetween cs (placesFrom inside cs) := by
  induction cs generalizing inside with
  | nil => rfl
  | cons c cs ih =>
    rw [placesFrom_cons, segments]
    split
    · rename_i hcut
      obtain ⟨rfl, rfl⟩ : c = ' ' ∧ inside = false := by simpa using hcut
      rw [List.singleton_append, runsBetween_cut, ← ih]
      rfl
    · cases hs : segments (inside != isQuote c) cs with
      | nil => exact absurd hs (segments_ne_nil _ _)
      | cons s ss =>
        rw [ih] at hs
        rw [List.nil_append, runsBetween_keep c hs]

/-! ## Newlines -/

/-- The second text is the first one with every `\N`, from left to right, replaced by a newline. -/
inductive Decodes : List Char → List Char → Prop
  | plain {cs : List Char} (h : ¬ ['\\', 'N'] <:+: cs) : Decodes cs cs
  | newline {before after text : List Char} (h : ¬ ['\\', 'N'] <:+: before)
      (later : Decodes after text) :
      Decodes (before ++ '\\' :: 'N' :: after) (before ++ '\n' :: text)

/-- A character in front that makes no `\N` stays. -/
theorem Decodes.cons {c : Char} {cs text : List Char} (h : Decodes cs text)
    (hc : ¬ (c = '\\' ∧ cs.head? = some 'N')) : Decodes (c :: cs) (c :: text) := by
  -- A `\N` at the front would take its `N` from the head of the text.
  have hfree : ∀ before rest, ¬ ['\\', 'N'] <:+: before →
      ¬ (c = '\\' ∧ (before ++ rest).head? = some 'N') → ¬ ['\\', 'N'] <:+: c :: before := by
    intro before rest hbefore hc hin
    rcases List.infix_cons_iff.1 hin with hfront | hin
    · obtain ⟨hbackslash, tail, rfl⟩ := List.cons_prefix_cons.1 hfront
      exact hc ⟨hbackslash.symm, rfl⟩
    · exact hbefore hin
  cases h with
  | plain h => exact .plain (hfree cs [] h (by rwa [List.append_nil]))
  | newline h later =>
    have hbefore := hfree _ _ h hc
    exact .newline hbefore later

/-- **Replacing is a function, and `unescape` is that function.** -/
theorem decodes_iff {cs text : List Char} : Decodes cs text ↔ unescape cs = text := by
  constructor
  · intro h
    induction h with
    | @plain cs h =>
      have hself : unescape (cs ++ []) = cs ++ unescape [] :=
        unescape_append_of_no_escape h (by simp)
      rwa [List.append_nil, unescape, List.append_nil] at hself
    | newline h later ih =>
      rw [unescape_append_of_no_escape h (by simp), unescape, ih]
  · rintro rfl
    fun_induction unescape cs with
    | case1 cs ih => exact @Decodes.newline [] cs _ (by simp) ih
    | case2 c cs hc ih => exact ih.cons (no_escape_at_front hc)
    | case3 => exact .plain (by simp)

/-! ## One pass -/

/-- The number of bytes of a text. -/
def byteLength (cs : List Char) : Nat := (cs.map Char.utf8Size).sum

/-- The characters between two offsets in bytes. -/
def slice? (cs : List Char) (start stop : Nat) : Option (List Char) := do
  let (before, _) ← cutAt? cs stop
  let (_, between) ← cutAt? before start
  pure between

/-- The token between two offsets of a line, when it ends there. -/
def tokenIf? (ends : Bool) (line : List Char) (start stop : Nat) : Option (List (List Char)) :=
  if ends then (slice? line start stop).map fun span => [clean span] else some []

/-- Reads what is left of a line from an offset on; the next token starts at `start`.  A token ends
at a space outside quotes, which stays in front of the next one, and at the last character. -/
def scanFrom? (line : List Char) (inside : Bool) (start offset : Nat) :
    List Char → Option (List (List Char))
  | [] => some []
  | c :: rest => do
    let inside := inside != isQuote c
    let isCut := c == ' ' && !inside
    let next := offset + c.utf8Size
    let ended ← tokenIf? isCut line start offset
    let start := if isCut then offset else start
    let last ← tokenIf? (next == byteLength line) line start next
    let later ← scanFrom? line inside start next rest
    pure (ended ++ last ++ later)

/-- The tokens of a line, read in one pass. -/
def scan? (line : String) : Option (List String) :=
  if line.isEmpty then some [""]
  else (scanFrom? line.toList false 0 0 line.toList).map fun tokens => tokens.map String.ofList

theorem byteLength_append (cs ds : List Char) :
    byteLength (cs ++ ds) = byteLength cs + byteLength ds := by
  simp [byteLength]

/-- The last character is the one that nothing follows. -/
theorem byteLength_append_eq_iff {cs ds : List Char} :
    byteLength cs = byteLength (cs ++ ds) ↔ ds = [] := by
  cases ds with
  | nil => simp
  | cons d ds =>
    have hpos := d.utf8Size_pos
    have hmore : 0 < byteLength (d :: ds) := Nat.lt_of_lt_of_le hpos (Nat.le_add_right _ _)
    rw [byteLength_append]
    constructor
    · intro h
      omega
    · rintro ⟨⟩

/-- What stands between two parts of a text is found by their lengths. -/
theorem slice?_append (gone span rest : List Char) :
    slice? (gone ++ span ++ rest) (byteLength gone) (byteLength (gone ++ span)) = some span := by
  have hcut : ∀ front back : List Char,
      cutAt? (front ++ back) (byteLength front) = some (front, back) := by
    intro front back
    have h := cutAt?_byteOffset (front ++ back) front.length
    rwa [byteOffset, List.take_left, List.drop_left] at h
  rw [slice?, hcut]
  show (cutAt? (gone ++ span) (byteLength gone)).bind _ = _
  rw [hcut]
  rfl

/-- A space in front of a token is gone when the token is clean. -/
theorem clean_space (cs : List Char) : clean (' ' :: cs) = clean cs := by
  rw [clean, clean, Text.trimStart_cons_of_blank (by decide)]

theorem byteLength_concat (cs : List Char) (c : Char) :
    byteLength cs + c.utf8Size = byteLength (cs ++ [c]) := by
  simp [byteLength]

section Reading

variable {line rest gone span s : List Char} {ss : List (List Char)} {inside : Bool}

theorem tokenIf?_true (hline : line = gone ++ span ++ rest) :
    tokenIf? true line (byteLength gone) (byteLength (gone ++ span)) = some [clean span] := by
  rw [tokenIf?, if_pos rfl, hline, slice?_append]
  rfl

/-- After a character there is the last token or there are the tokens of the rest. -/
theorem exists_tokens_after (hline : line = gone ++ span ++ rest)
    (hs : segments inside rest = s :: ss)
    (hscan : rest ≠ [] →
      scanFrom? line inside (byteLength gone) (byteLength (gone ++ span)) rest =
        some (clean (span ++ s) :: ss.map clean)) :
    ∃ last later,
      tokenIf? (byteLength (gone ++ span) == byteLength line) line
        (byteLength gone) (byteLength (gone ++ span)) = some last ∧
      scanFrom? line inside (byteLength gone) (byteLength (gone ++ span)) rest = some later ∧
      last ++ later = clean (span ++ s) :: ss.map clean := by
  have hend : (byteLength (gone ++ span) == byteLength line) = true ↔ rest = [] := by
    rw [beq_iff_eq, hline, byteLength_append_eq_iff]
  by_cases hrest : rest = []
  · have htoken := tokenIf?_true hline
    rw [← hend.2 hrest] at htoken
    subst hrest
    obtain ⟨rfl, rfl⟩ := List.cons.inj hs
    exact ⟨[clean span], [], htoken, rfl, by rw [List.append_nil, List.append_nil]; rfl⟩
  · exact ⟨[], _, if_neg fun h => hrest (hend.1 h), hscan hrest, rfl⟩

/-- A space does not turn the switch, so it can be looked at before or after the character. -/
theorem isCut_eq (inside : Bool) (c : Char) :
    (c == ' ' && !(inside != isQuote c)) = (c == ' ' && !inside) := by
  by_cases hc : c = ' '
  · rw [hc]
    cases inside <;> rfl
  · rw [beq_false_of_ne hc, Bool.false_and, Bool.false_and]

theorem scanFrom?_cons {c : Char} {isCut : Bool} {start offset : Nat}
    {ended last later : List (List Char)} (hcut : (c == ' ' && !inside) = isCut)
    (hended : tokenIf? isCut line start offset = some ended)
    (hlast : tokenIf? (offset + c.utf8Size == byteLength line) line
      (if isCut then offset else start) (offset + c.utf8Size) = some last)
    (hlater : scanFrom? line (inside != isQuote c) (if isCut then offset else start)
      (offset + c.utf8Size) rest = some later) :
    scanFrom? line inside start offset (c :: rest) = some (ended ++ (last ++ later)) := by
  rw [scanFrom?, isCut_eq, hcut, hended]
  show (tokenIf? _ _ _ _).bind _ = _
  rw [hlast]
  show (scanFrom? _ _ _ _ _).bind _ = _
  rw [hlater, ← List.append_assoc]
  rfl

/-- What is left of a line is cut where `segments` cuts it, and what was read since the last cut
stands in front of the first token. -/
theorem scanFrom?_eq (hne : rest ≠ []) (hline : line = gone ++ span ++ rest)
    (hs : segments inside rest = s :: ss) :
    scanFrom? line inside (byteLength gone) (byteLength (gone ++ span)) rest =
      some (clean (span ++ s) :: ss.map clean) := by
  induction rest generalizing inside gone span s ss with
  | nil => exact absurd rfl hne
  | cons c rest ih =>
    obtain ⟨t, ts, hrest⟩ :=
      List.exists_cons_of_ne_nil (segments_ne_nil (inside != isQuote c) rest)
    rw [segments] at hs
    split at hs
    · -- The line is cut here, and the next token starts at the space.
      rename_i hcut
      obtain ⟨rfl, rfl⟩ : c = ' ' ∧ inside = false := by simpa using hcut
      obtain ⟨rfl, rfl⟩ := List.cons.inj hs
      have hnext : line = (gone ++ span) ++ [' '] ++ rest := by simp [hline]
      obtain ⟨last, later, hlast, hlater, htokens⟩ :=
        exists_tokens_after hnext hrest fun hmore => ih hmore hnext hrest
      rw [← byteLength_concat] at hlast hlater
      refine (scanFrom?_cons hcut (tokenIf?_true hline) hlast hlater).trans ?_
      have hrest' : segments false rest = t :: ts := hrest
      rw [htokens, hrest', List.singleton_append, List.singleton_append, clean_space,
        List.append_nil, List.map_cons]
    · -- The character belongs to what was read since the last cut.
      rename_i hcut
      rw [hrest] at hs
      obtain ⟨rfl, rfl⟩ := List.cons.inj hs
      have hnext : line = gone ++ (span ++ [c]) ++ rest := by simp [hline]
      obtain ⟨last, later, hlast, hlater, htokens⟩ :=
        exists_tokens_after hnext hrest fun hmore => ih hmore hnext hrest
      rw [← List.append_assoc, ← byteLength_concat] at hlast hlater
      refine (scanFrom?_cons (Bool.eq_false_iff.2 hcut) rfl hlast hlater).trans ?_
      rw [List.nil_append, htokens, List.append_assoc, List.singleton_append]

end Reading

/-- **One pass over a line finds its tokens.** -/
theorem scan?_eq (line : String) : scan? line = some (ofLine line) := by
  unfold scan?
  split
  · rename_i hempty
    rw [String.isEmpty_iff.1 hempty]
    rfl
  · rename_i hempty
    have hne : line.toList ≠ [] := by
      rw [Ne, String.toList_eq_nil_iff, ← String.isEmpty_iff]
      exact hempty
    obtain ⟨s, ss, hs⟩ := List.exists_cons_of_ne_nil (segments_ne_nil false line.toList)
    have hline : line.toList = [] ++ [] ++ line.toList := rfl
    have hscan : scanFrom? line.toList false (byteLength []) (byteLength ([] ++ [])) line.toList =
        some (clean ([] ++ s) :: ss.map clean) := scanFrom?_eq hne hline hs
    have hstart : byteLength [] = 0 := rfl
    rw [List.nil_append, List.nil_append, hstart] at hscan
    rw [hscan, Option.map_some, ofLine, hs, ← List.map_cons, List.map_map]
    rfl

/-! ## The tokens of a line -/

/-- **The tokens of a line, place by place.**  There is one more of them than there are spaces with
an even number of quotes before.  Each is what stands between two such spaces in a row without the
blanks at its start, then without its quotes, and then with a newline for every `\N`.  So a line
may be put together of two, with a space between them, where the first has an even number of
quotes.  One pass over the line finds the same tokens. -/
theorem tokens_by_places :
    (∀ line : String,
      let places := cutPlaces line.toList
      let runs := runsBetween line.toList places
      scan? line = some (ofLine line) ∧ (ofLine line).length = 1 + places.length ∧
        runs.length = 1 + places.length ∧
        ∀ (i : Nat) (run : List Char) (token : String),
          runs[i]? = some run → (ofLine line)[i]? = some token →
          Decodes ((run.dropWhile Text.isBlank).filter fun c => !isQuote c) token.toList) ∧
    ∀ a b : String, a.toList.countP isQuote % 2 = 0 →
      ofLine (a ++ " " ++ b) = ofLine a ++ ofLine b := by
  refine ⟨fun line => ?_, fun a b heven => ?_⟩
  · intro places runs
    have hline : ofLine line = runs.map fun run => String.ofList (clean run) := by
      rw [ofLine, segments_eq, placesFrom_false]
    have hruns : runs.length = 1 + places.length := by
      simp [runs, runsBetween, Nat.add_comm]
    refine ⟨scan?_eq line, by rw [hline, List.length_map, hruns], hruns, ?_⟩
    intro i run token hrun htoken
    rw [hline, List.getElem?_map, hrun, Option.map_some, Option.some.injEq] at htoken
    rw [decodes_iff, ← htoken, String.toList_ofList]
    rfl
  · have hchars : (a ++ " " ++ b).toList = a.toList ++ ' ' :: b.toList := by simp
    rw [ofLine, hchars, segments_append (insideAfter_false_iff.2 heven), List.map_append]
    rfl

/-- A tab before a token, a quote within `\N`, a space within quotes of two kinds, a quote that is
never closed, and a space at the end of a line. -/
theorem tokens_by_places_mixed :
    let line := "say \t\\\"N \"a b' c"
    (cutPlaces line.toList = [3, 11] ∧ scan? line = some ["say", "\n a", "b c"] ∧
      Decodes "\\N a".toList "\n a".toList) ∧
    ("say \"x y'".toList.countP isQuote % 2 = 0 ∧
      ofLine "say \"x y' " = ofLine "say \"x y'" ++ [""]) := by
  intro line
  obtain ⟨hline, happend⟩ := tokens_by_places
  obtain ⟨hscan, -, -, htokens⟩ := hline line
  have hofLine : ofLine line = ["say", "\n a", "b c"] := by decide +kernel
  have heven : "say \"x y'".toList.countP isQuote % 2 = 0 := by decide +kernel
  refine ⟨⟨by decide +kernel, hofLine ▸ hscan, ?_⟩, heven, happend "say \"x y'" "" heven⟩
  exact htokens 1 "\t\\\"N \"a".toList "\n a" (by decide +kernel) (by decide +kernel)

end DevConsole.Tokens
