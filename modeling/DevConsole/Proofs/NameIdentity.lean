import DevConsole.Proofs.ColorNames
import DevConsole.Proofs.Shadowing
import Mathlib.Data.List.Forall2

/-! # Which names are one

Names are compared in two ways.  A line is for a command when its name in full upper case begins
the line in full upper case, so the dispatcher cannot tell names apart that have one upper-case
form.  The list of names and the warning of a shadowed command take names for one when they differ
in ASCII case.

The second notion is the first one and something else: the names are also alike outside ASCII,
character by character (`Text.sameIgnoringAsciiCase_iff_upper`).  So for ASCII names the two agree,
and everywhere else the list may name a command twice.  Of two listed names that begin the same
lines it is known what they are (`Catalogue.listed_twice_iff`): names with one upper-case form that
differ in a character outside ASCII, or names that start with a blank, which begin no line at all.
-/
namespace DevConsole

namespace Text

/-! ## Alike outside ASCII -/

/-- The same character, or both of them ASCII. -/
def SameUnlessAscii (c d : Char) : Prop := c = d ∨ (c.toNat < 0x80 ∧ d.toNat < 0x80)

instance (c d : Char) : Decidable (SameUnlessAscii c d) := inferInstanceAs (Decidable (_ ∨ _))

/-- Character by character, the texts are the same or both ASCII. -/
def AlikeOutsideAscii (a b : String) : Prop := List.Forall₂ SameUnlessAscii a.toList b.toList

instance (a b : String) : Decidable (AlikeOutsideAscii a b) :=
  inferInstanceAs (Decidable (List.Forall₂ _ _ _))

/-- Only ASCII characters have the lower case of another character. -/
theorem sameUnlessAscii_of_toLower_eq {c d : Char} (h : c.toLower = d.toLower) :
    SameUnlessAscii c d := by
  by_cases hc : c.toNat < 0x80
  · refine .inr ⟨hc, Decidable.byContradiction fun hd => ?_⟩
    have hascii := toNat_toLower_lt hc
    rw [h, toLower_eq_self hd] at hascii
    exact hd hascii
  · rw [toLower_eq_self hc] at h
    by_cases hd : d.toNat < 0x80
    · exact absurd (h ▸ toNat_toLower_lt hd) hc
    · exact .inl (h.trans (toLower_eq_self hd))

/-- Characters that are the same unless ASCII take up as much of the upper-case forms. -/
theorem upperChar_append_inj {c d : Char} (h : SameUnlessAscii c d) {cs ds : List Char} :
    upperChar c ++ cs = upperChar d ++ ds ↔ c.toLower = d.toLower ∧ cs = ds := by
  rcases h with rfl | ⟨hc, hd⟩
  · simp
  · have hletter : c.toUpper = d.toUpper ↔ c.toLower = d.toLower := by
      constructor
      · intro hupper
        rw [← toLower_toUpper hc, hupper, toLower_toUpper hd]
      · intro hlower
        have hforms : upperChar c = upperChar d := by
          rw [← upperChar_toLower, hlower, upperChar_toLower]
        simpa [upperChar, hc, hd] using hforms
    rw [upperChar, upperChar, if_pos hc, if_pos hd, List.singleton_append, List.singleton_append,
      List.cons.injEq, hletter]

theorem map_toLower_eq_iff {cs ds : List Char} :
    cs.map Char.toLower = ds.map Char.toLower ↔
      upperChars cs = upperChars ds ∧ List.Forall₂ SameUnlessAscii cs ds := by
  induction cs generalizing ds with
  | nil =>
    cases ds with
    | nil => exact iff_of_true rfl ⟨rfl, .nil⟩
    | cons d ds => exact iff_of_false (fun h => nomatch h) fun h => nomatch h.2
  | cons c cs ih =>
    cases ds with
    | nil => exact iff_of_false (fun h => nomatch h) fun h => nomatch h.2
    | cons d ds =>
      rw [List.map_cons, List.map_cons, List.cons.injEq, ih, upperChars_cons, upperChars_cons,
        List.forall₂_cons]
      constructor
      · rintro ⟨hhead, hupper, htail⟩
        have hsame := sameUnlessAscii_of_toLower_eq hhead
        exact ⟨(upperChar_append_inj hsame).2 ⟨hhead, hupper⟩, hsame, htail⟩
      · rintro ⟨hupper, hsame, htail⟩
        obtain ⟨hhead, hupper⟩ := (upperChar_append_inj hsame).1 hupper
        exact ⟨hhead, hupper, htail⟩

/-- **Texts differ in ASCII case only exactly when they have one upper-case form and are alike
outside ASCII.** -/
theorem sameIgnoringAsciiCase_iff_upper {a b : String} :
    sameIgnoringAsciiCase a b = true ↔ upper a = upper b ∧ AlikeOutsideAscii a b := by
  rw [sameIgnoringAsciiCase, beq_iff_eq, map_toLower_eq_iff, upper_eq_upper_iff, AlikeOutsideAscii]

/-- The text starts with a blank. -/
def StartsBlank (s : String) : Prop := ∃ c ∈ s.toList.head?, isBlank c = true

instance (s : String) : Decidable (StartsBlank s) :=
  match h : s.toList.head? with
  | none => isFalse (by simp [StartsBlank, h])
  | some c => decidable_of_iff (isBlank c = true) (by simp [StartsBlank, h])

/-- The registry takes the names for one. -/
def OneName (a b : String) : Prop := upper a = upper b ∧ AlikeOutsideAscii a b

instance (a b : String) : Decidable (OneName a b) := inferInstanceAs (Decidable (_ ∧ _))

/-- ASCII texts with one upper-case form are one name. -/
theorem oneName_iff_of_ascii {a b : String} (ha : IsAscii a) (hb : IsAscii b) :
    OneName a b ↔ upper a = upper b := by
  refine ⟨fun h => h.1, fun h => ?_⟩
  exact sameIgnoringAsciiCase_iff_upper.1 (sameIgnoringAsciiCase_of_upper_eq ha hb h)

end Text

/-! ## Listed names -/

namespace Catalogue

/-- A further name is listed unless an earlier one differs from it in ASCII case only. -/
theorem distinct_concat (names : List String) (name : String) :
    distinct (names ++ [name]) =
      if names.any fun earlier => Text.sameIgnoringAsciiCase earlier name then distinct names
      else distinct names ++ [name] := by
  induction names with
  | nil => rfl
  | cons first rest ih =>
    rw [List.cons_append, distinct, ih, List.any_cons, distinct]
    cases hrest : rest.any fun earlier => Text.sameIgnoringAsciiCase earlier name with
    | true => rw [Bool.or_true]; rfl
    | false =>
      rw [Bool.or_false, if_neg Bool.false_ne_true, List.filter_append]
      cases hfirst : Text.sameIgnoringAsciiCase first name with
      | true => simp [hfirst]
      | false => simp [hfirst]

/-- No two listed names differ in ASCII case only. -/
theorem pairwise_distinct (names : List String) :
    (distinct names).Pairwise fun a b => Text.sameIgnoringAsciiCase a b = false := by
  induction names with
  | nil => exact .nil
  | cons first rest ih =>
    refine List.pairwise_cons.2 ⟨fun other hother => ?_, ih.filter _⟩
    simpa using (List.mem_filter.1 hother).2

/-- **One more signature adds its name to the list, unless an earlier one has that name.** -/
theorem names_concat (earlier : Catalogue) (s : Signature) :
    names (earlier ++ [s]) =
      if ∃ e ∈ earlier, Text.OneName e.name s.name then names earlier
      else names earlier ++ [s.name] := by
  have hany : (earlier.map Signature.name).any
      (fun name => Text.sameIgnoringAsciiCase name s.name) = true ↔
      ∃ e ∈ earlier, Text.OneName e.name s.name := by
    simp only [List.any_map, List.any_eq_true, Function.comp_apply,
      Text.sameIgnoringAsciiCase_iff_upper, Text.OneName]
  rw [names, List.map_append, List.map_singleton, distinct_concat]
  exact if_congr hany rfl rfl

/-- Two listed names are never one. -/
theorem not_oneName_of_listed {c : Catalogue} {i j : Nat} {x y : String} (hij : i < j)
    (hx : c.names[i]? = some x) (hy : c.names[j]? = some y) : ¬ Text.OneName x y := by
  intro hone
  obtain ⟨hi, rfl⟩ := List.getElem?_eq_some_iff.1 hx
  obtain ⟨hj, rfl⟩ := List.getElem?_eq_some_iff.1 hy
  have hdiffer := List.pairwise_iff_getElem.1 (pairwise_distinct _) i j hi hj hij
  have hsame := Text.sameIgnoringAsciiCase_iff_upper.2 hone
  exact Bool.false_ne_true (hdiffer.symm.trans hsame)

end Catalogue

/-- **A signature shadows a later one exactly when the names are one, the kinds are the same and
nothing is hard.** -/
theorem Signature.shadows_iff {s later : Signature} :
    s.shadows later = true ↔
      Text.OneName s.name later.name ∧ s.parameters.length = later.parameters.length ∧
        ∀ (i : Nat) (p q : Parameter), s.parameters[i]? = some p → later.parameters[i]? = some q →
          p.kind = q.kind ∧ p.constraint.isHard = false := by
  constructor
  · intro h
    refine ⟨?_, length_parameters_of_shadows h, fun i p q => parameters_of_shadows h⟩
    simp only [shadows, Bool.and_eq_true] at h
    exact Text.sameIgnoringAsciiCase_iff_upper.1 h.1.1
  · rintro ⟨hname, hlength, hparameters⟩
    simp only [shadows, Bool.and_eq_true, beq_iff_eq, List.all_eq_true]
    refine ⟨⟨Text.sameIgnoringAsciiCase_iff_upper.2 hname, hlength⟩, ?_⟩
    rintro ⟨p, q⟩ hpair
    obtain ⟨i, hi⟩ := List.mem_iff_getElem?.1 hpair
    obtain ⟨hp, hq⟩ := List.getElem?_zip_eq_some.1 hi
    obtain ⟨hkind, hsoft⟩ := hparameters i p q hp hq
    simp [hkind, hsoft]

/-! ## Names and the lines that they begin -/

namespace Registry

/-- No line starts with a blank once it is normalized. -/
theorem head_normalize (line : String) :
    ∀ c ∈ (normalize line).toList.head?, Text.isBlank c = false := by
  rw [normalize, Text.toList_upper, Text.toList_trim,
    ← Text.trimChars_upperChars (Text.head_trimChars _) (Text.getLast_trimChars _)]
  exact Text.head_trimChars _

/-- A name that starts with a blank begins no line. -/
theorem answers_eq_false_of_startsBlank {s : Signature} (h : Text.StartsBlank s.name)
    (line : String) : answers s (normalize line) = false := by
  obtain ⟨c, hc, hblank⟩ := h
  refine Bool.eq_false_iff.2 fun hanswers => ?_
  obtain ⟨rest, hrest⟩ := Text.begins_iff.1 hanswers
  obtain ⟨cs, hcs⟩ := List.head?_eq_some_iff.1 hc
  rw [Text.toList_upper, hcs, Text.upperChars_cons, Text.upperChar_blank hblank] at hrest
  have hhead := head_normalize line
  rw [← hrest] at hhead
  exact absurd (hhead c rfl) (by simp [hblank])

/-- Any other name begins the line that consists of it and a digit. -/
theorem toList_normalize_name {name : String} (h : ¬ Text.StartsBlank name) {digit : Char}
    (hdigit : digit = '0' ∨ digit = '1') :
    (normalize (name ++ String.singleton digit)).toList =
      Text.upperChars name.toList ++ [digit] := by
  have hplain : Text.isBlank digit = false ∧ Text.upperChar digit = [digit] := by
    rcases hdigit with rfl | rfl <;> decide
  have hstart : ∀ c ∈ (name.toList ++ [digit]).head?, Text.isBlank c = false := by
    intro c hc
    cases hname : name.toList with
    | nil =>
      rw [hname] at hc
      simp only [List.nil_append, List.head?_cons, Option.mem_some_iff] at hc
      exact hc ▸ hplain.1
    | cons d ds =>
      refine Bool.eq_false_iff.2 fun hblank => h ⟨c, ?_, hblank⟩
      rw [hname] at hc ⊢
      exact hc
  have hend : ∀ c ∈ (name.toList ++ [digit]).getLast?, Text.isBlank c = false := by
    intro c hc
    rw [List.getLast?_concat, Option.mem_some_iff] at hc
    exact hc ▸ hplain.1
  rw [normalize, Text.toList_upper, Text.toList_trim, String.toList_append, String.toList_singleton,
    Text.trimChars_eq_self hstart hend, Text.upperChars_append, Text.upperChars_cons, hplain.2]
  simp

/-- A name that begins the lines that another name begins is a beginning of that name. -/
theorem upper_prefix_of_answers {s t : Signature} (hs : ¬ Text.StartsBlank s.name)
    (h : ∀ line, answers s (normalize line) = true → answers t (normalize line) = true) :
    Text.upperChars t.name.toList <+: Text.upperChars s.name.toList := by
  have hline : ∀ digit, digit = '0' ∨ digit = '1' →
      Text.upperChars t.name.toList <+: Text.upperChars s.name.toList ++ [digit] := by
    intro digit hdigit
    have hnormal := toList_normalize_name hs hdigit
    have hanswers := h (s.name ++ String.singleton digit) (by
      rw [answers, Text.begins_iff, hnormal, Text.toList_upper]
      exact List.prefix_append _ _)
    rwa [answers, Text.begins_iff, hnormal, Text.toList_upper] at hanswers
  rcases List.prefix_concat_iff.1 (hline '0' (.inl rfl)) with hzero | hzero
  · -- The whole line would be the beginning, digit and all, and another digit is as good.
    rcases List.prefix_concat_iff.1 (hline '1' (.inr rfl)) with hone | hone
    · have hdigits := (List.append_inj' (hzero.symm.trans hone) rfl).2
      exact absurd hdigits (by decide)
    · exact hone
  · exact hzero

/-- **No line tells two names apart exactly when they have one upper-case form, or both start with
a blank.** -/
theorem answers_eq_iff {s t : Signature} :
    (∀ line, answers s (normalize line) = answers t (normalize line)) ↔
      Text.upper s.name = Text.upper t.name ∨
        Text.StartsBlank s.name ∧ Text.StartsBlank t.name := by
  constructor
  · intro h
    -- A name that does not start with a blank begins a line, and then so does the other.
    have hblank : ∀ {s t : Signature}, ¬ Text.StartsBlank s.name →
        (∀ line, answers s (normalize line) = answers t (normalize line)) →
        ¬ Text.StartsBlank t.name := by
      intro s t hs h ht
      have hnormal := toList_normalize_name hs (.inl rfl : '0' = '0' ∨ '0' = '1')
      have hanswers := h (s.name ++ String.singleton '0')
      rw [answers_eq_false_of_startsBlank ht, answers, Bool.eq_false_iff, Ne, Text.begins_iff,
        hnormal, Text.toList_upper] at hanswers
      exact hanswers (List.prefix_append _ _)
    by_cases hs : Text.StartsBlank s.name
    · by_cases ht : Text.StartsBlank t.name
      · exact .inr ⟨hs, ht⟩
      · exact absurd hs (hblank ht fun line => (h line).symm)
    · have ht := hblank hs h
      have hts := upper_prefix_of_answers hs fun line hline => (h line).symm.trans hline
      have hst := upper_prefix_of_answers ht fun line hline => (h line).trans hline
      refine .inl (Text.upper_eq_upper_iff.2 (hst.eq_of_length ?_))
      exact Nat.le_antisymm hst.length_le hts.length_le
  · rintro (hupper | ⟨hs, ht⟩) line
    · rw [answers, answers, hupper]
    · rw [answers_eq_false_of_startsBlank hs, answers_eq_false_of_startsBlank ht]

variable {Host Out : Type}

/-- The line has a candidate of the name. -/
def Finds (r : Registry Host Out) (name line : String) : Prop :=
  ∃ c ∈ r.candidates line, c.signature.name = name

theorem finds_iff {r : Registry Host Out} {c : Command Host Out} (hc : c ∈ r.commands)
    (line : String) :
    r.Finds c.signature.name line ↔ answers c.signature (normalize line) = true := by
  constructor
  · rintro ⟨d, hd, hname⟩
    have hanswers := (List.mem_filter.1 hd).2
    rwa [answers, hname] at hanswers
  · exact fun h => ⟨c, List.mem_filter.2 ⟨hc, h⟩, rfl⟩

/-- A listed name is that of a command. -/
theorem exists_command_of_listed {r : Registry Host Out} {name : String}
    (h : name ∈ r.catalogue.names) : ∃ c ∈ r.commands, c.signature.name = name := by
  obtain ⟨s, hs, rfl⟩ := List.mem_map.1 (Catalogue.mem_of_mem_distinct h)
  obtain ⟨c, hc, rfl⟩ := List.mem_map.1 hs
  exact ⟨c, hc, rfl⟩

/-- **Two listed names that begin the same lines differ outside ASCII, or start with a blank.** -/
theorem listed_twice_iff {r : Registry Host Out} {i j : Nat} {x y : String} (hij : i < j)
    (hx : r.catalogue.names[i]? = some x) (hy : r.catalogue.names[j]? = some y) :
    (∀ line, r.Finds x line ↔ r.Finds y line) ↔
      (Text.upper x = Text.upper y ∧ ¬ Text.AlikeOutsideAscii x y) ∨
        Text.StartsBlank x ∧ Text.StartsBlank y := by
  have hdiffer := Catalogue.not_oneName_of_listed hij hx hy
  obtain ⟨c, hc, rfl⟩ := exists_command_of_listed (List.mem_of_getElem? hx)
  obtain ⟨d, hd, rfl⟩ := exists_command_of_listed (List.mem_of_getElem? hy)
  have hlines : (∀ line, r.Finds c.signature.name line ↔ r.Finds d.signature.name line) ↔
      ∀ line, answers c.signature (normalize line) = answers d.signature (normalize line) := by
    refine forall_congr' fun line => ?_
    rw [finds_iff hc, finds_iff hd]
    exact Bool.eq_iff_iff.symm
  rw [hlines, answers_eq_iff]
  refine or_congr_left ⟨fun hupper => ⟨hupper, fun halike => hdiffer ⟨hupper, halike⟩⟩, And.left⟩

/-! ## The two notions side by side -/

/-- **The list of names and the warning tell names apart as lines do, outside ASCII apart.**  A name
is left out of the list exactly when an earlier one is one with it, which is also the part of the
warning that is about names: one upper-case form, and alike outside ASCII.  No line tells two names
apart exactly when they have one upper-case form, or start with a blank so that no line finds them.
For ASCII names the two are the same.  So of two listed names that the same lines find, one has
another character than the other outside ASCII, or both start with a blank. -/
theorem names_told_apart {Host Out : Type} (r : Registry Host Out) :
    (∀ (earlier : Catalogue) (s : Signature),
      Catalogue.names (earlier ++ [s]) =
        if ∃ e ∈ earlier, Text.OneName e.name s.name then earlier.names
        else earlier.names ++ [s.name]) ∧
    (∀ s later : Signature, s.shadows later = true ↔
      Text.OneName s.name later.name ∧ s.parameters.length = later.parameters.length ∧
        ∀ (i : Nat) (p q : Parameter), s.parameters[i]? = some p → later.parameters[i]? = some q →
          p.kind = q.kind ∧ p.constraint.isHard = false) ∧
    (∀ s t : Signature, (∀ line, answers s (normalize line) = answers t (normalize line)) ↔
      Text.upper s.name = Text.upper t.name ∨
        Text.StartsBlank s.name ∧ Text.StartsBlank t.name) ∧
    (∀ a b, Text.IsAscii a → Text.IsAscii b →
      (Text.OneName a b ↔ Text.upper a = Text.upper b)) ∧
    ∀ (i j : Nat) (x y : String), i < j → r.catalogue.names[i]? = some x →
      r.catalogue.names[j]? = some y →
      ((∀ line, r.Finds x line ↔ r.Finds y line) ↔
        (Text.upper x = Text.upper y ∧ ¬ Text.AlikeOutsideAscii x y) ∨
          Text.StartsBlank x ∧ Text.StartsBlank y) := by
  refine ⟨Catalogue.names_concat, fun s later => Signature.shadows_iff, fun s t => answers_eq_iff,
    fun a b ha hb => Text.oneName_iff_of_ascii ha hb, ?_⟩
  intro i j x y hij hx hy
  exact listed_twice_iff hij hx hy

/-- A command that does nothing. -/
def idle (name : String) : Command Host Out where
  signature := { name := name }
  body _ _ := pure none

/-- Of `print` and `PRINT` the first is listed.  `straße` and `STRASSE` are listed both, and the
same lines find them. -/
theorem names_told_apart_sharp_s :
    let r : Registry Unit Transcript :=
      { commands := [idle "print", idle "PRINT", idle "straße", idle "STRASSE"],
        accepted := by decide }
    r.catalogue.names = ["print", "straße", "STRASSE"] ∧
    (Text.OneName "print" "PRINT" ↔ Text.upper "print" = Text.upper "PRINT") ∧
    (idle "print" : Command Unit Transcript).signature.shadows
      (idle "PRINT" : Command Unit Transcript).signature = true ∧
    (¬ Text.AlikeOutsideAscii "straße" "STRASSE") ∧
    ∀ line, r.Finds "straße" line ↔ r.Finds "STRASSE" line := by
  intro r
  obtain ⟨-, hshadows, -, hascii, hlisted⟩ := names_told_apart r
  have hnames : r.catalogue.names = ["print", "straße", "STRASSE"] := by decide +kernel
  have hapart : ¬ Text.AlikeOutsideAscii "straße" "STRASSE" := by decide +kernel
  have hprint := hascii "print" "PRINT" (by decide +kernel) (by decide +kernel)
  refine ⟨hnames, hprint, (hshadows _ _).2 ⟨by decide +kernel, rfl, ?_⟩, hapart, ?_⟩
  · intro i p q hp
    cases hp
  · refine (hlisted 1 2 "straße" "STRASSE" (by decide) ?_ ?_).2 (.inl ⟨by decide +kernel, hapart⟩)
    · rw [hnames]
      rfl
    · rw [hnames]
      rfl

/-- Two commands whose names differ in the case of a letter outside ASCII have one upper-case form
and are candidates for the same lines, but both names are listed, and there is no warning. -/
theorem accented_name_listed_twice :
    let r : Registry Unit Transcript :=
      { commands := [idle "é", idle "É"], accepted := by decide }
    Text.upper "é" = Text.upper "É" ∧ (∀ line, r.Finds "é" line ↔ r.Finds "É" line) ∧
      r.catalogue.names = ["é", "É"] ∧
      (idle "é" : Command Unit Transcript).signature.shadows
        (idle "É" : Command Unit Transcript).signature = false := by
  intro r
  have hupper : Text.upper "é" = Text.upper "É" := by decide +kernel
  refine ⟨hupper, fun line => ?_, by decide +kernel, by decide +kernel⟩
  have hfirst := finds_iff (r := r) (c := idle "é") List.mem_cons_self line
  have hmem : idle "É" ∈ r.commands := List.mem_cons_of_mem _ List.mem_cons_self
  have hsecond := finds_iff (r := r) hmem line
  have hanswers := answers_eq_iff (s := (idle "é" : Command Unit Transcript).signature)
    (t := (idle "É" : Command Unit Transcript).signature) |>.2 (.inl hupper) line
  rw [hanswers, ← hsecond] at hfirst
  exact hfirst

end Registry

end DevConsole
