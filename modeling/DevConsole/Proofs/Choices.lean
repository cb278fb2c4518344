import DevConsole.Proofs.Overload

/-! # What a parameter takes from the catalogue

How a token is coerced depends on the other commands in one place only: a text that is tied by
a hard constraint to the names of the commands has to be one of them.  The names are listed once
for each group that differs in ASCII case, but compared in full upper case.  Names of one group
have the same upper-case form, so leaving out the others loses nothing: a token is a choice
exactly when *some* command has a name with its upper-case form (`isChoice_names`).

So a catalogue is to a parameter the set of the upper-case forms of its names
(`Catalogue.Offers`).  With more of them a token is coerced to the same value as before
(`Parameter.coerce_mono`), with as many it is coerced to the same result (`Parameter.coerce_congr`),
and a parameter without that constraint does not look at the catalogue at all
(`Parameter.coerce_eq_of_not_tied`).
-/
namespace DevConsole

/-! ## Names that differ in ASCII case -/

namespace Text

/-- What holds of the first 128 code points holds of every ASCII character. -/
theorem of_ascii {P : Char → Prop} (h : ∀ n < 0x80, P (Char.ofNat n)) {c : Char}
    (hc : c.toNat < 0x80) : P c := by
  have hp := h c.toNat hc
  rwa [Char.ofNat_toNat] at hp

/-- Characters outside ASCII are their own lower case. -/
theorem toLower_eq_self {c : Char} (hc : ¬ c.toNat < 0x80) : c.toLower = c := by
  unfold Char.toLower
  rw [dif_neg]
  intro h
  have hz : c.toNat ≤ 90 := h.2
  omega

/-- Only ASCII letters have a lower case here, and it has their upper-case form. -/
theorem upperChar_toLower (c : Char) : upperChar c.toLower = upperChar c := by
  by_cases hc : c.toNat < 0x80
  · exact of_ascii (P := fun c => upperChar c.toLower = upperChar c) (by decide) hc
  · rw [toLower_eq_self hc]

theorem upperChars_map_toLower (cs : List Char) :
    upperChars (cs.map Char.toLower) = upperChars cs := by
  induction cs with
  | nil => rfl
  | cons c cs ih => rw [List.map_cons, upperChars_cons, upperChars_cons, upperChar_toLower, ih]

/-- Texts that differ in ASCII case only have the same upper-case form. -/
theorem upper_eq_of_sameIgnoringAsciiCase {a b : String} (h : sameIgnoringAsciiCase a b = true) :
    upper a = upper b := by
  have hlower : a.toList.map Char.toLower = b.toList.map Char.toLower := eq_of_beq h
  rw [upper_eq_upper_iff, ← upperChars_map_toLower a.toList, hlower, upperChars_map_toLower]

end Text

namespace Catalogue

theorem mem_of_mem_distinct {name : String} {names : List String} (h : name ∈ distinct names) :
    name ∈ names := by
  induction names with
  | nil => exact h
  | cons first rest ih =>
    rcases List.mem_cons.1 h with rfl | h
    · exact List.mem_cons_self
    · exact List.mem_cons_of_mem _ (ih (List.mem_filter.1 h).1)

/-- Every name has one that stands for its group. -/
theorem exists_mem_distinct {name : String} {names : List String} (h : name ∈ names) :
    ∃ kept ∈ distinct names, Text.upper kept = Text.upper name := by
  induction names with
  | nil => cases h
  | cons first rest ih =>
    rcases List.mem_cons.1 h with rfl | h
    · exact ⟨name, List.mem_cons_self, rfl⟩
    · obtain ⟨kept, hkept, hup⟩ := ih h
      by_cases hsame : Text.sameIgnoringAsciiCase first kept = true
      · exact ⟨first, List.mem_cons_self,
          (Text.upper_eq_of_sameIgnoringAsciiCase hsame).trans hup⟩
      · refine ⟨kept, List.mem_cons_of_mem _ (List.mem_filter.2 ⟨hkept, ?_⟩), hup⟩
        rw [Bool.not_eq_true] at hsame
        rw [hsame]
        rfl

/-- Some command has a name with the upper-case form of the token. -/
def Offers (c : Catalogue) (token : String) : Prop :=
  ∃ s ∈ c, Text.upper s.name = Text.upper token

/-- **A token is among the distinct names exactly when some command has a name like it.** -/
theorem isChoice_names {c : Catalogue} {token : String} :
    Coercion.isChoice c.names token = true ↔ c.Offers token := by
  simp only [Coercion.isChoice, List.any_eq_true, beq_iff_eq, names]
  constructor
  · rintro ⟨name, hname, hup⟩
    obtain ⟨s, hs, rfl⟩ := List.mem_map.1 (mem_of_mem_distinct hname)
    exact ⟨s, hs, hup⟩
  · rintro ⟨s, hs, hup⟩
    obtain ⟨kept, hkept, hkeptup⟩ :=
      exists_mem_distinct (List.mem_map_of_mem (f := Signature.name) hs)
    exact ⟨kept, hkept, hkeptup.trans hup⟩

theorem Offers.mono {c c' : Catalogue} (h : c ⊆ c') {token : String} (ho : c.Offers token) :
    c'.Offers token := by
  obtain ⟨s, hs, hup⟩ := ho
  exact ⟨s, h hs, hup⟩

end Catalogue

/-! ## Coercion under another catalogue -/

/-- The constraint ties a text to the names of the commands. -/
def Constraint.namesCommand (constraint : Constraint) : Prop := constraint = .dynamic .commands true

instance (constraint : Constraint) : Decidable constraint.namesCommand :=
  inferInstanceAs (Decidable (constraint = .dynamic .commands true))

theorem Constraint.admits_congr {c c' : Catalogue} {token : String} {constraint : Constraint}
    (h : constraint.namesCommand → (c.Offers token ↔ c'.Offers token)) :
    constraint.admits c token = constraint.admits c' token := by
  cases constraint with
  | free | fixed choices hard => rfl
  | dynamic set hard =>
    cases set with
    | colors => rfl
    | commands =>
      cases hard with
      | false => rfl
      | true =>
        have hiff := h rfl
        rw [← Catalogue.isChoice_names, ← Catalogue.isChoice_names, ← Bool.eq_iff_iff] at hiff
        exact hiff

/-- A text is coerced to itself, exactly when the constraint admits it. -/
theorem Parameter.coerce_string_eq_ok {c : Catalogue} {p : Parameter} (hkind : p.kind = .string)
    {token : String} {v : Value} :
    p.coerce c token = .ok v ↔ p.constraint.admits c token = true ∧ v = .string token := by
  unfold coerce
  rw [hkind]
  dsimp only
  split
  · rename_i hadmits
    rw [Except.ok.injEq]
    exact ⟨fun h => ⟨hadmits, h.symm⟩, fun h => h.2.symm⟩
  · rename_i hadmits
    constructor
    · intro h
      cases h
    · intro h
      exact absurd h.1 hadmits

theorem Parameter.coerce_eq_of_admits {c c' : Catalogue} {p : Parameter} {token : String}
    (h : p.constraint.admits c token = p.constraint.admits c' token) :
    p.coerce c token = p.coerce c' token := by
  unfold coerce
  rw [h]

theorem Parameter.coerce_congr {c c' : Catalogue} (h : ∀ token, c.Offers token ↔ c'.Offers token)
    (p : Parameter) (token : String) : p.coerce c token = p.coerce c' token :=
  coerce_eq_of_admits (Constraint.admits_congr fun _ => h token)

theorem Parameter.coerce_eq_of_not_tied {c c' : Catalogue} {p : Parameter}
    (h : ¬ p.constraint.namesCommand) (token : String) : p.coerce c token = p.coerce c' token :=
  coerce_eq_of_admits (Constraint.admits_congr fun htied => absurd htied h)

theorem Constraint.admits_mono {c c' : Catalogue} {token : String}
    (h : c.Offers token → c'.Offers token) {constraint : Constraint}
    (ha : constraint.admits c token = true) : constraint.admits c' token = true := by
  by_cases ho : c.Offers token
  · rwa [← admits_congr fun _ => iff_of_true ho (h ho)]
  · -- The token is no name, so it was admitted by a constraint of another kind.
    rwa [← admits_congr fun htied => absurd ?_ ho]
    rw [htied] at ha
    exact Catalogue.isChoice_names.1 ha

/-- **A catalogue with more names coerces what it did before to the same values.** -/
theorem Parameter.coerce_mono {c c' : Catalogue} (h : ∀ token, c.Offers token → c'.Offers token)
    {p : Parameter} {token : String} {v : Value} (hv : p.coerce c token = .ok v) :
    p.coerce c' token = .ok v := by
  by_cases ha : p.constraint.admits c token = true
  · rwa [← coerce_eq_of_admits (ha.trans (Constraint.admits_mono (h token) ha).symm)]
  · -- A text would have been refused, and nothing else looks at the constraint.
    unfold coerce at hv ⊢
    split at hv
    · exact hv
    · exact hv
    · exact hv
    · rw [if_neg ha] at hv
      cases hv

/-! ## Fitting under another catalogue -/

namespace Signature

variable {c c' : Catalogue} {s : Signature} {tokens : List String} {vs : List Value}

theorem Fits.mono (h : ∀ token, c.Offers token → c'.Offers token) (hf : s.Fits c tokens vs) :
    s.Fits c' tokens vs :=
  ⟨hf.arity, hf.count, fun i p t v hp ht hv =>
    Parameter.coerce_mono h (hf.coerced i p t v hp ht hv)⟩

/-- A signature without parameters tied to the names of the commands fits alike everywhere. -/
theorem fits_congr_of_not_tied (h : ∀ p ∈ s.parameters, ¬ p.constraint.namesCommand) :
    s.Fits c tokens vs ↔ s.Fits c' tokens vs := by
  have himp : ∀ d d' : Catalogue, s.Fits d tokens vs → s.Fits d' tokens vs := by
    intro d d' hf
    refine ⟨hf.arity, hf.count, fun i p t v hp ht hv => ?_⟩
    rw [← Parameter.coerce_eq_of_not_tied (c := d) (h p (List.mem_of_getElem? hp)) t]
    exact hf.coerced i p t v hp ht hv
  exact ⟨himp c c', himp c' c⟩

end Signature

theorem Binding.ofTokens_congr {c c' : Catalogue} (h : ∀ token, c.Offers token ↔ c'.Offers token)
    (ps : List Parameter) (ts : List String) : ofTokens c ps ts = ofTokens c' ps ts := by
  induction ps generalizing ts with
  | nil => cases ts <;> rfl
  | cons p ps ih =>
    cases ts with
    | nil => rfl
    | cons t ts => rw [ofTokens, ofTokens, Parameter.coerce_congr h, ih]

/-- Catalogues with the same names bind the same tokens to the same arguments, and reject them
for the same reasons. -/
theorem Signature.bind_congr {c c' : Catalogue} (h : ∀ token, c.Offers token ↔ c'.Offers token)
    (s : Signature) (tokens : List String) : s.bind c tokens = s.bind c' tokens := by
  unfold bind
  rw [Binding.ofTokens_congr h]

end DevConsole
