import DevConsole.Proofs.QuotedArguments
import DevConsole.Proofs.Registration

/-! # Commands that are never reached

`Signature.shadows` compares two declarations without any line: the names up to ASCII case, the
kinds of the parameters one by one, and whether the first declaration has hard constraints.  What it
says about lines follows in three steps.  Names that differ in ASCII case begin the same lines
(`answers_of_shadows`).  A parameter without a hard constraint takes every token that another
parameter of its kind takes, and makes the same argument of it (`Parameter.coerce_of_soft`); what
the other one is tied to, and so the catalogue, does not matter.  So every line for the shadowed
command fits the earlier one as well (`Fits.of_shadows`).

Then the shadowed command is never selected: the command that shadows it stands before it, and goes
on to stand there whatever is registered later (`shadowed_never_selected`).  A command can be
registered twice, so this is said of the place where it is registered.
-/
namespace DevConsole

/-! ## What the comparison says about lines -/

/-- A parameter without a hard constraint takes what a parameter of the same kind takes. -/
theorem Parameter.coerce_of_soft {catalogue : Catalogue} {p q : Parameter} {token : String}
    {v : Value} (hkind : p.kind = q.kind) (hsoft : p.constraint.isHard = false)
    (hq : q.coerce catalogue token = .ok v) : p.coerce catalogue token = .ok v := by
  by_cases hstring : q.kind = .string
  · -- A text stands for itself, with whatever constraint it was taken.
    obtain ⟨-, rfl⟩ := (coerce_string_eq_ok hstring).1 hq
    exact (coerce_string_eq_ok (hkind.trans hstring)).2
      ⟨Constraint.admits_of_not_hard hsoft catalogue token, rfl⟩
  · -- No other kind looks at the constraint.
    rw [← hq, coerce, coerce, hkind]
    cases hk : q.kind with
    | int | float | bool => rfl
    | string => exact absurd hk hstring

namespace Signature

variable {s later : Signature}

theorem upper_name_of_shadows (h : s.shadows later = true) :
    Text.upper s.name = Text.upper later.name := by
  simp only [shadows, Bool.and_eq_true] at h
  exact Text.upper_eq_of_sameIgnoringAsciiCase h.1.1

theorem length_parameters_of_shadows (h : s.shadows later = true) :
    s.parameters.length = later.parameters.length := by
  simp only [shadows, Bool.and_eq_true, beq_iff_eq] at h
  exact h.1.2

/-- Parameters at the same place have the same kind, and the first one has no hard constraint. -/
theorem parameters_of_shadows (h : s.shadows later = true) {i : Nat} {p q : Parameter}
    (hp : s.parameters[i]? = some p) (hq : later.parameters[i]? = some q) :
    p.kind = q.kind ∧ p.constraint.isHard = false := by
  simp only [shadows, Bool.and_eq_true] at h
  have hpair : (p, q) ∈ s.parameters.zip later.parameters := by
    refine List.mem_of_getElem? (i := i) ?_
    rw [List.getElem?_zip_eq_some]
    exact ⟨hp, hq⟩
  have hboth := List.all_eq_true.1 h.2 _ hpair
  simpa using hboth

/-- The shadowing command takes the tokens that the shadowed one takes, as the same arguments. -/
theorem Fits.of_shadows {catalogue : Catalogue} {tokens : List String} {vs : List Value}
    (h : s.shadows later = true) (hfits : later.Fits catalogue tokens vs) :
    s.Fits catalogue tokens vs := by
  have hlength := length_parameters_of_shadows h
  refine ⟨hlength.trans hfits.arity, hfits.count.trans hlength.symm, fun i p t v hp ht hv => ?_⟩
  have hi : i < later.parameters.length := hlength ▸ (List.getElem?_eq_some_iff.1 hp).1
  have hq : later.parameters[i]? = some later.parameters[i] := List.getElem?_eq_getElem hi
  obtain ⟨hkind, hsoft⟩ := parameters_of_shadows h hp hq
  exact Parameter.coerce_of_soft hkind hsoft (hfits.coerced i _ t v hq ht hv)

end Signature

namespace Registry

variable {Host Out : Type}

/-- The shadowing command is a candidate for the lines that the shadowed one is a candidate for. -/
theorem answers_of_shadows {s later : Signature} (h : s.shadows later = true)
    (normalized : String) : answers s normalized = answers later normalized := by
  rw [answers, answers, Signature.upper_name_of_shadows h]

/-! ## Selecting -/

theorem mem_take_of_place {r : Registry Host Out} {i j : Nat} {c : Command Host Out} (hij : i < j)
    (hplace : r.commands[i]? = some c) : c ∈ r.commands.take j :=
  List.mem_of_getElem? ((List.getElem?_take_of_lt hij).trans hplace)

/-- A line selects a command at one place at most. -/
theorem Selects.unique {r : Registry Host Out} {line : String} {i j : Nat} {c d : Command Host Out}
    {vs ws : List Value} (hi : r.Selects line i c vs) (hj : r.Selects line j d ws) : i = j := by
  -- Of two places the first one would be tried, and taken, before the second.
  have hle : ∀ {i j c d vs ws}, r.Selects line i c vs → r.Selects line j d ws → j ≤ i := by
    intro i j c d vs ws hi hj
    refine Nat.le_of_not_lt fun hlt => ?_
    exact hj.first c (mem_take_of_place hlt hi.place) hi.answers vs hi.fits
  exact Nat.le_antisymm (hle hj hi) (hle hi hj)

/-- At the place of a shadowed command nothing is selected. -/
theorem not_selects_of_shadows {r : Registry Host Out} {i j : Nat} {a b d : Command Host Out}
    {line : String} {ws : List Value} (hij : i < j) (ha : r.commands[i]? = some a)
    (hb : r.commands[j]? = some b) (hshadows : a.signature.shadows b.signature = true) :
    ¬ r.Selects line j d ws := by
  intro h
  obtain rfl : d = b := Option.some.inj (h.place.symm.trans hb)
  have hanswers := (answers_of_shadows hshadows _).trans h.answers
  exact h.first a (mem_take_of_place hij ha) hanswers ws (h.fits.of_shadows hshadows)

/-! ## The warning -/

/-- A warning on registration comes of a command that shadows the new one. -/
theorem exists_shadows_of_warning {r r' : Registry Host Out} {c : Command Host Out} {text : String}
    (h : (r.register c).1 = .ok r') (hwarn : ⟨.warn, text⟩ ∈ (r.register c).2) :
    ∃ a ∈ r.commands, a.signature.shadows c.signature = true := by
  unfold register at h hwarn
  split at h
  · cases h
  · rename_i hfault
    split at hwarn
    · rename_i fault hfault'
      rw [hfault] at hfault'
      cases hfault'
    · by_cases hany : (r.catalogue.any fun e => e.shadows c.signature) = true
      · obtain ⟨s, hs, hshadows⟩ := List.any_eq_true.1 hany
        obtain ⟨a, ha, rfl⟩ := List.mem_map.1 hs
        exact ⟨a, ha, hshadows⟩
      · simp [registrationNotes, hany] at hwarn

/-- **A command that an earlier one shadows is never selected.**  Whatever is registered before,
between and after the two, at once or later: when the line has the shadowed command among its
candidates and fits it, then it has the earlier one among them and fits that with the same
arguments, so it runs that one or one before.  A registration that warns of it is right for every
line from then on. -/
theorem shadowed_never_selected {Host Out : Type} [Sink Out] (r : Registry Host Out) :
    (∀ (i j : Nat) (a b : Command Host Out), i < j → r.commands[i]? = some a →
      r.commands[j]? = some b → a.signature.shadows b.signature = true →
      ∀ (more : List (Command Host Out)) (line : String),
        let later := r.registerEach more
        (∀ vs, answers b.signature (normalize line) = true →
          b.signature.Fits later.catalogue (tokens line) vs →
          answers a.signature (normalize line) = true ∧
            a.signature.Fits later.catalogue (tokens line) vs ∧
            ∃ k ≤ i, ∃ c ws, later.Selects line k c ws ∧
              ∃ notes : List Note, ∀ env : Environment Host Out, later.execute line env =
                let o := c.body later.interpreter ws env
                ⟨o.result, o.env,
                  notes.map .noted ++ .invoked c.signature ws env.depth :: o.trace⟩) ∧
        ∀ c ws, later.resolve line = .selected c ws →
          ∃ k, later.Selects line k c ws ∧ k ≠ j ∧ ∀ k' d us, later.Selects line k' d us → k' = k) ∧
    ∀ (b : Command Host Out) (r' : Registry Host Out) (text : String),
      (r.register b).1 = .ok r' → ⟨.warn, text⟩ ∈ (r.register b).2 →
      ∀ (more : List (Command Host Out)) (line : String) (c : Command Host Out) (ws : List Value),
        ¬ (r'.registerEach more).Selects line r.size c ws := by
  refine ⟨?_, ?_⟩
  · intro i j a b hij ha hb hshadows more line later
    -- Both commands keep their places.
    have hextends : r.Extends later := extends_registerEach r more
    refine ⟨fun vs hanswers hfits => ?_, fun c ws hresolve => ?_⟩
    · have haanswers := (answers_of_shadows hshadows _).trans hanswers
      have hafits : a.signature.Fits later.catalogue (tokens line) vs := hfits.of_shadows hshadows
      obtain ⟨k, hk, c, ws, hselects⟩ := exists_selects (hextends.place ha) haanswers hafits
      refine ⟨haanswers, hafits, k, hk, c, ws, hselects, later.rejections line, fun env => ?_⟩
      exact execute_of_selected hselects.resolve env
    · obtain ⟨k, hselects⟩ := resolve_eq_selected_iff.1 hresolve
      refine ⟨k, hselects, ?_, fun k' d us hother => hother.unique hselects⟩
      rintro rfl
      exact not_selects_of_shadows hij (hextends.place ha) (hextends.place hb) hshadows hselects
  · intro b r' text hregister hwarn more line c ws
    obtain ⟨a, ha, hshadows⟩ := exists_shadows_of_warning hregister hwarn
    obtain ⟨i, hi⟩ := List.mem_iff_getElem?.1 ha
    have hlt : i < r.size := (List.getElem?_eq_some_iff.1 hi).1
    have hcommands : r'.commands = r.commands ++ [b] := register_eq_ok hregister
    have hextends : r'.Extends (r'.registerEach more) := extends_registerEach r' more
    have hafter : r'.commands[i]? = some a := by rw [hcommands, List.getElem?_append_left hlt, hi]
    have hlast : r'.commands[r.size]? = some b := by
      rw [hcommands, size, List.getElem?_concat_length]
    exact not_selects_of_shadows hlt (hextends.place hafter) (hextends.place hlast) hshadows

/-- An overload of `pick` whose name has another case, and that is tied to the names of the
commands without insisting on them. -/
def pickSoft : Command Host Out where
  signature :=
    { name := "Pick"
      parameters := [{ name := "any", kind := .string, constraint := .dynamic .commands false }] }
  body _ arguments := pure arguments.head?

/-- The overload of `pick` that insists on the name of a command stands behind one that does not,
with a command for every line between them.  It would take `PICK extra`, but the line is for the
other one; and registering it once more is warned of. -/
theorem shadowed_never_selected_pick :
    let r : Registry Unit Transcript :=
      { commands := [extraCommand, pickSoft, namelessCommand, pickTied], accepted := by decide }
    let r' : Registry Unit Transcript :=
      { commands := [extraCommand, pickSoft, namelessCommand, pickTied, pickTied],
        accepted := by decide }
    let later := r.registerEach [pickFree]
    let line := "PICK extra"
    let text := "pick <name (String)> is shadowed by an earlier overload and will never be selected"
    ((pickSoft : Command Unit Transcript).signature.shadows
        (pickTied : Command Unit Transcript).signature = true ∧
      answers (pickTied : Command Unit Transcript).signature (normalize line) = true ∧
      (pickTied : Command Unit Transcript).signature.Fits later.catalogue (tokens line)
        [.string "extra"]) ∧
    ((pickSoft : Command Unit Transcript).signature.Fits later.catalogue (tokens line)
        [.string "extra"] ∧
      ∃ k ≤ 1, ∃ c ws, later.Selects line k c ws) ∧
    (∀ c ws, later.resolve line = .selected c ws → ∃ k, later.Selects line k c ws ∧ k ≠ 3) ∧
    ((r.register pickTied).1 = .ok r' ∧ ⟨.warn, text⟩ ∈ (r.register pickTied).2) ∧
      ∀ c ws, ¬ (r'.registerEach [pickFree]).Selects line 4 c ws := by
  intro r r' later line text
  obtain ⟨hshadowed, hwarned⟩ := shadowed_never_selected r
  have hshadows : (pickSoft : Command Unit Transcript).signature.shadows
      (pickTied : Command Unit Transcript).signature = true := by decide
  have hanswers :
      answers (pickTied : Command Unit Transcript).signature (normalize line) = true := by
    decide +kernel
  have hfits : (pickTied : Command Unit Transcript).signature.Fits later.catalogue (tokens line)
      [.string "extra"] := Signature.bind_eq_bound.1 (by decide +kernel)
  obtain ⟨htaken, hresolved⟩ :=
    hshadowed 1 3 pickSoft pickTied (by decide) rfl rfl hshadows [pickFree] line
  obtain ⟨-, hsoft, k, hk, c, ws, hselects, -⟩ := htaken _ hanswers hfits
  have hregister : (r.register pickTied).1 = .ok r' := register_of_accepted (by decide)
  have hwarn : ⟨.warn, text⟩ ∈ (r.register pickTied).2 := by decide +kernel
  refine ⟨⟨hshadows, hanswers, hfits⟩, ⟨hsoft, k, hk, c, ws, hselects⟩, fun c ws hresolve => ?_,
    ⟨hregister, hwarn⟩, hwarned pickTied r' text hregister hwarn [pickFree] line⟩
  obtain ⟨k, hselects, hne, -⟩ := hresolved c ws hresolve
  exact ⟨k, hselects, hne⟩

end Registry

end DevConsole
