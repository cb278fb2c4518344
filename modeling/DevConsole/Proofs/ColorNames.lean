import DevConsole.Proofs.Choices
import DevConsole.Proofs.Kinds

/-! # Colors that a constraint admits and colors that have a name

The second argument of `print` is tied to the names of the colors.  Two tests decide over it: the
constraint compares it with the names in full upper case, and the look-up of the color compares
them in ASCII case.  Every name that the look-up finds is admitted, but not the other way round:
a few characters outside ASCII have ASCII letters as their upper-case form, the long s among
them.  So `ſilver` is admitted and is the name of no color.

All names of colors are ASCII, and for ASCII the two notions of case are one
(`Text.sameIgnoringAsciiCase_of_upper_eq`).  So a token is the name of a color exactly when it is
one of the choices and ASCII (`Color.isSome_ofName?_iff`), and the command fails over its color
exactly when that is not ASCII (`Registry.result_execute_printColored`).
-/
namespace DevConsole

/-! ## ASCII texts -/

namespace Text

/-- All characters are ASCII. -/
def IsAscii (s : String) : Prop := ∀ c ∈ s.toList, c.toNat < 0x80

-- Named, since a search may find the one that goes through all characters that there are.
instance (s : String) : Decidable (IsAscii s) :=
  List.decidableBAll (fun c : Char => c.toNat < 0x80) s.toList

theorem toLower_toUpper {c : Char} (hc : c.toNat < 0x80) : c.toUpper.toLower = c.toLower :=
  of_ascii (P := fun c => c.toUpper.toLower = c.toLower) (by decide) hc

theorem toNat_toLower_lt {c : Char} (hc : c.toNat < 0x80) : c.toLower.toNat < 0x80 :=
  of_ascii (P := fun c => c.toLower.toNat < 0x80) (by decide) hc

/-- A text that differs from an ASCII text in ASCII case only is ASCII. -/
theorem IsAscii.of_same {a b : String} (ha : IsAscii a) (h : sameIgnoringAsciiCase a b = true) :
    IsAscii b := by
  have hlower : a.toList.map Char.toLower = b.toList.map Char.toLower := eq_of_beq h
  intro c hc
  refine Decidable.byContradiction fun hcode => ?_
  -- The character is its own lower case, so it would be that of an ASCII character.
  have hmem : c.toLower ∈ a.toList.map Char.toLower := hlower ▸ List.mem_map_of_mem hc
  obtain ⟨d, hd, hdc⟩ := List.mem_map.1 hmem
  have hascii := toNat_toLower_lt (ha d hd)
  rw [hdc, toLower_eq_self hcode] at hascii
  exact hcode hascii

theorem upperChars_of_ascii {cs : List Char} (h : ∀ c ∈ cs, c.toNat < 0x80) :
    upperChars cs = cs.map Char.toUpper := by
  induction cs with
  | nil => rfl
  | cons c cs ih =>
    obtain ⟨hc, hcs⟩ := List.forall_mem_cons.1 h
    rw [upperChars_cons, ih hcs, upperChar, if_pos hc]
    rfl

/-- The lower case of an ASCII text can be read off its upper-case form. -/
theorem map_toLower_of_ascii {cs : List Char} (h : ∀ c ∈ cs, c.toNat < 0x80) :
    cs.map Char.toLower = (upperChars cs).map Char.toLower := by
  rw [upperChars_of_ascii h, List.map_map]
  refine List.map_congr_left fun c hc => ?_
  exact (toLower_toUpper (h c hc)).symm

/-- **ASCII texts with one upper-case form differ in ASCII case only.** -/
theorem sameIgnoringAsciiCase_of_upper_eq {a b : String} (ha : IsAscii a) (hb : IsAscii b)
    (h : upper a = upper b) : sameIgnoringAsciiCase a b = true := by
  have hlower : a.toList.map Char.toLower = b.toList.map Char.toLower := by
    rw [map_toLower_of_ascii ha, map_toLower_of_ascii hb, upper_eq_upper_iff.1 h]
  exact beq_iff_eq.2 hlower

end Text

/-! ## Names of colors -/

namespace Color

theorem isAscii_of_mem_names : ∀ name ∈ names, Text.IsAscii name := by decide +kernel

theorem isSome_ofName?_iff_exists {token : String} :
    (ofName? token).isSome = true ↔
      ∃ name ∈ names, Text.sameIgnoringAsciiCase name token = true := by
  rw [ofName?, Option.isSome_map, List.find?_isSome]
  constructor
  · rintro ⟨entry, hentry, hsame⟩
    exact ⟨entry.1, List.mem_map_of_mem hentry, hsame⟩
  · rintro ⟨name, hname, hsame⟩
    obtain ⟨entry, hentry, rfl⟩ := List.mem_map.1 hname
    exact ⟨entry, hentry, hsame⟩

/-- **A token is the name of a color exactly when it is one of the choices and ASCII.** -/
theorem isSome_ofName?_iff {token : String} :
    (ofName? token).isSome = true ↔
      Coercion.isChoice names token = true ∧ Text.IsAscii token := by
  rw [isSome_ofName?_iff_exists]
  simp only [Coercion.isChoice, List.any_eq_true, beq_iff_eq]
  constructor
  · rintro ⟨name, hname, hsame⟩
    exact ⟨⟨name, hname, Text.upper_eq_of_sameIgnoringAsciiCase hsame⟩,
      (isAscii_of_mem_names name hname).of_same hsame⟩
  · rintro ⟨⟨name, hname, hup⟩, hascii⟩
    exact ⟨name, hname,
      Text.sameIgnoringAsciiCase_of_upper_eq (isAscii_of_mem_names name hname) hascii hup⟩

end Color

/-! ## Arguments tied to the colors -/

namespace Parameter

variable {catalogue : Catalogue} {p : Parameter} {token : String}

/-- A text tied to the colors is coerced to itself, exactly when it is one of the choices. -/
theorem coerce_colors_eq_ok (hkind : p.kind = .string)
    (hconstraint : p.constraint = .dynamic .colors true) {v : Value} :
    p.coerce catalogue token = .ok v ↔
      Coercion.isChoice Color.names token = true ∧ v = .string token := by
  have hadmits : p.constraint.admits catalogue token = Coercion.isChoice Color.names token := by
    rw [hconstraint]
    rfl
  rw [coerce_string_eq_ok hkind, hadmits]

/-- **A token is the name of a color exactly when it is coerced and ASCII.** -/
theorem namesColor_iff (hkind : p.kind = .string)
    (hconstraint : p.constraint = .dynamic .colors true) :
    (Color.ofName? token).isSome = true ↔
      (∃ v, p.coerce catalogue token = .ok v) ∧ Text.IsAscii token := by
  rw [Color.isSome_ofName?_iff]
  simp only [coerce_colors_eq_ok hkind hconstraint, exists_and_left, exists_eq, and_true]

end Parameter

/-! ## Printing in a color -/

namespace Builtin

variable {Host Out : Type} [Sink Out]

/-- **Printing in a color fits a message and one of the choices.** -/
theorem fits_printColored_iff {catalogue : Catalogue} {tokens : List String}
    {arguments : List Value} :
    (printColored : Command Host Out).signature.Fits catalogue tokens arguments ↔
      ∃ message name, tokens.tail = [message, name] ∧
        arguments = [.string message, .string name] ∧
        Coercion.isChoice Color.names name = true := by
  unfold Signature.Fits
  generalize tokens.tail = ts
  constructor
  · intro h
    have harity : ts.length = 2 := h.arity.symm
    have hcount : arguments.length = 2 := h.count
    match ts, arguments, harity, hcount with
    | [message, name], [v, w], _, _ =>
      obtain ⟨hv, h⟩ := coerced_cons_iff.1 h
      obtain ⟨hw, -⟩ := coerced_cons_iff.1 h
      obtain ⟨hchoice, rfl⟩ := (Parameter.coerce_colors_eq_ok rfl rfl).1 hw
      -- A text that is tied to nothing is coerced to itself.
      cases hv
      exact ⟨message, name, rfl, rfl, hchoice⟩
  · rintro ⟨message, name, rfl, rfl, hchoice⟩
    refine coerced_cons_iff.2 ⟨rfl, coerced_cons_iff.2 ⟨?_, rfl, rfl, ?_⟩⟩
    · exact (Parameter.coerce_colors_eq_ok rfl rfl).2 ⟨hchoice, rfl⟩
    · intro i p t v hp
      cases hp

/-- What comes of printing in a color: a failure over a text that names none. -/
theorem result_printColored (interpreter : Interpreter Host Out) (message name : String)
    (env : Environment Host Out) :
    (printColored.body interpreter [.string message, .string name] env).result =
      if (Color.ofName? name).isSome then .ok none
      else .error (.command (.unknownColor name)) := by
  have hmessage : Arguments.string [.string message, .string name] 0 = .ok message := rfl
  have hname : Arguments.string [.string message, .string name] 1 = .ok name := rfl
  unfold printColored
  dsimp only
  rw [hmessage, hname, Action.ofExcept_ok, Action.ofExcept_ok, pure_bind, pure_bind]
  cases Color.ofName? name <;> rfl

end Builtin

namespace Registry

variable {Host Out : Type} [Sink Out]

/-- **Printing in a color fails over its color exactly when that is not ASCII.** -/
theorem result_execute_printColored {r : Registry Host Out} {line : String}
    {arguments : List Value} (h : r.resolve line = .selected Builtin.printColored arguments) :
    ∃ message name, (tokens line).tail = [message, name] ∧
      arguments = [.string message, .string name] ∧
      ((Color.ofName? name).isSome = true ↔ Text.IsAscii name) ∧
      ∀ env, (r.execute line env).result =
        if Text.IsAscii name then .ok none else .error (.command (.unknownColor name)) := by
  obtain ⟨-, -, -, -, hfits⟩ := resolve_eq_selected.1 h
  obtain ⟨message, name, htokens, harguments, hchoice⟩ := Builtin.fits_printColored_iff.1 hfits
  have hcolor : (Color.ofName? name).isSome = true ↔ Text.IsAscii name := by
    rw [Color.isSome_ofName?_iff]
    exact and_iff_right hchoice
  refine ⟨message, name, htokens, harguments, hcolor, fun env => ?_⟩
  subst harguments
  rw [execute_of_selected h]
  simp only [Builtin.result_printColored, hcolor]

/-- **A bad color matches no overload, or it is one of the choices and the command fails over
it**, when no other candidate takes two arguments. -/
theorem result_execute_of_bad_color {r : Registry Host Out} {line message name : String}
    (htokens : (tokens line).tail = [message, name])
    (hmem : Builtin.printColored ∈ r.candidates line)
    (honly : ∀ c ∈ r.candidates line, c.signature.parameters.length = 2 → c = Builtin.printColored)
    (hbad : Color.ofName? name = none) (env : Environment Host Out) :
    (r.execute line env).result = .error
      (if Coercion.isChoice Color.names name then .command (.unknownColor name)
        else .noMatchingOverload (commandName line)) := by
  -- A candidate that fits takes two arguments, so it prints in a color.
  have hfits : ∀ c ∈ r.candidates line, ∀ vs, c.signature.Fits r.catalogue (tokens line) vs →
      c = Builtin.printColored ∧ Coercion.isChoice Color.names name = true := by
    intro c hc vs hvs
    have htwo : c.signature.parameters.length = 2 := by
      rw [hvs.arity, htokens]
      rfl
    obtain rfl := honly c hc htwo
    obtain ⟨m, n, hmn, -, hchoice⟩ := Builtin.fits_printColored_iff.1 hvs
    rw [htokens] at hmn
    cases hmn
    exact ⟨rfl, hchoice⟩
  by_cases hchoice : Coercion.isChoice Color.names name = true
  · rw [if_pos hchoice]
    have hfit : (Builtin.printColored : Command Host Out).signature.Fits r.catalogue (tokens line)
        [.string message, .string name] :=
      Builtin.fits_printColored_iff.2 ⟨message, name, htokens, rfl, hchoice⟩
    cases hfirst : firstBound? r.catalogue (tokens line) (r.candidates line) with
    | none => exact absurd hfit (firstBound?_eq_none.1 hfirst _ hmem _)
    | some first =>
      obtain ⟨c, vs⟩ := first
      have hsplit := firstBound?_eq_some.1 hfirst
      have hselected := resolve_eq_selected.2 hsplit
      obtain ⟨earlier, later, heq, -, hvs⟩ := hsplit
      obtain ⟨rfl, -⟩ := hfits c (by simp [heq]) vs hvs
      obtain ⟨m, n, hmn, -, hcolor, hresult⟩ := result_execute_printColored hselected
      rw [htokens] at hmn
      cases hmn
      rw [hresult env, if_neg]
      rw [← hcolor, hbad]
      exact Bool.false_ne_true
  · rw [if_neg hchoice, execute_of_unmatched (resolve_of_no_fit ?_ ?_) env]
    · exact List.ne_nil_of_mem hmem
    · intro c hc vs hvs
      exact hchoice (hfits c hc vs hvs).2

/-- **The constraint on colors and the names of colors agree on ASCII, and only there.**  In every
registry a token names a color exactly when a text that is tied to the colors is coerced from it
and it is ASCII.  So a line that prints in a color has a color exactly when that is ASCII, and
fails over it otherwise.  A bad color matches no overload if the constraint does not admit it. -/
theorem colors_agree_on_ascii (r : Registry Host Out) :
    (∀ (p : Parameter) (token : String), p.kind = .string → p.constraint = .dynamic .colors true →
      ((Color.ofName? token).isSome = true ↔
        (∃ v, p.coerce r.catalogue token = .ok v) ∧ Text.IsAscii token)) ∧
    (∀ (line : String) (arguments : List Value),
      r.resolve line = .selected Builtin.printColored arguments →
        ∃ message name, (tokens line).tail = [message, name] ∧
          arguments = [.string message, .string name] ∧
          ((Color.ofName? name).isSome = true ↔ Text.IsAscii name) ∧
          ∀ env, (r.execute line env).result =
            if Text.IsAscii name then .ok none else .error (.command (.unknownColor name))) ∧
    ∀ (line message name : String),
      (tokens line).tail = [message, name] → Builtin.printColored ∈ r.candidates line →
        (∀ c ∈ r.candidates line,
          c.signature.parameters.length = 2 → c = Builtin.printColored) →
        Color.ofName? name = none → ∀ env, (r.execute line env).result = .error
          (if Coercion.isChoice Color.names name then .command (.unknownColor name)
            else .noMatchingOverload (commandName line)) := by
  refine ⟨?_, ?_, ?_⟩
  · intro p token hkind hconstraint
    exact Parameter.namesColor_iff hkind hconstraint
  · intro line arguments h
    exact result_execute_printColored h
  · intro line message name htokens hmem honly hbad env
    exact result_execute_of_bad_color htokens hmem honly hbad env

/-- A line with a message and one of the choices selects printing in a color among the built-in
commands, since no command before it takes two arguments. -/
theorem resolve_printColored {line message name : String}
    (hanswers : answers (Builtin.printColored : Command Unit Transcript).signature
      (normalize line) = true)
    (htokens : (tokens line).tail = [message, name])
    (hchoice : Coercion.isChoice Color.names name = true) :
    (Builtin.registry : Registry Unit Transcript).resolve line =
      .selected Builtin.printColored [.string message, .string name] := by
  have hearlier : ∀ d ∈ (Builtin.all : List (Command Unit Transcript)).take 3,
      d.signature.parameters.length ≠ 2 := by decide
  have hselects : (Builtin.registry : Registry Unit Transcript).Selects line 3
      Builtin.printColored [.string message, .string name] := by
    refine ⟨rfl, hanswers, ?_, ?_⟩
    · exact Builtin.fits_printColored_iff.2 ⟨message, name, htokens, rfl, hchoice⟩
    · intro d hd _ vs hvs
      have harity := hvs.arity
      rw [htokens] at harity
      exact hearlier d hd harity
  exact hselects.resolve

/-- `print hi red` prints in a color among the built-in commands.  In `print hi purpel` the color
is not admitted, and the line matches no overload. -/
theorem colors_agree_on_ascii_red_purpel :
    let r : Registry Unit Transcript := Builtin.registry
    let env : Environment Unit Transcript := { scripts := ⟨"", .missing⟩, host := (), out := {} }
    let p : Parameter := { name := "color", kind := .string, constraint := .dynamic .colors true }
    ((Color.ofName? "red").isSome = true ↔
      (∃ v, p.coerce r.catalogue "red" = .ok v) ∧ Text.IsAscii "red") ∧
    (r.execute "print hi red" env).result = .ok none ∧
    (r.execute "print hi purpel" env).result = .error (.noMatchingOverload "PRINT") := by
  intro r env p
  obtain ⟨hcoerce, hselected, hbad⟩ := colors_agree_on_ascii r
  refine ⟨hcoerce p "red" rfl rfl, ?_, ?_⟩
  · have hresolve : r.resolve "print hi red" =
        .selected Builtin.printColored [.string "hi", .string "red"] :=
      resolve_printColored (by decide +kernel) (by decide +kernel)
        (List.any_eq_true.2 ⟨"Red", by decide +kernel, by decide +kernel⟩)
    obtain ⟨message, name, -, harguments, -, hresult⟩ := hselected _ _ hresolve
    cases harguments
    exact hresult env
  · have hsplit : r.commands = r.commands.take 3 ++ Builtin.printColored :: r.commands.drop 4 := rfl
    have hothers : ∀ c ∈ r.commands.take 3 ++ r.commands.drop 4,
        c.signature.parameters.length = 2 →
          answers c.signature (normalize "print hi purpel") = false := by decide +kernel
    have hmem : Builtin.printColored ∈ r.candidates "print hi purpel" :=
      List.mem_filter.2 ⟨hsplit ▸ List.mem_append_right _ List.mem_cons_self, by decide +kernel⟩
    have hnone : Color.ofName? "purpel" = none := by decide +kernel
    have hresult := hbad "print hi purpel" "hi" "purpel" (by decide +kernel) hmem ?_ hnone env
    · have hchoice : Coercion.isChoice Color.names "purpel" = false := by
        refine Bool.eq_false_iff.2 fun hchoice => ?_
        have hsome := Color.isSome_ofName?_iff.2 ⟨hchoice, by decide⟩
        rw [hnone] at hsome
        cases hsome
      have hword : commandName "print hi purpel" = "PRINT" := by decide +kernel
      rw [hresult, hchoice, hword]
      rfl
    · intro c hc htwo
      obtain ⟨hc, hanswers⟩ := List.mem_filter.1 hc
      rw [hsplit, List.mem_append, List.mem_cons] at hc
      obtain hc | rfl | hc := hc
      · have hno := hothers c (List.mem_append_left _ hc) htwo
        exact absurd hanswers (Bool.eq_false_iff.1 hno)
      · rfl
      · have hno := hothers c (List.mem_append_right _ hc) htwo
        exact absurd hanswers (Bool.eq_false_iff.1 hno)

/-- With a long s `ſilver` is admitted as a color and names none: `print hi ſilver` selects the
command that prints in a color, which fails over it. -/
theorem print_long_s :
    let r : Registry Unit Transcript := Builtin.registry
    let env : Environment Unit Transcript := { scripts := ⟨"", .missing⟩, host := (), out := {} }
    let p : Parameter := { name := "color", kind := .string, constraint := .dynamic .colors true }
    p.coerce r.catalogue "ſilver" = .ok (.string "ſilver") ∧ Color.ofName? "ſilver" = none ∧
      r.resolve "print hi ſilver" =
        .selected Builtin.printColored [.string "hi", .string "ſilver"] ∧
      (r.execute "print hi ſilver" env).result = .error (.command (.unknownColor "ſilver")) := by
  intro r env p
  have hchoice : Coercion.isChoice Color.names "ſilver" = true :=
    List.any_eq_true.2 ⟨"Silver", by decide +kernel, by decide +kernel⟩
  have hnone : Color.ofName? "ſilver" = none := by
    refine Option.not_isSome_iff_eq_none.1 fun hsome => ?_
    exact absurd (Color.isSome_ofName?_iff.1 hsome).2 (by decide)
  have hresolve : r.resolve "print hi ſilver" =
      .selected Builtin.printColored [.string "hi", .string "ſilver"] :=
    resolve_printColored (by decide +kernel) (by decide +kernel) hchoice
  refine ⟨(Parameter.coerce_colors_eq_ok rfl rfl).2 ⟨hchoice, rfl⟩, hnone, hresolve, ?_⟩
  obtain ⟨message, name, -, harguments, -, hresult⟩ := result_execute_printColored hresolve
  cases harguments
  exact hresult env

end Registry

end DevConsole
