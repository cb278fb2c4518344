import DevConsole.Console
import DevConsole.Proofs.Choices

/-! # Registering more commands

A line *selects* the command at a place of the registry when that command is a candidate that
fits and no candidate before it does (`Registry.Selects`), which is what resolution finds
(`resolve_eq_selected_iff`).  Commands are registered at the end, behind every place that there
is.  So a command that fits goes on to fit, and a line that had a command keeps one, at the same
place or before (`Selects.exists_le`).

It can be a place before.  A candidate that did not fit may do so later, when one of its
parameters is tied to the names of the commands and there are more of those now.  Where no
earlier candidate has such a parameter, the line keeps its command and its arguments
(`Selects.of_extends`).  No built-in command has one, so a console never takes a line away from
its built-in commands (`registering_keeps_selection`).
-/
namespace DevConsole.Registry

variable {Host Out : Type}

/-! ## Selecting -/

/-- The line selects the command at place `i`: it is a candidate that fits, and no candidate
before it does. -/
structure Selects (r : Registry Host Out) (line : String) (i : Nat) (c : Command Host Out)
    (arguments : List Value) : Prop where
  place : r.commands[i]? = some c
  answers : answers c.signature (normalize line) = true
  fits : c.signature.Fits r.catalogue (tokens line) arguments
  first : ∀ d ∈ r.commands.take i, Registry.answers d.signature (normalize line) = true →
    ∀ vs, ¬ d.signature.Fits r.catalogue (tokens line) vs

/-- A place splits the commands, and with them the candidates. -/
theorem candidates_of_place {r : Registry Host Out} {line : String} {i : Nat}
    {c : Command Host Out} (hplace : r.commands[i]? = some c)
    (hanswers : answers c.signature (normalize line) = true) :
    r.candidates line =
      ((r.commands.take i).filter fun d => answers d.signature (normalize line)) ++
        c :: (r.commands.drop (i + 1)).filter fun d => answers d.signature (normalize line) := by
  obtain ⟨hi, hc⟩ := List.getElem?_eq_some_iff.1 hplace
  have hsplit : r.commands = r.commands.take i ++ c :: r.commands.drop (i + 1) := by
    rw [← hc, ← List.drop_eq_getElem_cons hi, List.take_append_drop]
  calc r.candidates line
      = (r.commands.take i ++ c :: r.commands.drop (i + 1)).filter fun d =>
          answers d.signature (normalize line) := by rw [← hsplit]; rfl
    _ = _ := by rw [List.filter_append, List.filter_cons, if_pos hanswers]

/-- **Resolution finds the command that a line selects.** -/
theorem Selects.resolve {r : Registry Host Out} {line : String} {i : Nat} {c : Command Host Out}
    {arguments : List Value} (h : r.Selects line i c arguments) :
    r.resolve line = .selected c arguments := by
  refine resolve_eq_selected.2 ⟨_, _, candidates_of_place h.place h.answers, ?_, h.fits⟩
  intro d hd
  obtain ⟨hmem, hanswers⟩ := List.mem_filter.1 hd
  exact h.first d hmem hanswers

/-- Where a candidate fits, the line selects a command there or before. -/
theorem exists_selects {r : Registry Host Out} {line : String} {i : Nat} {c : Command Host Out}
    {arguments : List Value} (hplace : r.commands[i]? = some c)
    (hanswers : answers c.signature (normalize line) = true)
    (hfits : c.signature.Fits r.catalogue (tokens line) arguments) :
    ∃ j ≤ i, ∃ d vs, r.Selects line j d vs := by
  -- Of all places before this one where a candidate fits, the least is selected.
  induction i using Nat.strongRecOn generalizing c arguments with
  | ind i ih =>
    by_cases hearlier : ∃ d ∈ r.commands.take i, answers d.signature (normalize line) = true ∧
        ∃ vs, d.signature.Fits r.catalogue (tokens line) vs
    · obtain ⟨d, hd, hdanswers, vs, hdfits⟩ := hearlier
      obtain ⟨j, hj⟩ := List.mem_iff_getElem?.1 hd
      have hji : j < i := by
        have hlt := (List.getElem?_eq_some_iff.1 hj).1
        rw [List.length_take] at hlt
        omega
      rw [List.getElem?_take_of_lt hji] at hj
      obtain ⟨k, hk, hselects⟩ := ih j hji hj hdanswers hdfits
      exact ⟨k, by omega, hselects⟩
    · refine ⟨i, Nat.le_refl i, c, arguments, hplace, hanswers, hfits, fun d hd hd' vs hvs => ?_⟩
      exact hearlier ⟨d, hd, hd', vs, hvs⟩

/-- Resolution finds a command exactly when the line selects it at some place. -/
theorem resolve_eq_selected_iff {r : Registry Host Out} {line : String} {c : Command Host Out}
    {arguments : List Value} :
    r.resolve line = .selected c arguments ↔ ∃ i, r.Selects line i c arguments := by
  constructor
  · intro h
    obtain ⟨earlier, later, hsplit, -, hfits⟩ := resolve_eq_selected.1 h
    have hcandidate : c ∈ r.candidates line := by simp [hsplit]
    obtain ⟨hmem, hanswers⟩ := List.mem_filter.1 hcandidate
    obtain ⟨i, hi⟩ := List.mem_iff_getElem?.1 hmem
    obtain ⟨j, -, d, vs, hselects⟩ := exists_selects hi hanswers hfits
    -- What is selected at the first place is what resolution finds, and that is one command.
    have heq := hselects.resolve.symm.trans h
    cases heq
    exact ⟨j, hselects⟩
  · rintro ⟨i, h⟩
    exact h.resolve

/-! ## More commands at the end -/

/-- The second registry has the commands of the first, and perhaps more of them at the end. -/
def Extends (r r' : Registry Host Out) : Prop := r.commands <+: r'.commands

theorem extends_registerEach (r : Registry Host Out) (more : List (Command Host Out)) :
    r.Extends (r.registerEach more) := by
  unfold Extends
  rw [commands_registerEach]
  exact List.prefix_append _ _

variable {r r' : Registry Host Out} {line : String} {i : Nat} {c : Command Host Out}
  {arguments : List Value}

theorem Extends.place (h : r.Extends r') (hplace : r.commands[i]? = some c) :
    r'.commands[i]? = some c := by
  obtain ⟨more, hmore⟩ := h
  have hi := (List.getElem?_eq_some_iff.1 hplace).1
  rw [← hmore, List.getElem?_append_left hi, hplace]

theorem Extends.take (h : r.Extends r') (hplace : r.commands[i]? = some c) :
    r'.commands.take i = r.commands.take i := by
  obtain ⟨more, hmore⟩ := h
  have hi := (List.getElem?_eq_some_iff.1 hplace).1
  rw [← hmore, List.take_append_of_le_length (Nat.le_of_lt hi)]

theorem Extends.offers (h : r.Extends r') (token : String) (ho : r.catalogue.Offers token) :
    r'.catalogue.Offers token :=
  ho.mono (List.map_subset _ h.subset)

/-- With more commands at the end, a line selects a command at the same place or before. -/
theorem Selects.exists_le (h : r.Selects line i c arguments) (hr : r.Extends r') :
    ∃ j ≤ i, ∃ d vs, r'.Selects line j d vs :=
  exists_selects (hr.place h.place) h.answers (h.fits.mono hr.offers)

/-- With more commands at the end, a line keeps its command and its arguments, unless an earlier
candidate has a parameter that is tied to the names of the commands. -/
theorem Selects.of_extends (h : r.Selects line i c arguments) (hr : r.Extends r')
    (hfree : ∀ d ∈ r.commands.take i, Registry.answers d.signature (normalize line) = true →
      ∀ p ∈ d.signature.parameters, ¬ p.constraint.namesCommand) :
    r'.Selects line i c arguments where
  place := hr.place h.place
  answers := h.answers
  fits := h.fits.mono hr.offers
  first := by
    rw [hr.take h.place]
    intro d hd hanswers vs hfits
    have hbefore : d.signature.Fits r.catalogue (tokens line) vs :=
      (Signature.fits_congr_of_not_tied (hfree d hd hanswers)).1 hfits
    exact h.first d hd hanswers vs hbefore

/-! ## Consoles -/

/-- No built-in command has a parameter that is tied to the names of the commands. -/
theorem not_namesCommand_of_builtin {Host Out : Type} [Sink Out] :
    ∀ d ∈ (Builtin.registry : Registry Host Out).commands, ∀ p ∈ d.signature.parameters,
      ¬ p.constraint.namesCommand := by
  have hall : ((Builtin.registry : Registry Host Out).commands.all fun d =>
      d.signature.parameters.all fun p => decide (¬ p.constraint.namesCommand)) = true :=
    rfl
  intro d hd p hp
  have hd' := List.all_eq_true.1 hall d hd
  exact of_decide_eq_true (List.all_eq_true.1 hd' p hp)

/-- **Registering commands takes no line away from a command that had it.**  The line goes on to
select a command, at the same place or before; and it selects the same one with the same
arguments when no candidate before it has a parameter that is tied to the names of the
commands.  So whatever a host registers, the lines of a new console go on to select the
built-in commands that they selected. -/
theorem registering_keeps_selection :
    (∀ {Host Out : Type} (r : Registry Host Out) (more : List (Command Host Out)) (line : String)
      (i : Nat) (c : Command Host Out) (arguments : List Value), r.Selects line i c arguments →
        (∃ j ≤ i, ∃ d vs, (r.registerEach more).Selects line j d vs ∧
          (r.registerEach more).resolve line = .selected d vs) ∧
        ((∀ d ∈ r.commands.take i, answers d.signature (normalize line) = true →
            ∀ p ∈ d.signature.parameters, p.constraint ≠ .dynamic .commands true) →
          (r.registerEach more).Selects line i c arguments ∧
            (r.registerEach more).resolve line = .selected c arguments)) ∧
    ∀ {Host : Type} (config : Config) (scripts : ScriptDirectory) (host : Host)
      (more : List (Command Host Scrollback)) (line : String) (c : Command Host Scrollback)
      (arguments : List Value),
      let fresh := Console.new config scripts host
      let console := fresh.registerEach more
      fresh.registry.resolve line = .selected c arguments →
        console.registry.resolve line = .selected c arguments ∧
          ∀ i, fresh.registry.Selects line i c arguments →
            console.registry.Selects line i c arguments := by
  refine ⟨?_, ?_⟩
  · intro Host Out r more line i c arguments h
    refine ⟨?_, fun hfree => ?_⟩
    · obtain ⟨j, hj, d, vs, hselects⟩ := h.exists_le (extends_registerEach r more)
      exact ⟨j, hj, d, vs, hselects, hselects.resolve⟩
    · have hselects := h.of_extends (extends_registerEach r more) hfree
      exact ⟨hselects, hselects.resolve⟩
  · intro Host config scripts host more line c arguments fresh console h
    have hextends : fresh.registry.Extends console.registry := by
      rw [Console.registry_registerEach]
      exact extends_registerEach _ _
    have hkeeps : ∀ i, fresh.registry.Selects line i c arguments →
        console.registry.Selects line i c arguments := by
      intro i hi
      refine hi.of_extends hextends fun d hd _ => ?_
      exact not_namesCommand_of_builtin d (List.mem_of_mem_take hd)
    obtain ⟨i, hi⟩ := resolve_eq_selected_iff.1 h
    exact ⟨(hkeeps i hi).resolve, hkeeps⟩

/-- A command that takes the name of a command and no other text. -/
def pickTied : Command Host Out where
  signature :=
    { name := "pick"
      parameters := [{ name := "name", kind := .string, constraint := .dynamic .commands true }] }
  body _ _ := pure none

/-- An overload of it that takes every text. -/
def pickFree : Command Host Out where
  signature := { name := "pick", parameters := [{ name := "text", kind := .string }] }
  body _ arguments := pure arguments.head?

/-- A command without parameters. -/
def extraCommand : Command Host Out where
  signature := { name := "extra" }
  body _ _ := pure none

/-- A command with an empty name, which begins every line. -/
def namelessCommand : Command Host Out where
  signature := { name := "", parameters := [{ name := "text", kind := .string }] }
  body _ _ := pure none

/-- The line `pick extra` selects the free overload while there is no command `extra`, and then
one at its place or before.  With the free overload first it stays, and so does `print hi` in a
console in which a host registers a command with an empty name. -/
theorem registering_keeps_selection_pick :
    let r : Registry Unit Transcript := { commands := [pickTied, pickFree], accepted := by decide }
    let r' : Registry Unit Transcript :=
      { commands := [extraCommand, pickFree], accepted := by decide }
    let fresh : Console Unit := Console.new {} ⟨"", .missing⟩ ()
    let console := fresh.registerEach [namelessCommand, pickTied]
    (r.Selects "pick extra" 1 pickFree [.string "extra"] ∧
      ∃ j ≤ 1, ∃ d vs, (r.registerEach [extraCommand]).Selects "pick extra" j d vs) ∧
    (r'.Selects "pick extra" 1 pickFree [.string "extra"] ∧
      (r'.registerEach [pickTied, namelessCommand]).Selects "pick extra" 1 pickFree
        [.string "extra"]) ∧
    fresh.registry.resolve "print hi" = .selected Builtin.print [.string "hi"] ∧
      console.registry.resolve "print hi" = .selected Builtin.print [.string "hi"] := by
  intro r r' fresh console
  have htied : r.Selects "pick extra" 1 pickFree [.string "extra"] := by
    refine ⟨rfl, by decide +kernel, Signature.bind_eq_bound.1 (by decide +kernel), ?_⟩
    have hrefused : (pickTied : Command Unit Transcript).signature.bind r.catalogue
        (tokens "pick extra") =
        .rejected ⟨⟨"name", .string, .dynamic .commands true⟩, "extra", .notAllowed⟩ := by
      decide +kernel
    intro d hd _ vs hfits
    have heq : d = pickTied := List.mem_singleton.1 hd
    rw [heq, ← Signature.bind_eq_bound, hrefused] at hfits
    cases hfits
  have hfree : ∀ d ∈ r'.commands.take 1, answers d.signature (normalize "pick extra") = false := by
    decide +kernel
  have hselects : r'.Selects "pick extra" 1 pickFree [.string "extra"] := by
    refine ⟨rfl, by decide +kernel, Signature.bind_eq_bound.1 (by decide +kernel), ?_⟩
    intro d hd hanswers
    rw [hfree d hd] at hanswers
    cases hanswers
  have hprint : fresh.registry.Selects "print hi" 2 Builtin.print [.string "hi"] := by
    refine ⟨rfl, by decide +kernel, Signature.bind_eq_bound.1 (by decide +kernel), ?_⟩
    have hno : ∀ d ∈ fresh.registry.commands.take 2,
        answers d.signature (normalize "print hi") = false := by decide +kernel
    intro d hd hanswers
    rw [hno d hd] at hanswers
    cases hanswers
  obtain ⟨hkeeps, hconsole⟩ := registering_keeps_selection
  obtain ⟨j, hj, d, vs, hmoved, -⟩ := (hkeeps r [extraCommand] _ _ _ _ htied).1
  have hstays := (hkeeps r' [pickTied, namelessCommand] _ _ _ _ hselects).2 fun d hd hanswers => by
    rw [hfree d hd] at hanswers
    cases hanswers
  refine ⟨⟨htied, j, hj, d, vs, hmoved⟩, ⟨hselects, hstays.1⟩, hprint.resolve, ?_⟩
  exact (hconsole {} ⟨"", .missing⟩ () [namelessCommand, pickTied] _ _ _ hprint.resolve).1

end DevConsole.Registry
