import DevConsole.Proofs.Choices
import Mathlib.Data.List.FinRange
import Mathlib.Logic.Equiv.Fin.Rotate

/-! # The order of registration

Commands are tried in the order of their registration, but that order is only ever seen between
the candidates of one line.  Their names all begin the line, so of any two of them one begins the
other: they are *comparable* (`comparable_of_answers`).  A reordering that keeps comparable
commands in their order (`Registry.Reordering`) therefore leaves every line the same list of
candidates (`Reordering.candidates_eq`).  It also leaves the set of names as it was, which is all
that coercion asks of the catalogue, although the list of distinct names may have another order
and other representatives.  So every line resolves to the same (`execute_of_reordering`).
-/
namespace DevConsole

/-! ## Lists that keep the order of some of their members -/

/-- When a rearrangement keeps the order of the members that pass a test, what passes it is the
same list as before. -/
theorem filter_eq_of_rearranged {α : Type} {l l' : List α} (p : α → Bool)
    (place : Fin l.length ≃ Fin l'.length) (same : ∀ i, l'.get (place i) = l.get i)
    (keeps : ∀ i j, i < j → p (l.get i) = true → p (l.get j) = true → place i < place j) :
    l'.filter p = l.filter p := by
  -- The positions of what passes, in either list.
  let passing := (List.finRange l.length).filter (p ∘ l.get)
  let passing' := (List.finRange l'.length).filter (p ∘ l'.get)
  have hfilter : passing.map l.get = l.filter p := by
    rw [← List.filter_map, List.map_get_finRange]
  have hfilter' : passing'.map l'.get = l'.filter p := by
    rw [← List.filter_map, List.map_get_finRange]
  have hmem : ∀ i, i ∈ passing ↔ p (l.get i) = true := fun i => by
    simp only [passing, List.mem_filter, List.mem_finRange, true_and, Function.comp]
  have hmem' : ∀ k, k ∈ passing' ↔ p (l'.get k) = true := fun k => by
    simp only [passing', List.mem_filter, List.mem_finRange, true_and, Function.comp]
  -- Both lists of positions are increasing and have the same members.
  have hsorted : (passing.map place).Pairwise (· < ·) := by
    rw [List.pairwise_map]
    refine List.Pairwise.imp_of_mem ?_ ((List.pairwise_lt_finRange _).filter _)
    intro i j hi hj hij
    exact keeps i j hij ((hmem i).1 hi) ((hmem j).1 hj)
  have hsorted' : passing'.Pairwise (· < ·) := (List.pairwise_lt_finRange _).filter _
  have hperm : (passing.map place).Perm passing' := by
    refine (List.perm_ext_iff_of_nodup ?_ ?_).2 fun k => ?_
    · exact hsorted.imp fun h => ne_of_lt h
    · exact hsorted'.imp fun h => ne_of_lt h
    · rw [List.mem_map, hmem']
      constructor
      · rintro ⟨i, hi, rfl⟩
        rw [same]
        exact (hmem i).1 hi
      · intro hk
        refine ⟨place.symm k, (hmem _).2 ?_, place.apply_symm_apply k⟩
        rw [← same, place.apply_symm_apply]
        exact hk
  have heq : passing.map place = passing' :=
    hperm.eq_of_pairwise (fun i j _ _ hij hji => absurd hij (lt_asymm hji)) hsorted hsorted'
  rw [← hfilter, ← hfilter', ← heq, List.map_map]
  exact List.map_congr_left fun i _ => same i

/-! ## Comparable commands -/

/-- One of the two names begins the other, both in upper case. -/
def Signature.Comparable (s t : Signature) : Prop :=
  Text.begins (Text.upper s.name) (Text.upper t.name) = true ∨
    Text.begins (Text.upper t.name) (Text.upper s.name) = true

instance (s t : Signature) : Decidable (s.Comparable t) :=
  inferInstanceAs (Decidable (_ ∨ _))

namespace Registry

variable {Host Out : Type}

/-- Names that begin the same line are comparable. -/
theorem comparable_of_answers {s t : Signature} {normalized : String}
    (hs : answers s normalized = true) (ht : answers t normalized = true) : s.Comparable t := by
  rw [answers, Text.begins_iff] at hs ht
  rw [Signature.Comparable, Text.begins_iff, Text.begins_iff]
  exact List.prefix_or_prefix_of_prefix hs ht

/-- The commands of the one registry at other places in the other.  Of two comparable commands
the one that was registered first still is. -/
structure Reordering (r r' : Registry Host Out) where
  /-- The place in the other registry. -/
  place : Fin r.commands.length ≃ Fin r'.commands.length
  same : ∀ i, r'.commands.get (place i) = r.commands.get i
  keeps : ∀ i j, i < j →
    (r.commands.get i).signature.Comparable (r.commands.get j).signature → place i < place j

namespace Reordering

variable {r r' : Registry Host Out}

/-- **Every line has the same candidates in the same order.** -/
theorem candidates_eq (o : r.Reordering r') (line : String) :
    r'.candidates line = r.candidates line :=
  filter_eq_of_rearranged _ o.place o.same fun i j hij hi hj =>
    o.keeps i j hij (comparable_of_answers hi hj)

theorem mem_commands_iff (o : r.Reordering r') (c : Command Host Out) :
    c ∈ r.commands ↔ c ∈ r'.commands := by
  constructor
  · intro hc
    obtain ⟨i, rfl⟩ := List.get_of_mem hc
    rw [← o.same]
    exact List.get_mem _ _
  · intro hc
    obtain ⟨k, rfl⟩ := List.get_of_mem hc
    obtain ⟨i, rfl⟩ := o.place.surjective k
    rw [o.same]
    exact List.get_mem _ _

theorem offers_iff (o : r.Reordering r') (token : String) :
    r.catalogue.Offers token ↔ r'.catalogue.Offers token := by
  have hsub : r.catalogue ⊆ r'.catalogue := List.map_subset _ fun c => (o.mem_commands_iff c).1
  have hsub' : r'.catalogue ⊆ r.catalogue := List.map_subset _ fun c => (o.mem_commands_iff c).2
  exact ⟨fun h => h.mono hsub, fun h => h.mono hsub'⟩

end Reordering

theorem firstBound?_congr {c c' : Catalogue} (h : ∀ token, c.Offers token ↔ c'.Offers token)
    (tokens : List String) (commands : List (Command Host Out)) :
    firstBound? c tokens commands = firstBound? c' tokens commands := by
  induction commands with
  | nil => rfl
  | cons d ds ih => rw [firstBound?, firstBound?, Signature.bind_congr h, ih]

theorem rejectionNotes_congr {c c' : Catalogue} (h : ∀ token, c.Offers token ↔ c'.Offers token)
    (tokens : List String) (commands : List (Command Host Out)) :
    rejectionNotes c tokens commands = rejectionNotes c' tokens commands := by
  induction commands with
  | nil => rfl
  | cons d ds ih => rw [rejectionNotes, rejectionNotes, Signature.bind_congr h, ih]

theorem Reordering.resolve_eq {r r' : Registry Host Out} (o : r.Reordering r') (line : String) :
    r'.resolve line = r.resolve line := by
  unfold resolve
  simp only [o.candidates_eq, firstBound?_congr o.offers_iff]

theorem Reordering.rejections_eq {r r' : Registry Host Out} (o : r.Reordering r')
    (line : String) : r'.rejections line = r.rejections line := by
  rw [rejections, rejections, o.candidates_eq, rejectionNotes_congr o.offers_iff]

/-! ## Executing lines -/

variable [Sink Out]

/-- What comes of a command that runs in an environment after some events. -/
def invocation (r : Registry Host Out) (c : Command Host Out) (arguments : List Value)
    (env : Environment Host Out) (before : List Event) : Outcome Host Out (Option Value) :=
  let o := c.body r.interpreter arguments env
  ⟨o.result, o.env, before ++ .invoked c.signature arguments env.depth :: o.trace⟩

/-- **The order of registration matters only between comparable commands.**  Where comparable
commands keep their order, every line resolves to the same in both registries: the same command
runs with the same arguments, or both refuse the line with the same failure and leave the
environment as it was. -/
theorem execute_of_reordering {r r' : Registry Host Out} (o : r.Reordering r') (line : String)
    (env : Environment Host Out) :
    r'.resolve line = r.resolve line ∧
      ((∃ c arguments before, r.resolve line = .selected c arguments ∧
          r.execute line env = r.invocation c arguments env before ∧
          r'.execute line env = r'.invocation c arguments env before) ∨
        ∃ e trace, (e = .commandNotFound (commandName line) ∨
            e = .noMatchingOverload (commandName line)) ∧
          r.execute line env = ⟨.error e, env, trace⟩ ∧
          r'.execute line env = ⟨.error e, env, trace⟩) := by
  have hresolve := o.resolve_eq line
  have hcandidates := o.candidates_eq line
  have hrejections := o.rejections_eq line
  refine ⟨hresolve, ?_⟩
  by_cases hnil : r.candidates line = []
  · -- No command of that name.
    have hr := resolve_of_no_candidates hnil
    refine Or.inr ⟨.commandNotFound (commandName line), [], Or.inl rfl, ?_, ?_⟩
    · exact execute_of_unknown hr hnil env
    · exact execute_of_unknown (hresolve.trans hr) (hcandidates.trans hnil) env
  · cases hb : firstBound? r.catalogue (tokens line) (r.candidates line) with
    | none =>
      -- None that fits.
      have hr := resolve_of_no_fit hnil (firstBound?_eq_none.1 hb)
      refine Or.inr ⟨.noMatchingOverload (commandName line), (r.rejections line).map .noted,
        Or.inr rfl, execute_of_unmatched hr env, ?_⟩
      rw [← hrejections]
      exact execute_of_unmatched (hresolve.trans hr) env
    | some found =>
      -- The first one that fits.
      obtain ⟨c, arguments⟩ := found
      have hr : r.resolve line = .selected c arguments :=
        resolve_eq_selected.2 (firstBound?_eq_some.1 hb)
      refine Or.inl ⟨c, arguments, (r.rejections line).map .noted, hr,
        execute_of_selected hr env, ?_⟩
      rw [← hrejections]
      exact execute_of_selected (hresolve.trans hr) env

/-- A command with a short name that takes a text. -/
def heCommand : Command Unit Transcript where
  signature := { name := "he", parameters := [{ name := "text", kind := .string }] }
  body _ arguments := pure arguments.head?

/-- A command whose name begins with that of the other, and whose text is tied to the names of
the commands. -/
def helpCommand : Command Unit Transcript where
  signature :=
    { name := "HELP"
      parameters := [{ name := "name", kind := .string, constraint := .dynamic .commands true }] }
  body _ _ := pure none

/-- A command whose name is comparable with neither. -/
def quitCommand : Command Unit Transcript where
  signature := { name := "quit" }
  body _ _ := pure none

/-- The commands with the short and the long name, and one that may stand after or before both. -/
def quitLast : Registry Unit Transcript :=
  { commands := [heCommand, helpCommand, quitCommand], accepted := by decide }

/-- The same commands with the last one at the beginning. -/
def quitFirst : Registry Unit Transcript :=
  { commands := [quitCommand, heCommand, helpCommand], accepted := by decide }

/-- Every command goes one place on, and the last one to the beginning. -/
def quitToFront : quitLast.Reordering quitFirst where
  place := finRotate 3
  same
    | ⟨0, _⟩ | ⟨1, _⟩ | ⟨2, _⟩ => rfl
  keeps := by
    have h : ∀ i j : Fin 3, i < j →
        (quitLast.commands.get i).signature.Comparable (quitLast.commands.get j).signature →
        finRotate 3 i < finRotate 3 j := by decide +kernel
    exact h

/-- The short name keeps the line `help quit` from the long one in either order, and `launch` is
refused alike in both. -/
theorem execute_of_reordering_help :
    let env : Environment Unit Transcript := { scripts := ⟨"", .missing⟩, host := (), out := {} }
    quitFirst.resolve "help quit" = quitLast.resolve "help quit" ∧
      quitLast.resolve "help quit" = .selected heCommand [.string "quit"] ∧
      quitFirst.execute "launch" env = quitLast.execute "launch" env ∧
      quitLast.resolve "launch" = .unknown "LAUNCH" := by
  intro env
  have hhelp : quitLast.resolve "help quit" = .selected heCommand [.string "quit"] := by
    refine resolve_eq_selected.2 ⟨[], [helpCommand], rfl, by simp, ?_⟩
    exact Signature.bind_eq_bound.1 (by decide +kernel)
  have hlaunch : quitLast.resolve "launch" = .unknown "LAUNCH" := by
    have hword : commandName "launch" = "LAUNCH" := by decide +kernel
    rw [← hword]
    exact resolve_of_no_candidates (List.isEmpty_iff.1 (by decide +kernel))
  refine ⟨(execute_of_reordering quitToFront "help quit" env).1, hhelp, ?_, hlaunch⟩
  obtain ⟨c, arguments, before, hr, -⟩ | ⟨e, trace, -, hlast, hfirst⟩ :=
    (execute_of_reordering quitToFront "launch" env).2
  · rw [hlaunch] at hr
    cases hr
  · rw [hfirst, hlast]

end Registry

end DevConsole
