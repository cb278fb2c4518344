import DevConsole.Proofs.NameIdentity
import Mathlib.Data.List.Induction

/-! # The names that are listed

The list of names leaves out a name that differs from an earlier one in ASCII case only.  It is
asked for more than that: a text that has to be the name of a command is compared with the list in
full upper case.  The list can answer, since names that differ in ASCII case have one upper-case
form, and of each group of such names one is kept (`Catalogue.any_distinct`).

Which one is kept, and where, is said by places: the list names the commands at those places where
no earlier command has the name (`Catalogue.IsFirstPlace`), in their order.  It is also what a loop
collects that goes through the commands and looks at no more than the names it has kept
(`Catalogue.distinct_eq_collect`).
-/
namespace DevConsole

theorem Text.sameIgnoringAsciiCase_trans {a b c : String} (hab : sameIgnoringAsciiCase a b = true)
    (hbc : sameIgnoringAsciiCase b c = true) : sameIgnoringAsciiCase a c = true :=
  sameIgnoringAsciiCase_iff.2
    ((sameIgnoringAsciiCase_iff.1 hab).trans (sameIgnoringAsciiCase_iff.1 hbc))

namespace Catalogue

/-- The names that are collected one after the other, without those that differ from a collected
one in ASCII case only. -/
def collect (names : List String) : List String :=
  names.foldl (fun kept name =>
    if kept.any fun earlier => Text.sameIgnoringAsciiCase earlier name then kept
    else kept ++ [name]) []

/-- There is a name at the place, and none before it differs from it in ASCII case only. -/
def IsFirstPlace (names : List String) (i : Nat) : Prop :=
  ∃ name, names[i]? = some name ∧ ∀ j < i, ∀ earlier, names[j]? = some earlier →
    Text.sameIgnoringAsciiCase earlier name = false

/-! ## Every group keeps a name -/

/-- **A name has its like among the names that are kept exactly when it has one among all.** -/
theorem any_distinct (names : List String) (name : String) :
    ((distinct names).any fun kept => Text.sameIgnoringAsciiCase kept name) =
      names.any fun earlier => Text.sameIgnoringAsciiCase earlier name := by
  induction names using List.reverseRecOn with
  | nil => rfl
  | append_singleton names last ih =>
    rw [distinct_concat, List.any_append, List.any_cons, List.any_nil, Bool.or_false]
    cases hany : names.any fun earlier => Text.sameIgnoringAsciiCase earlier last with
    | false =>
      rw [if_neg Bool.false_ne_true, List.any_append, ih, List.any_cons, List.any_nil,
        Bool.or_false]
    | true =>
      -- The last name is left out, and what it is like, the earlier name is like, too.
      rw [if_pos rfl, ih]
      cases hlast : Text.sameIgnoringAsciiCase last name with
      | false => rw [Bool.or_false]
      | true =>
        obtain ⟨earlier, hmem, hsame⟩ := List.any_eq_true.1 hany
        rw [Bool.or_true]
        exact List.any_eq_true.2
          ⟨earlier, hmem, Text.sameIgnoringAsciiCase_trans hsame hlast⟩

/-- Of every name there is one in the list that differs from it in ASCII case only. -/
theorem exists_listed {name : String} {names : List String} (h : name ∈ names) :
    ∃ kept ∈ distinct names, Text.sameIgnoringAsciiCase kept name = true := by
  rw [← List.any_eq_true, any_distinct]
  exact List.any_eq_true.2 ⟨name, h, Text.sameIgnoringAsciiCase_refl name⟩

/-- **Looking at the collected names only is enough.** -/
theorem distinct_eq_collect (names : List String) : distinct names = collect names := by
  induction names using List.reverseRecOn with
  | nil => rfl
  | append_singleton names last ih =>
    rw [distinct_concat, collect, List.foldl_concat, ← collect, ← ih, any_distinct]

/-! ## Places -/

section Places

variable {names : List String} {last : String} {i : Nat}

theorem IsFirstPlace.lt (h : IsFirstPlace names i) : i < names.length := by
  obtain ⟨name, hname, -⟩ := h
  exact (List.getElem?_eq_some_iff.1 hname).1

/-- A further name changes nothing about the places before it. -/
theorem isFirstPlace_concat_of_lt (hi : i < names.length) :
    IsFirstPlace (names ++ [last]) i ↔ IsFirstPlace names i := by
  have hplace : ∀ j ≤ i, (names ++ [last])[j]? = names[j]? := fun j hj =>
    List.getElem?_append_left (Nat.lt_of_le_of_lt hj hi)
  refine exists_congr fun name => ?_
  rw [hplace i (Nat.le_refl i)]
  refine and_congr_right fun _ => forall_congr' fun j => forall_congr' fun hj => ?_
  rw [hplace j (Nat.le_of_lt hj)]

/-- The place of a further name is a first one exactly when no earlier name is like it. -/
theorem isFirstPlace_concat_length : IsFirstPlace (names ++ [last]) names.length ↔
    (names.any fun earlier => Text.sameIgnoringAsciiCase earlier last) = false := by
  rw [List.any_eq_false]
  constructor
  · rintro ⟨name, hname, hnone⟩ earlier hearlier
    rw [List.getElem?_concat_length, Option.some.injEq] at hname
    subst hname
    obtain ⟨j, hj, rfl⟩ := List.getElem_of_mem hearlier
    have hplace : (names ++ [last])[j]? = some names[j] := by
      rw [List.getElem?_append_left hj, List.getElem?_eq_getElem hj]
    exact Bool.eq_false_iff.1 (hnone j hj _ hplace)
  · intro hnone
    refine ⟨last, List.getElem?_concat_length, fun j hj earlier hearlier => ?_⟩
    rw [List.getElem?_append_left hj] at hearlier
    exact Bool.eq_false_iff.2 (hnone earlier (List.mem_of_getElem? hearlier))

end Places

/-- **The names in the list are those at the first places, in their order.** -/
theorem exists_places (names : List String) :
    ∃ places : List Nat, places.Pairwise (· < ·) ∧ (∀ i, i ∈ places ↔ IsFirstPlace names i) ∧
      (distinct names).map some = places.map fun i => names[i]? := by
  induction names using List.reverseRecOn with
  | nil =>
    refine ⟨[], .nil, fun i => iff_of_false List.not_mem_nil fun h => ?_, rfl⟩
    exact absurd h.lt (Nat.not_lt_zero i)
  | append_singleton names last ih =>
    obtain ⟨places, hordered, hplaces, hnames⟩ := ih
    have hbefore : ∀ i ∈ places, i < names.length := fun i hi => ((hplaces i).1 hi).lt
    have hkept : (distinct names).map some = places.map fun i => (names ++ [last])[i]? := by
      rw [hnames]
      exact List.map_congr_left fun i hi => (List.getElem?_append_left (hbefore i hi)).symm
    have hlater : ∀ {i}, IsFirstPlace (names ++ [last]) i → i ≠ names.length →
        i < names.length := by
      intro i hi hne
      have hlt := hi.lt
      rw [List.length_append, List.length_singleton] at hlt
      omega
    rw [distinct_concat]
    cases hany : names.any fun earlier => Text.sameIgnoringAsciiCase earlier last with
    | true =>
      have hlast : ¬ IsFirstPlace (names ++ [last]) names.length := by
        rw [isFirstPlace_concat_length, hany]
        exact Bool.noConfusion
      refine ⟨places, hordered, fun i => ?_, hkept⟩
      rw [hplaces]
      constructor
      · exact fun h => (isFirstPlace_concat_of_lt h.lt).2 h
      · intro h
        have hlt := hlater h fun heq => hlast (heq ▸ h)
        exact (isFirstPlace_concat_of_lt hlt).1 h
    | false =>
      refine ⟨places ++ [names.length], ?_, fun i => ?_, ?_⟩
      · refine List.pairwise_append.2 ⟨hordered, List.pairwise_singleton _ _, ?_⟩
        intro i hi j hj
        rw [List.mem_singleton.1 hj]
        exact hbefore i hi
      · rw [List.mem_append, List.mem_singleton, hplaces]
        constructor
        · rintro (h | rfl)
          · exact (isFirstPlace_concat_of_lt h.lt).2 h
          · exact isFirstPlace_concat_length.2 hany
        · intro h
          by_cases hi : i = names.length
          · exact .inr hi
          · exact .inl ((isFirstPlace_concat_of_lt (hlater h hi)).1 h)
      · rw [if_neg Bool.false_ne_true, List.map_append, List.map_append, hkept, List.map_singleton,
          List.map_singleton, List.getElem?_concat_length]

end Catalogue

namespace Registry

variable {Host Out : Type}

/-- **The list of names loses no command.**  A text that has to be the name of a command is taken
exactly when some command has its upper-case form for the upper-case form of its name, and it is
taken as it is.  The list that decides this has of every registered name one that differs from it
in ASCII case only, holds registered names only, as they were registered, and no two that differ in
ASCII case only.  Its names stand in the order of their first registration: they are those at the
places where no earlier command has the name.  A loop that looks at no more than the names it has
collected comes to the same list. -/
theorem listed_names_lose_none (r : Registry Host Out) :
    let registered := r.commands.map fun c => c.signature.name
    let listed := r.catalogue.choices .commands
    (∀ name token : String,
      let p : Parameter := { name, kind := .string, constraint := .dynamic .commands true }
      ((∃ v, p.coerce r.catalogue token = .ok v) ↔
        ∃ c ∈ r.commands, Text.upper c.signature.name = Text.upper token) ∧
      (p.coerce r.catalogue token = .ok (.string token) ∨
        p.coerce r.catalogue token = .error .notAllowed)) ∧
    (∀ name ∈ registered, ∃ kept ∈ listed, Text.sameIgnoringAsciiCase kept name = true) ∧
    (∀ name ∈ listed, name ∈ registered) ∧
    (listed.Pairwise fun a b => Text.sameIgnoringAsciiCase a b = false) ∧
    (∃ places : List Nat, places.Pairwise (· < ·) ∧
      (∀ i, i ∈ places ↔ Catalogue.IsFirstPlace registered i) ∧
      listed.map some = places.map fun i => registered[i]?) ∧
    listed = Catalogue.collect registered := by
  intro registered listed
  have hlisted : listed = Catalogue.distinct registered := by
    show Catalogue.distinct (r.catalogue.map Signature.name) = _
    rw [catalogue, List.map_map]
    rfl
  refine ⟨fun name token => ?_, fun name hname => ?_, fun name hname => ?_, ?_, ?_, ?_⟩
  · intro p
    have hoffers : r.catalogue.Offers token ↔
        ∃ c ∈ r.commands, Text.upper c.signature.name = Text.upper token := by
      simp [Catalogue.Offers, catalogue]
    have hcoerce : p.coerce r.catalogue token =
        if Coercion.isChoice listed token then .ok (.string token) else .error .notAllowed := rfl
    rw [← hoffers, ← Catalogue.isChoice_names, hcoerce]
    show _ ∧ _
    cases hchoice : Coercion.isChoice listed token with
    | true => exact ⟨iff_of_true ⟨_, rfl⟩ hchoice, .inl rfl⟩
    | false =>
      have hnone : ¬ Coercion.isChoice r.catalogue.names token = true := by
        rw [show Coercion.isChoice r.catalogue.names token = false from hchoice]
        exact Bool.false_ne_true
      refine ⟨iff_of_false ?_ hnone, .inr rfl⟩
      rintro ⟨v, hv⟩
      cases hv
  · rw [hlisted]
    exact Catalogue.exists_listed hname
  · rw [hlisted] at hname
    exact Catalogue.mem_of_mem_distinct hname
  · rw [hlisted]
    exact Catalogue.pairwise_distinct registered
  · rw [hlisted]
    exact Catalogue.exists_places registered
  · rw [hlisted]
    exact Catalogue.distinct_eq_collect registered

/-- Of `Straße`, `STRASSE` and `strasse` the first two are listed, and each of them stands for the
token `strasse`. -/
theorem listed_names_lose_none_sharp_s :
    let r : Registry Unit Transcript :=
      { commands := [idle "Straße", idle "STRASSE", idle "strasse"], accepted := by decide }
    let p : Parameter :=
      { name := "name", kind := .string, constraint := .dynamic .commands true }
    r.catalogue.names = ["Straße", "STRASSE"] ∧
    (∃ v, p.coerce r.catalogue "strasse" = .ok v) ∧
    ("strasse" ∈ r.commands.map (fun c => c.signature.name) ∧
      ∃ kept ∈ r.catalogue.names, Text.sameIgnoringAsciiCase kept "strasse" = true) ∧
    "Straße" ∈ r.commands.map fun c => c.signature.name := by
  intro r p
  obtain ⟨hcoerce, hkept, hregistered, -⟩ := listed_names_lose_none r
  have hnames : r.catalogue.names = ["Straße", "STRASSE"] := by decide +kernel
  have hstrasse : "strasse" ∈ r.commands.map fun c => c.signature.name := by decide
  refine ⟨hnames, (hcoerce "name" "strasse").1.2 ?_, ⟨hstrasse, hkept _ hstrasse⟩, ?_⟩
  · exact ⟨idle "Straße", List.mem_cons_self, by decide +kernel⟩
  · refine hregistered _ ?_
    show "Straße" ∈ r.catalogue.names
    rw [hnames]
    exact List.mem_cons_self

end Registry

end DevConsole
