import DevConsole.Builtin
import DevConsole.Proofs.UpperCase

/-! # Which overload runs

`Registry.execute` tries one candidate after the other, fits tokens to parameters one by one
and stops at the first misfit.  What comes of that can be said without any order of trying.
A command *fits* the tokens of a line when there is one token for each parameter after the
first token and each is coerced to an argument (`Signature.Fits`).  Then a line runs the
first of its candidates that fits, with those arguments, and it is refused when there are no
candidates or none of them fits (`execute_first_fitting`).

The candidates are those of the line itself, although they are looked up by its normalized
form: normalizing twice is normalizing once.
-/
namespace DevConsole

/-- Tokens are coerced to arguments, each by the parameter at its position. -/
structure Coerced (catalogue : Catalogue) (ps : List Parameter) (ts : List String)
    (vs : List Value) : Prop where
  arity : ps.length = ts.length
  count : vs.length = ps.length
  coerced : ∀ (i : Nat) (p : Parameter) (t : String) (v : Value), ps[i]? = some p →
    ts[i]? = some t → vs[i]? = some v → p.coerce catalogue t = .ok v

/-- The tokens after the first are coerced to the arguments, one for each parameter. -/
def Signature.Fits (catalogue : Catalogue) (tokens : List String) (s : Signature)
    (arguments : List Value) : Prop :=
  Coerced catalogue s.parameters tokens.tail arguments

/-! ## Fitting is what binding does -/

theorem coerced_cons_iff {catalogue : Catalogue} {p : Parameter} {ps : List Parameter}
    {t : String} {ts : List String} {v : Value} {vs : List Value} :
    Coerced catalogue (p :: ps) (t :: ts) (v :: vs) ↔
      p.coerce catalogue t = .ok v ∧ Coerced catalogue ps ts vs := by
  constructor
  · intro h
    refine ⟨h.coerced 0 p t v rfl rfl rfl, ?_, ?_, fun i => ?_⟩
    · exact Nat.succ.inj h.arity
    · exact Nat.succ.inj h.count
    · exact h.coerced (i + 1)
  · rintro ⟨hv, h⟩
    refine ⟨congrArg (· + 1) h.arity, congrArg (· + 1) h.count, fun i => ?_⟩
    cases i with
    | zero =>
      rintro q u w ⟨⟩ ⟨⟩ ⟨⟩
      exact hv
    | succ i => exact h.coerced i

theorem Binding.cons_eq_bound {v : Value} {b : Binding} {vs : List Value} :
    b.cons v = .bound vs ↔ ∃ ws, b = .bound ws ∧ vs = v :: ws := by
  cases b <;> simp [cons, eq_comm]

/-- Tokens are bound to the arguments that they are coerced to. -/
theorem Binding.ofTokens_eq_bound {catalogue : Catalogue} {ps : List Parameter}
    {ts : List String} {vs : List Value} :
    ofTokens catalogue ps ts = .bound vs ↔ Coerced catalogue ps ts vs := by
  -- Parameters, tokens and arguments go in step; where one of them ends early, both sides fail.
  induction ps generalizing ts vs with
  | nil =>
    constructor
    · intro h
      cases ts with
      | nil => cases h; exact ⟨rfl, rfl, fun i p t v hp => by simp at hp⟩
      | cons t ts => simp [ofTokens] at h
    · rintro ⟨harity, hcount, -⟩
      rw [List.eq_nil_of_length_eq_zero harity.symm, List.eq_nil_of_length_eq_zero hcount]
      rfl
  | cons p ps ih =>
    cases ts with
    | nil => exact ⟨fun h => by simp [ofTokens] at h, fun h => by have := h.arity; simp at this⟩
    | cons t ts =>
      cases vs with
      | nil =>
        refine ⟨fun h => ?_, fun h => by have := h.count; simp at this⟩
        rw [ofTokens] at h
        cases hc : p.coerce catalogue t <;> simp [hc, cons_eq_bound] at h
      | cons v vs =>
        rw [coerced_cons_iff, ← ih, ofTokens]
        cases hc : p.coerce catalogue t with
        | error e => simp
        | ok w =>
          simp only [cons_eq_bound, List.cons.injEq, Except.ok.injEq]
          exact ⟨fun ⟨ws, hb, hw, hvs⟩ => ⟨hw.symm, hvs ▸ hb⟩,
            fun ⟨hw, hb⟩ => ⟨vs, hb, hw.symm, rfl⟩⟩

/-- **A signature is bound to the arguments with which it fits.** -/
theorem Signature.bind_eq_bound {catalogue : Catalogue} {s : Signature} {tokens : List String}
    {arguments : List Value} :
    s.bind catalogue tokens = .bound arguments ↔ s.Fits catalogue tokens arguments := by
  unfold bind Fits
  split
  · exact Binding.ofTokens_eq_bound
  · rename_i hlen
    exact ⟨fun h => by simp at h, fun h => absurd h.arity.symm hlen⟩

/-- A signature fits with one list of arguments at most. -/
theorem Signature.Fits.unique {catalogue : Catalogue} {s : Signature} {tokens : List String}
    {vs ws : List Value} (hv : s.Fits catalogue tokens vs) (hw : s.Fits catalogue tokens ws) :
    vs = ws := by
  rw [← bind_eq_bound] at hv hw
  rw [hv] at hw
  exact Binding.bound.inj hw

/-! ## The first command that fits -/

namespace Registry

variable {Host Out : Type}

theorem firstBound?_eq_none {catalogue : Catalogue} {tokens : List String}
    {commands : List (Command Host Out)} :
    firstBound? catalogue tokens commands = none ↔
      ∀ c ∈ commands, ∀ vs, ¬ c.signature.Fits catalogue tokens vs := by
  induction commands with
  | nil => simp [firstBound?]
  | cons c cs ih =>
    rw [List.forall_mem_cons, ← ih, firstBound?]
    simp only [← Signature.bind_eq_bound]
    cases c.signature.bind catalogue tokens <;> simp

theorem firstBound?_eq_some {catalogue : Catalogue} {tokens : List String}
    {commands : List (Command Host Out)} {c : Command Host Out} {arguments : List Value} :
    firstBound? catalogue tokens commands = some (c, arguments) ↔
      ∃ earlier later, commands = earlier ++ c :: later ∧
        (∀ d ∈ earlier, ∀ vs, ¬ d.signature.Fits catalogue tokens vs) ∧
        c.signature.Fits catalogue tokens arguments := by
  induction commands with
  | nil => simp [firstBound?]
  | cons d ds ih =>
    unfold firstBound?
    cases hb : d.signature.bind catalogue tokens with
    | bound vs =>
      -- The search ends here, so nothing stands before the command that it finds.
      have hd := Signature.bind_eq_bound.1 hb
      simp only [Option.some.injEq, Prod.mk.injEq]
      constructor
      · rintro ⟨rfl, rfl⟩
        exact ⟨[], ds, rfl, by simp, hd⟩
      · rintro ⟨earlier, later, heq, hno, hfit⟩
        cases earlier with
        | nil =>
          obtain ⟨rfl, -⟩ := List.cons.inj heq
          exact ⟨rfl, hd.unique hfit⟩
        | cons e es =>
          obtain ⟨rfl, -⟩ := List.cons.inj heq
          exact absurd hd (hno d List.mem_cons_self vs)
    | arity | rejected why =>
      -- The search goes on, and what it finds has one more command before it.
      have hd : ∀ vs, ¬ d.signature.Fits catalogue tokens vs := by
        intro vs hvs
        rw [← Signature.bind_eq_bound, hb] at hvs
        contradiction
      simp only [ih]
      constructor
      · rintro ⟨earlier, later, rfl, hno, hfit⟩
        exact ⟨d :: earlier, later, rfl, List.forall_mem_cons.2 ⟨hd, hno⟩, hfit⟩
      · rintro ⟨earlier, later, heq, hno, hfit⟩
        cases earlier with
        | nil =>
          obtain ⟨rfl, -⟩ := List.cons.inj heq
          exact absurd hfit (hd arguments)
        | cons e es =>
          obtain ⟨rfl, rfl⟩ := List.cons.inj heq
          exact ⟨es, later, rfl, (List.forall_mem_cons.1 hno).2, hfit⟩

/-! ## What a line resolves to -/

/-- The candidates of the normalized line are those of the line. -/
theorem candidates_normalize (r : Registry Host Out) (line : String) :
    r.candidates (normalize line) = r.candidates line := by
  simp only [candidates, normalize_normalize]

theorem resolve_of_no_candidates {r : Registry Host Out} {line : String}
    (h : r.candidates line = []) : r.resolve line = .unknown (commandName line) := by
  simp only [resolve, candidates_normalize, h]

/-- A line resolves to the first of its candidates that fits. -/
theorem resolve_eq_selected {r : Registry Host Out} {line : String} {c : Command Host Out}
    {arguments : List Value} :
    r.resolve line = .selected c arguments ↔
      ∃ earlier later, r.candidates line = earlier ++ c :: later ∧
        (∀ d ∈ earlier, ∀ vs, ¬ d.signature.Fits r.catalogue (tokens line) vs) ∧
        c.signature.Fits r.catalogue (tokens line) arguments := by
  rw [← firstBound?_eq_some]
  unfold resolve
  rw [candidates_normalize]
  split
  · rename_i h
    simp [h, firstBound?]
  · split
    · rename_i h
      simp [h]
    · rename_i h
      simp [h]

theorem mem_commands_of_selected {r : Registry Host Out} {line : String} {c : Command Host Out}
    {arguments : List Value} (h : r.resolve line = .selected c arguments) : c ∈ r.commands := by
  obtain ⟨earlier, later, heq, -⟩ := resolve_eq_selected.1 h
  have hmem : c ∈ r.candidates line := by simp [heq]
  exact (List.mem_filter.1 hmem).1

theorem resolve_of_no_fit {r : Registry Host Out} {line : String} (hne : r.candidates line ≠ [])
    (h : ∀ c ∈ r.candidates line, ∀ vs, ¬ c.signature.Fits r.catalogue (tokens line) vs) :
    r.resolve line = .unmatched (commandName line) := by
  unfold resolve
  rw [candidates_normalize]
  split
  · contradiction
  · rw [firstBound?_eq_none.2 h]

/-! ## What executing a line does -/

variable [Sink Out]

theorem execute_of_unknown {r : Registry Host Out} {line name : String}
    (h : r.resolve line = .unknown name) (hc : r.candidates line = [])
    (env : Environment Host Out) :
    r.execute line env = ⟨.error (.commandNotFound name), env, []⟩ := by
  have hno : r.rejections line = [] := by rw [rejections, candidates_normalize, hc, rejectionNotes]
  rw [execute_eq_dispatch, Action.run, perform_dispatch_unknown h, hno]
  rfl

theorem execute_of_unmatched {r : Registry Host Out} {line name : String}
    (h : r.resolve line = .unmatched name) (env : Environment Host Out) :
    r.execute line env =
      ⟨.error (.noMatchingOverload name), env, (r.rejections line).map .noted⟩ := by
  rw [execute_eq_dispatch, Action.run, perform_dispatch_unmatched h, Sink.receiveAll_noted]

/-- A selected command runs once, in the environment as it was, and what comes of it comes of
the line; only notes and the announcement stand before its own events. -/
theorem execute_of_selected {r : Registry Host Out} {line : String} {c : Command Host Out}
    {arguments : List Value} (h : r.resolve line = .selected c arguments)
    (env : Environment Host Out) :
    r.execute line env =
      let o := c.body r.interpreter arguments env
      ⟨o.result, o.env,
        (r.rejections line).map .noted ++ .invoked c.signature arguments env.depth :: o.trace⟩ := by
  rw [execute_eq_dispatch, Action.run, perform_dispatch_selected h, Sink.receiveAll_append,
    Sink.receiveAll_noted]
  rfl

/-- **A line runs the first of its candidates that fits.**  Without candidates it names no
command, and when none of them fits it matches no overload; either way the environment
stays as it was. -/
theorem execute_first_fitting (r : Registry Host Out) (line : String)
    (env : Environment Host Out) :
    let upper := Text.upper (Text.trim line)
    let tokens := Tokens.ofLine (Text.trim line)
    let found := r.commands.filter fun c =>
      decide ((Text.upper c.signature.name).toList <+: upper.toList)
    let word := String.ofList (upper.toList.takeWhile (· ≠ ' '))
    1 ≤ tokens.length ∧ r.candidates line = found ∧ r.candidates upper = found ∧
      (found = [] → r.execute line env = ⟨.error (.commandNotFound word), env, []⟩) ∧
      ((∃ d ∈ found, ∃ vs, d.signature.Fits r.catalogue tokens vs) →
        ∃ earlier c later arguments, found = earlier ++ c :: later ∧
          (∀ d ∈ earlier, ∀ vs, ¬ d.signature.Fits r.catalogue tokens vs) ∧
          c.signature.Fits r.catalogue tokens arguments ∧
          ∃ notes : List Note, r.execute line env =
            let o := c.body r.interpreter arguments env
            ⟨o.result, o.env,
              notes.map .noted ++ .invoked c.signature arguments env.depth :: o.trace⟩) ∧
      (found ≠ [] → (∀ d ∈ found, ∀ vs, ¬ d.signature.Fits r.catalogue tokens vs) →
        ∃ notes : List Note,
          r.execute line env = ⟨.error (.noMatchingOverload word), env, notes.map .noted⟩) := by
  intro upper tokens found word
  have hfound : r.candidates line = found := by
    refine List.filter_congr fun c _ => ?_
    rw [Bool.eq_iff_iff, decide_eq_true_iff]
    exact Text.begins_iff
  have hword : commandName line = word := by
    simp only [commandName, word, bne, decide_not]
    rfl
  refine ⟨?_, hfound, ?_, ?_, ?_, ?_⟩
  · exact List.length_pos_iff.2 (Tokens.ofLine_ne_nil _)
  · rw [← hfound]
    exact candidates_normalize r line
  · -- No command of that name.
    intro hnil
    rw [← hfound] at hnil
    rw [← hword]
    exact execute_of_unknown (resolve_of_no_candidates hnil) hnil env
  · -- The first one that fits.
    rintro ⟨d, hd, vs, hfit⟩
    cases hb : firstBound? r.catalogue tokens found with
    | none => exact absurd hfit (firstBound?_eq_none.1 hb d hd vs)
    | some first =>
      obtain ⟨c, arguments⟩ := first
      obtain ⟨earlier, later, heq, hno, hc⟩ := firstBound?_eq_some.1 hb
      refine ⟨earlier, c, later, arguments, heq, hno, hc, ?_⟩
      refine ⟨r.rejections line, execute_of_selected (resolve_eq_selected.2 ?_) env⟩
      exact ⟨earlier, later, hfound.trans heq, hno, hc⟩
  · -- None that fits.
    intro hne hno
    rw [← hfound] at hne hno
    rw [← hword]
    exact ⟨r.rejections line, execute_of_unmatched (resolve_of_no_fit hne hno) env⟩

/-- Among the built-in commands `print 'a b' red` has a candidate that fits, and `launch` has
no candidate. -/
theorem execute_first_fitting_builtin :
    let r : Registry Unit Transcript := Builtin.registry
    let env : Environment Unit Transcript := { scripts := ⟨"", .missing⟩, host := (), out := {} }
    let line := "print 'a b' red"
    (∃ d ∈ r.candidates line, ∃ vs, d.signature.Fits r.catalogue (tokens line) vs) ∧
      (∃ earlier c later arguments, r.candidates line = earlier ++ c :: later ∧
        (∀ d ∈ earlier, ∀ vs, ¬ d.signature.Fits r.catalogue (tokens line) vs) ∧
        c.signature.Fits r.catalogue (tokens line) arguments ∧
        ∃ notes : List Note, r.execute line env =
          let o := c.body r.interpreter arguments env
          ⟨o.result, o.env,
            notes.map .noted ++ .invoked c.signature arguments env.depth :: o.trace⟩) ∧
      r.candidates "launch" = [] ∧
      r.execute "launch" env = ⟨.error (.commandNotFound "LAUNCH"), env, []⟩ := by
  intro r env line
  obtain ⟨-, hfound, -, -, hselected, -⟩ := execute_first_fitting r line env
  obtain ⟨-, hnone, -, hunknown, -, -⟩ := execute_first_fitting r "launch" env
  let colored : Command Unit Transcript := Builtin.printColored
  have hfit : colored.signature.Fits r.catalogue (tokens line) [.string "a b", .string "red"] :=
    Signature.bind_eq_bound.1 (by decide +kernel)
  have hmem : colored ∈ r.candidates line :=
    List.mem_filter.2 ⟨by simp [r, colored, Builtin.registry, Builtin.all], by decide +kernel⟩
  have hempty : r.candidates "launch" = [] := List.isEmpty_iff.1 (by decide +kernel)
  have hword : String.ofList ((Text.upper (Text.trim "launch")).toList.takeWhile (· ≠ ' ')) =
      "LAUNCH" := by decide +kernel
  refine ⟨⟨_, hmem, _, hfit⟩, ?_, hempty, ?_⟩
  · rw [hfound]
    exact hselected ⟨_, hfound ▸ hmem, _, hfit⟩
  · rw [← hword]
    exact hunknown (hnone ▸ hempty)

end Registry

end DevConsole
