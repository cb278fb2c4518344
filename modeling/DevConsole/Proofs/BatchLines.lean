import DevConsole.Proofs.ScriptLines

/-! # A batch, line by line

A batch is cut into lines, and some of them run.  Both halves are said here without the functions
that do it.  `Text.Lined` says how a text falls into lines, by what ends each of them, and
`Batch.Entered` says that lines succeed one after the other, each in the environment that the one
before it left.  Where that comes to a line that fails, the batch stops (`Batch.StopsAt`).

Lines succeed or stop, and not both (`Batch.entered_or_stopsAt` and the runs of the two), so a batch
succeeds exactly when its lines do (`Batch.run_eq_ok_iff`), and its failure is that of the first
line that fails, with the number of the line among all lines (`Batch.run_eq_error_iff`).  Nothing is
undone: the environment is the one that the failing line left.

A text that ends at a newline ends a line, so what follows has lines of its own
(`Text.lines_append_newline`).  The batch of both is the one batch and then the other, with the
numbers counted on (`Batch.run_append`).
-/
namespace DevConsole

/-! ## The lines of a text -/

namespace Text

/-- How a text falls into lines.  A newline ends a line, and a carriage return right before it
belongs to that end; what is left after the last newline is a line as it is, unless it is empty. -/
inductive Lined : List Char → List String → Prop
  | nil : Lined [] []
  | last {line : List Char} (hne : line ≠ []) (h : '\n' ∉ line) : Lined line [String.ofList line]
  | newline {line rest : List Char} {lines : List String} (h : '\n' ∉ line)
      (hreturn : line.getLast? ≠ some '\r') (later : Lined rest lines) :
      Lined (line ++ '\n' :: rest) (String.ofList line :: lines)
  | returnNewline {line rest : List Char} {lines : List String} (h : '\n' ∉ line)
      (later : Lined rest lines) :
      Lined (line ++ '\r' :: '\n' :: rest) (String.ofList line :: lines)

section Cutting

variable {α : Type} [DecidableEq α]

theorem cut_append (mark : α) (a b : List α) :
    cut mark (a ++ mark :: b) = cut mark a ++ cut mark b := by
  induction a with
  | nil => simp [cut]
  | cons c cs ih =>
    rw [List.cons_append, cut, cut, ih]
    split
    · rfl
    · cases hcs : cut mark cs with
      | nil => exact absurd hcs (cut_ne_nil mark cs)
      | cons p ps => rfl

theorem cut_of_not_mem {mark : α} {cs : List α} (h : mark ∉ cs) : cut mark cs = [cs] := by
  induction cs with
  | nil => rfl
  | cons c cs ih =>
    rw [List.mem_cons, not_or] at h
    rw [cut, if_neg (Ne.symm h.1), ih h.2]

/-- All runs but the last are lines that a newline ended. -/
theorem linesOfCut_append (carriage : α) (ps : List (List α)) {qs : List (List α)} (hne : qs ≠ []) :
    linesOfCut carriage (ps ++ qs) = ps.map (dropFinal carriage) ++ linesOfCut carriage qs := by
  induction ps with
  | nil => rfl
  | cons p ps ih =>
    obtain ⟨q, rest, hrest⟩ : ∃ q rest, ps ++ qs = q :: rest :=
      List.exists_cons_of_ne_nil (by simp [hne])
    rw [List.map_cons, List.cons_append, List.cons_append, ← ih, hrest, linesOfCut]
    simp

/-- The first newline ends the first line. -/
theorem linesOfCut_cut_append (carriage : α) {mark : α} {line : List α} (h : mark ∉ line)
    (rest : List α) : linesOfCut carriage (cut mark (line ++ mark :: rest)) =
      dropFinal carriage line :: linesOfCut carriage (cut mark rest) := by
  rw [cut_append, cut_of_not_mem h, linesOfCut_append carriage [line] (cut_ne_nil mark rest)]
  rfl

theorem dropFinal_concat (mark : α) (cs : List α) : dropFinal mark (cs ++ [mark]) = cs := by
  simp [dropFinal]

theorem dropFinal_of_ne {mark : α} {cs : List α} (h : cs.getLast? ≠ some mark) :
    dropFinal mark cs = cs := if_neg h

end Cutting

/-- What a newline ends is a line, and what follows has lines of its own. -/
theorem lines_append_newline (a b : String) :
    lines (a ++ "\n" ++ b) = lines (a ++ "\n") ++ lines b := by
  have hboth : (a ++ "\n" ++ b).toList = a.toList ++ '\n' :: b.toList := by simp
  have hfirst : (a ++ "\n").toList = a.toList ++ '\n' :: [] := by simp
  rw [lines, lines, lines, hboth, hfirst, cut_append, cut_append,
    linesOfCut_append _ _ (cut_ne_nil _ _), linesOfCut_append _ _ (cut_ne_nil _ _),
    ← List.map_append]
  simp [linesOfCut]

theorem Lined.eq_lines {cs : List Char} {ls : List String} (h : Lined cs ls) :
    ls = (linesOfCut '\r' (cut '\n' cs)).map String.ofList := by
  induction h with
  | nil => rfl
  | last hne h =>
    rw [cut_of_not_mem h, linesOfCut, if_neg (by simpa using hne)]
    rfl
  | newline h hreturn _ ih =>
    rw [linesOfCut_cut_append _ h, dropFinal_of_ne hreturn, List.map_cons, ← ih]
  | @returnNewline line rest _ h _ ih =>
    have hmem : '\n' ∉ line ++ ['\r'] := by simp [h]
    have hline : line ++ '\r' :: '\n' :: rest = (line ++ ['\r']) ++ '\n' :: rest := by simp
    rw [hline, linesOfCut_cut_append _ hmem, dropFinal_concat, List.map_cons, ← ih]

/-- Every text falls into lines, of which the first newline ends the first. -/
theorem exists_lined (cs : List Char) : ∃ ls, Lined cs ls := by
  induction hn : cs.length using Nat.strongRecOn generalizing cs with
  | ind n ih =>
    by_cases hmem : '\n' ∈ cs
    · obtain ⟨line, rest, rfl, hline⟩ := List.eq_append_cons_of_mem hmem
      obtain ⟨ls, hrest⟩ := ih rest.length (by simp [← hn]; omega) rest rfl
      by_cases hreturn : line.getLast? = some '\r'
      · obtain ⟨before, rfl⟩ := List.getLast?_eq_some_iff.1 hreturn
        have hbefore : '\n' ∉ before := fun hin => hline (List.mem_append_left _ hin)
        rw [List.append_assoc]
        exact ⟨_, .returnNewline hbefore hrest⟩
      · exact ⟨_, .newline hline hreturn hrest⟩
    · by_cases hne : cs = []
      · subst hne
        exact ⟨_, .nil⟩
      · exact ⟨_, .last hne hmem⟩

/-- **A text falls into its lines, and into no others.** -/
theorem lined_iff {s : String} {ls : List String} : Lined s.toList ls ↔ ls = lines s := by
  constructor
  · exact Lined.eq_lines
  · rintro rfl
    obtain ⟨ls, h⟩ := exists_lined s.toList
    have hlines : lines s = ls := h.eq_lines.symm
    rwa [hlines]

/-- A return belongs to the end of a line only before a newline. -/
example : lines "a\rb\r\n\n// c\r\nd\r" = ["a\rb", "", "// c", "d\r"] := by decide

end Text

variable {Host Out α β : Type}

/-! ## Failures later in a text -/

/-- The failure where so many lines stand before the batch. -/
def Failure.later (count : Nat) : Failure → Failure
  | batch number e => batch (number + count) e
  | e => e

namespace Action

theorem mapFailure_mapFailure (f g : Failure → Failure) (x : Action Host Out α) :
    (x.mapFailure g).mapFailure f = x.mapFailure (f ∘ g) := by
  refine ext_perform fun s => ?_
  have hresult : ((x.perform s).result.mapError g).mapError f =
      (x.perform s).result.mapError (f ∘ g) := by
    cases (x.perform s).result <;> rfl
  rw [perform_mapFailure, perform_mapFailure, perform_mapFailure, hresult]

theorem mapFailure_bind (f : Failure → Failure) (x : Action Host Out α)
    (g : α → Action Host Out β) :
    (x >>= g).mapFailure f = x.mapFailure f >>= fun a => (g a).mapFailure f := by
  refine ext_perform fun s => ?_
  cases h : (x.perform s).result with
  | error e =>
    have hmapped : ((x.mapFailure f).perform s).result = .error (f e) :=
      congrArg (Except.mapError f) h
    rw [perform_mapFailure, perform_bind_error h, perform_bind_error hmapped]
    rfl
  | ok a =>
    have hmapped : ((x.mapFailure f).perform s).result = .ok a := congrArg (Except.mapError f) h
    rw [perform_mapFailure, perform_bind_ok h, perform_bind_ok hmapped]
    rfl

end Action

namespace Batch

/-! ## The lines that are executed -/

/-- The line is not executed: without its outer blanks nothing is left of it, or it begins
with `//`. -/
def IsSkipped (raw : String) : Prop := Text.trim raw = "" ∨ "//".toList <+: (Text.trim raw).toList

theorem isComment_trim_iff {raw : String} : isComment (Text.trim raw) = true ↔ IsSkipped raw := by
  rw [isComment, Bool.or_eq_true, String.isEmpty_iff, Text.begins_iff, IsSkipped]

/-- The lines that are executed among lines with so many before them, with their numbers. -/
def effectiveAfter (count : Nat) (lines : List String) : List (Nat × String) :=
  (lines.mapIdx fun i line => (i + count + 1, Text.trim line)).filter fun l => !isComment l.2

theorem effective_eq (source : String) :
    effective source = effectiveAfter 0 (Text.lines source) := rfl

theorem effectiveAfter_cons (count : Nat) (raw : String) (rest : List String) :
    effectiveAfter count (raw :: rest) =
      if isComment (Text.trim raw) then effectiveAfter (count + 1) rest
      else (count + 1, Text.trim raw) :: effectiveAfter (count + 1) rest := by
  rw [effectiveAfter, List.mapIdx_cons, List.filter_cons, Nat.zero_add]
  simp only [Nat.add_right_comm _ 1, Bool.not_eq_true']
  cases isComment (Text.trim raw) <;> rfl

theorem effectiveAfter_of_skipped {raw : String} (h : IsSkipped raw) (count : Nat)
    (rest : List String) :
    effectiveAfter count (raw :: rest) = effectiveAfter (count + 1) rest := by
  rw [effectiveAfter_cons, if_pos (isComment_trim_iff.2 h)]

theorem effectiveAfter_of_not_skipped {raw : String} (h : ¬ IsSkipped raw) (count : Nat)
    (rest : List String) :
    effectiveAfter count (raw :: rest) =
      (count + 1, Text.trim raw) :: effectiveAfter (count + 1) rest := by
  rw [effectiveAfter_cons, if_neg fun hcomment => h (isComment_trim_iff.1 hcomment)]

theorem effectiveAfter_append (count : Nat) (before later : List String) :
    effectiveAfter count (before ++ later) =
      effectiveAfter count before ++ effectiveAfter (before.length + count) later := by
  simp only [effectiveAfter, List.mapIdx_append, List.filter_append, Nat.add_assoc]

/-! ## One batch and then another -/

section Appending

variable {execute : String → Action Host Out (Option Value)}

theorem runLines_append (before later : List (Nat × String)) :
    runLines execute (before ++ later) =
      runLines execute before >>= fun _ => runLines execute later := by
  induction before with
  | nil => exact (pure_bind () fun _ => runLines execute later).symm
  | cons numbered before ih =>
    rw [List.cons_append, runLines, runLines, ih, bind_assoc]

/-- Lines that stand before a batch change the number in its failure, and nothing else. -/
theorem runLines_effectiveAfter (count more : Nat) (lines : List String) :
    runLines execute (effectiveAfter (count + more) lines) =
      (runLines execute (effectiveAfter count lines)).mapFailure (Failure.later more) := by
  induction lines generalizing count with
  | nil => rfl
  | cons raw rest ih =>
    have hrest := ih (count + 1)
    rw [Nat.add_right_comm] at hrest
    by_cases h : IsSkipped raw
    · rw [effectiveAfter_of_skipped h, effectiveAfter_of_skipped h, hrest]
    · have hnumber : Failure.later more ∘ Failure.batch (count + 1) =
          Failure.batch (count + more + 1) := by
        funext e
        exact congrArg (Failure.batch · e) (Nat.add_right_comm count 1 more)
      rw [effectiveAfter_of_not_skipped h, effectiveAfter_of_not_skipped h, runLines, runLines,
        Action.mapFailure_bind, Action.mapFailure_mapFailure, hnumber, hrest]

/-- **What follows a newline is a batch of its own**, which runs if the first one succeeds, and
whose failures are counted from the lines of the first. -/
theorem run_append (a b : String) :
    run execute (a ++ "\n" ++ b) = run execute (a ++ "\n") >>= fun _ =>
      (run execute b).mapFailure (Failure.later (Text.lines (a ++ "\n")).length) := by
  rw [run, run, run, effective_eq, effective_eq, effective_eq, Text.lines_append_newline,
    effectiveAfter_append, runLines_append, Nat.add_comm, runLines_effectiveAfter]

end Appending

/-! ## Where a batch stops -/

section Stopping

variable [Sink Out] (execute : String → Action Host Out (Option Value))

/-- The lines succeed, one after the other: those that are skipped leave the environment alone,
and each of the others, without its outer blanks, starts in the one that was left before it and
adds its events to the trace. -/
inductive Entered : List String → Environment Host Out → Environment Host Out → List Event → Prop
  | nil {env : Environment Host Out} : Entered [] env env []
  | skipped {raw : String} {rest : List String} {env after : Environment Host Out}
      {trace : List Event} (h : IsSkipped raw) (later : Entered rest env after trace) :
      Entered (raw :: rest) env after trace
  | command {raw : String} {rest : List String} {env mid after : Environment Host Out}
      {v : Option Value} {first trace : List Event} (h : ¬ IsSkipped raw)
      (ok : execute (Text.trim raw) env = ⟨.ok v, mid, first⟩)
      (later : Entered rest mid after trace) :
      Entered (raw :: rest) env after (first ++ trace)

/-- The line of a number, counted from one, is the first that fails: the lines before it succeed,
and it fails in the environment that they left.  The lines after it do not matter. -/
inductive StopsAt : List String → Environment Host Out → Nat → Failure →
    Environment Host Out → List Event → Prop
  | intro {before rest : List String} {raw : String} {env mid after : Environment Host Out}
      {e : Failure} {trace last : List Event} (entered : Entered execute before env mid trace)
      (h : ¬ IsSkipped raw) (error : execute (Text.trim raw) mid = ⟨.error e, after, last⟩) :
      StopsAt (before ++ raw :: rest) env (before.length + 1) e after (trace ++ last)

variable {execute} {lines : List String} {env after : Environment Host Out} {trace : List Event}

theorem Entered.runLines (h : Entered execute lines env after trace) (count : Nat) :
    runLines execute (effectiveAfter count lines) env = ⟨.ok (), after, trace⟩ := by
  induction h generalizing count with
  | nil => rfl
  | skipped h _ ih =>
    rw [effectiveAfter_of_skipped h]
    exact ih _
  | command h ok _ ih =>
    rw [effectiveAfter_of_not_skipped h, runLines_of_ok (congrArg Outcome.result ok), ok, ih]

theorem StopsAt.runLines {number : Nat} {e : Failure}
    (h : StopsAt execute lines env number e after trace) :
    Batch.runLines execute (effectiveAfter 0 lines) env =
      ⟨.error (.batch number e), after, trace⟩ := by
  cases h with
  | intro entered h error =>
    have hbefore := entered.runLines 0
    rw [effectiveAfter_append, runLines_append,
      Action.run_bind_ok (congrArg Outcome.result hbefore), hbefore,
      effectiveAfter_of_not_skipped h, runLines_of_error (congrArg Outcome.result error), error]

/-- Either all lines succeed or there is a first one that fails. -/
theorem entered_or_stopsAt (execute : String → Action Host Out (Option Value)) (lines : List String)
    (env : Environment Host Out) :
    (∃ after trace, Entered execute lines env after trace) ∨
      ∃ number e after trace, StopsAt execute lines env number e after trace := by
  induction lines generalizing env with
  | nil => exact .inl ⟨env, [], .nil⟩
  | cons raw rest ih =>
    by_cases h : IsSkipped raw
    · obtain ⟨after, trace, hentered⟩ | ⟨number, e, after, trace, hstops⟩ := ih env
      · exact .inl ⟨after, trace, .skipped h hentered⟩
      · cases hstops with
        | intro entered hraw error =>
          exact .inr ⟨_, e, after, _, .intro (.skipped h entered) hraw error⟩
    · cases hfirst : execute (Text.trim raw) env with
      | mk result mid first =>
        cases result with
        | error e => exact .inr ⟨_, e, mid, _, .intro .nil h hfirst⟩
        | ok v =>
          obtain ⟨after, trace, hentered⟩ | ⟨number, e, after, trace, hstops⟩ := ih mid
          · exact .inl ⟨after, _, .command h hfirst hentered⟩
          · cases hstops with
            | intro entered hraw error =>
              exact .inr ⟨_, e, after, _, .intro (.command h hfirst entered) hraw error⟩

/-- **A batch succeeds exactly when its lines do**, one after the other. -/
theorem run_eq_ok_iff {source : String} :
    run execute source env = ⟨.ok (), after, trace⟩ ↔
      Entered execute (Text.lines source) env after trace := by
  refine ⟨fun h => ?_, fun h => h.runLines 0⟩
  obtain ⟨after', trace', hentered⟩ | ⟨number, e, after', trace', hstops⟩ :=
    entered_or_stopsAt execute (Text.lines source) env
  · cases h.symm.trans (hentered.runLines 0)
    exact hentered
  · cases h.symm.trans hstops.runLines

/-- **A batch fails exactly when one of its lines does**, and it stops at the first. -/
theorem run_eq_error_iff {source : String} {failure : Failure} :
    run execute source env = ⟨.error failure, after, trace⟩ ↔
      ∃ number e, failure = .batch number e ∧
        StopsAt execute (Text.lines source) env number e after trace := by
  constructor
  · intro h
    obtain ⟨after', trace', hentered⟩ | ⟨number, e, after', trace', hstops⟩ :=
      entered_or_stopsAt execute (Text.lines source) env
    · cases h.symm.trans (hentered.runLines 0)
    · cases h.symm.trans hstops.runLines
      exact ⟨number, e, rfl, hstops⟩
  · rintro ⟨number, e, rfl, hstops⟩
    exact hstops.runLines

/-- **A batch goes line by line**, whatever executes its lines: the dispatcher of a registry, or
what a script is given in its place.  Newlines end the lines, with or without a carriage return.
The batch succeeds exactly when they do; it fails exactly when one of them is the first to fail,
with its number and its failure, in the environment and with the events that it left.  What follows
a newline runs as a batch of its own if what stands before it succeeds, and the number in its
failure is counted on. -/
theorem run_line_by_line (execute : String → Action Host Out (Option Value)) (source : String) :
    (∀ lines, Text.Lined source.toList lines ↔ lines = Text.lines source) ∧
    (∀ env after trace,
      (run execute source env = ⟨.ok (), after, trace⟩ ↔
        Entered execute (Text.lines source) env after trace) ∧
      ∀ failure, run execute source env = ⟨.error failure, after, trace⟩ ↔
        ∃ number e, failure = .batch number e ∧
          StopsAt execute (Text.lines source) env number e after trace) ∧
    ∀ next, run execute (source ++ "\n" ++ next) = run execute (source ++ "\n") >>= fun _ =>
      (run execute next).mapFailure (Failure.later (Text.lines (source ++ "\n")).length) := by
  refine ⟨fun lines => Text.lined_iff, fun env after trace => ⟨?_, fun failure => ?_⟩,
    fun next => ?_⟩
  · exact run_eq_ok_iff
  · exact run_eq_error_iff
  · exact run_append source next

/-- A comment, an empty line and an indented command, with and without carriage returns, and then a
line that names no command: it is the fourth line that fails, the line after it does not run, and
what was printed stays. -/
theorem run_line_by_line_crlf :
    let execute := (Builtin.registry : Registry Unit Transcript).execute
    let source := "// note\r\n\n  print hi\r"
    let next := "nosuch\nprint no"
    let lines := ["// note", "", "  print hi", "nosuch", "print no"]
    let env : Environment Unit Transcript := { scripts := ⟨"", .missing⟩, host := (), out := {} }
    let printed := run execute (source ++ "\n") env
    Text.Lined (source ++ "\n" ++ next).toList lines ∧
      Entered execute ["// note", "", "  print hi"] env printed.env printed.trace ∧
      printed.env.out.lines = #[⟨"hi", .white⟩] ∧
      StopsAt execute lines env 4 (.commandNotFound "NOSUCH") printed.env printed.trace ∧
      run execute (source ++ "\n" ++ next) env =
        ⟨.error (.batch 4 (.commandNotFound "NOSUCH")), printed.env, printed.trace⟩ ∧
      run execute (source ++ "\n" ++ next) = run execute (source ++ "\n") >>= fun _ =>
        (run execute next).mapFailure (Failure.later 3) := by
  intro execute source next lines env printed
  have hfirst : Text.lines (source ++ "\n") = ["// note", "", "  print hi"] := by decide +kernel
  have hlines : Text.lines (source ++ "\n" ++ next) = lines := by decide +kernel
  obtain ⟨-, hready, -⟩ := run_line_by_line execute (source ++ "\n")
  obtain ⟨hlined, hwhole, -⟩ := run_line_by_line execute (source ++ "\n" ++ next)
  obtain ⟨-, -, hlater⟩ := run_line_by_line execute source
  rw [hfirst] at hready hlater
  rw [hlines] at hlined hwhole
  obtain ⟨hok, hout⟩ : printed.result.toOption = some () ∧
      printed.env.out.lines = #[⟨"hi", .white⟩] := by decide +kernel
  have hprinted : printed = ⟨.ok (), printed.env, printed.trace⟩ := by
    cases hresult : printed.result with
    | error e =>
      rw [hresult] at hok
      cases hok
    | ok u => exact congrArg (Outcome.mk · printed.env printed.trace) hresult
  have hentered := (hready env printed.env printed.trace).1.1 hprinted
  have hnone : (Builtin.registry : Registry Unit Transcript).candidates "nosuch" = [] := by
    rw [← List.isEmpty_iff]
    decide +kernel
  have hunknown : execute "nosuch" printed.env =
      ⟨.error (.commandNotFound "NOSUCH"), printed.env, []⟩ := by
    have hname : Registry.commandName "nosuch" = "NOSUCH" := by decide +kernel
    exact hname ▸ Registry.execute_of_unknown (Registry.resolve_of_no_candidates hnone) hnone _
  have htrim : Text.trim "nosuch" = "nosuch" := by decide +kernel
  have hcommand : ¬ IsSkipped "nosuch" := by
    rw [IsSkipped, htrim]
    decide
  have hstops : StopsAt execute lines env 4 (.commandNotFound "NOSUCH") printed.env
      (printed.trace ++ []) :=
    .intro hentered hcommand (htrim.symm ▸ hunknown)
  rw [List.append_nil] at hstops
  exact ⟨(hlined lines).2 rfl, hentered, hout, hstops,
    ((hwhole env printed.env printed.trace).2 _).2 ⟨4, _, rfl, hstops⟩, hlater next⟩

end Stopping

end Batch

end DevConsole
