import DevConsole.Proofs.QuotedArguments
import DevConsole.Proofs.Rising

/-! # A script and the lines in it

Instead of running a script, its lines can be entered one after the other
(`Registry.enterAll`).  Where the script succeeds, all its lines succeeded in it, so they rise to
what they do where they are entered, and that leaves the same environment
(`Registry.script_as_entered`).  Where it fails there is no such rule: a line that is refused
inside a script because it would run one script too many may succeed outside.

The line that asks for the script begins with `exec`, and the name of the script is its one
argument (`Registry.CallsScript`).  No command of the host takes such a line, since the built-in
commands were registered before (`Registry.CallsScript.resolve`).
-/
namespace DevConsole

variable {Host Out α β : Type}

/-! ## Lines entered one after the other -/

/-- The lines of a text that are executed, without their outer blanks. -/
def Batch.commandLines (source : String) : List String :=
  ((Text.lines source).map Text.trim).filter fun line => !isComment line

theorem Batch.map_snd_effective (source : String) :
    (effective source).map Prod.snd = commandLines source := by
  have hnumbered : (numbered source).map Prod.snd = (Text.lines source).map Text.trim := by
    refine List.ext_getElem? fun i => ?_
    simp only [numbered, List.getElem?_map, List.getElem?_mapIdx, Option.map_map]
    rfl
  rw [commandLines, ← hnumbered, List.filter_map]
  rfl

namespace Action

variable [Sink Out] {x : Action Host Out α} {f : α → Action Host Out β} {env : Environment Host Out}

theorem run_bind_ok {a : α} (h : (x env).result = .ok a) :
    (x >>= f) env =
      let second := f a (x env).env
      ⟨second.result, second.env, (x env).trace ++ second.trace⟩ := by
  rw [run, perform_bind_ok h, Sink.receiveAll_append]
  rfl

theorem run_bind_error {e : Failure} (h : (x env).result = .error e) :
    (x >>= f) env = ⟨.error e, (x env).env, (x env).trace⟩ := by
  rw [run, perform_bind_error h]
  rfl

omit [Sink Out] in
/-- An action whose value is dropped for a fixed one. -/
theorem perform_bind_const (x : Action Host Out α) (b : β) (s : Surroundings Host) :
    (x >>= fun _ => pure b).perform s =
      ⟨(x.perform s).result.map fun _ => b, (x.perform s).after, (x.perform s).trace⟩ := by
  rcases result_cases x s with ⟨e, he⟩ | ⟨a, ha⟩
  · rw [perform_bind_error he, he]
    rfl
  · rw [perform_bind_ok ha, ha, perform_pure]
    dsimp only
    rw [List.append_nil]
    rfl

/-- An action that succeeds in a script does in the environment what the one does that it rises
to, but for the depth. -/
theorem RisesTo.run {y : Action Host Out α} (h : x.RisesTo y) {v : α}
    (hv : (x { env with depth := env.depth + 1 }).result = .ok v) :
    (y env).result = .ok v ∧ (y env).env.depth = env.depth ∧
      (x { env with depth := env.depth + 1 }).env = { (y env).env with depth := env.depth + 1 } ∧
      (x { env with depth := env.depth + 1 }).notes = (y env).notes := by
  have hmatches := h env.toSurroundings v hv
  refine ⟨hmatches.result.symm.trans hv, hmatches.depth, ?_, hmatches.notes_eq⟩
  have hinner : (x { env with depth := env.depth + 1 }).env =
      { (x.perform env.inScript).after with
        out := Sink.receiveAll env.out (x.perform env.inScript).trace } := rfl
  rw [hinner, hmatches.after, hmatches.receiveAll_eq, Surroundings.inScript, hmatches.depth]
  rfl

end Action

namespace Batch

variable [Sink Out] {execute : String → Action Host Out (Option Value)} {number : Nat}
  {line : String} {rest : List (Nat × String)} {env : Environment Host Out}

/-- After a line that succeeds, the others run in the environment that it left. -/
theorem runLines_of_ok {v : Option Value} (h : (execute line env).result = .ok v) :
    runLines execute ((number, line) :: rest) env =
      let later := runLines execute rest (execute line env).env
      ⟨later.result, later.env, (execute line env).trace ++ later.trace⟩ := by
  have hnumber : ((execute line).mapFailure (.batch number) env).result = .ok v :=
    congrArg (Except.mapError _) h
  exact Action.run_bind_ok hnumber

/-- A line that fails is the last one. -/
theorem runLines_of_error {e : Failure} (h : (execute line env).result = .error e) :
    runLines execute ((number, line) :: rest) env =
      ⟨.error (.batch number e), (execute line env).env, (execute line env).trace⟩ := by
  have hnumber :
      ((execute line).mapFailure (.batch number) env).result = .error (.batch number e) :=
    congrArg (Except.mapError _) h
  exact Action.run_bind_error hnumber

end Batch

theorem Tokens.escape_of_no_newline {cs : List Char} (h : '\n' ∉ cs) : escape cs = cs := by
  induction cs with
  | nil => rfl
  | cons c cs ih =>
    rw [List.mem_cons, not_or] at h
    rw [escape_cons (Ne.symm h.1), ih h.2]

/-- A word stands for itself. -/
theorem Tokens.clean_word {word : String} (h : IsWord word) (hword : Writable word) :
    clean word.toList = word.toList := by
  have hstart : Text.trimStart word.toList = word.toList :=
    Text.trimStart_eq_self fun c hc => h.no_blank c (List.mem_of_mem_head? hc)
  have hquotes : word.toList.filter (fun c => !isQuote c) = word.toList :=
    List.filter_eq_self.2 fun c hc => by simp [h.no_quote c hc]
  have hescape : escape word.toList = word.toList := by
    refine escape_of_no_newline fun hin => ?_
    exact absurd (h.no_blank '\n' hin) (by decide)
  calc clean word.toList = unescape word.toList := by rw [clean, hstart, hquotes]
    _ = unescape (escape word.toList) := by rw [hescape]
    _ = word.toList := unescape_escape hword.no_escape

namespace Registry

variable [Sink Out]

/-- Enters lines one after the other, each in the environment that the one before it left.  Gives
what came of each, and the environment in the end. -/
def enterAll (r : Registry Host Out) :
    List String → Environment Host Out → List (Except Failure (Option Value)) × Environment Host Out
  | [], env => ([], env)
  | line :: rest, env =>
    let o := r.execute line env
    let later := r.enterAll rest o.env
    (o.result :: later.1, later.2)

theorem enterAll_of_runLines {r : Registry Host Out} {lines : List (Nat × String)}
    {env : Environment Host Out} {a : Unit}
    (h : (Batch.runLines r.execute lines env).result = .ok a) :
    (r.enterAll (lines.map Prod.snd) env).2 = (Batch.runLines r.execute lines env).env ∧
      ∀ result ∈ (r.enterAll (lines.map Prod.snd) env).1, ∃ v, result = .ok v := by
  induction lines generalizing env with
  | nil => exact ⟨rfl, fun _ hin => absurd hin List.not_mem_nil⟩
  | cons numbered rest ih =>
    cases hfirst : (r.execute numbered.2 env).result with
    | error e =>
      rw [Batch.runLines_of_error hfirst] at h
      cases h
    | ok v =>
      rw [Batch.runLines_of_ok hfirst] at h ⊢
      obtain ⟨henv, hresults⟩ := ih h
      refine ⟨henv, fun result hin => ?_⟩
      rcases List.mem_cons.1 hin with rfl | hin
      · exact ⟨v, hfirst⟩
      · exact hresults result hin

/-- What a batch does that succeeds, its lines do when they are entered one after the other. -/
theorem enterAll_of_batch {r : Registry Host Out} {source : String} {env : Environment Host Out}
    {a : Unit} (h : (Batch.run r.execute source env).result = .ok a) :
    (r.enterAll (Batch.commandLines source) env).2 = (Batch.run r.execute source env).env ∧
      ∀ result ∈ (r.enterAll (Batch.commandLines source) env).1, ∃ v, result = .ok v := by
  rw [← Batch.map_snd_effective]
  exact enterAll_of_runLines h

/-! ## Lines that ask for a script -/

/-- The line asks for the script of a name: it begins with `exec` in some case, and the name is
the only token after the first.  A name without blanks and quotes may stand for itself
(`callsScript_word`). -/
structure CallsScript (line name : String) : Prop where
  begins : Text.begins "EXEC" (normalize line) = true
  tail : (tokens line).tail = [name]

theorem upper_exec : Text.upper "exec" = "EXEC" := by decide +kernel

/-- A name without blanks and quotes needs no quotes. -/
theorem callsScript_word {name : String} (hword : Tokens.IsWord name)
    (hname : Tokens.Writable name) : CallsScript ("exec " ++ name) name := by
  have hchars : ("exec " ++ name).toList = "exec".toList ++ ' ' :: name.toList := by
    rw [String.toList_append]
    rfl
  have htrim : Text.trim ("exec " ++ name) = "exec " ++ name := by
    rw [← String.toList_inj, Text.toList_trim, String.toList_append]
    refine Text.trimChars_eq_self (fun c hc => ?_) fun c hc => ?_
    · obtain rfl : 'e' = c := Option.some.inj hc
      rfl
    · have hne : name.toList ≠ [] := fun hnil => hword.nonempty (String.toList_eq_nil_iff.1 hnil)
      rw [List.getLast?_append, List.getLast?_eq_some_getLast hne, Option.some_or,
        Option.mem_some_iff] at hc
      exact hword.no_blank c (hc ▸ List.getLast_mem hne)
  refine ⟨?_, ?_⟩
  · rw [Text.begins_iff, normalize, htrim, ← upper_exec, Text.toList_upper, Text.toList_upper,
      hchars, Text.upperChars_append]
    exact List.prefix_append _ _
  · have hsegments : Tokens.segments false "exec".toList = ["exec".toList] := rfl
    have hspace : ' ' ∉ name.toList := fun hin => absurd (hword.no_blank ' ' hin) (by decide)
    rw [tokens, htrim, Tokens.ofLine, hchars, Tokens.segments_append rfl, hsegments,
      Tokens.segments_of_no_space hspace, List.singleton_append, List.map_cons, List.tail_cons,
      List.map_singleton, Tokens.clean_word hword hname, String.ofList_toList]

/-- Such a line selects `exec`, whatever the host has registered. -/
theorem CallsScript.resolve {r : Registry Host Out} {own : List (Command Host Out)}
    (hr : r.commands = Builtin.all ++ own) {line name : String} (h : CallsScript line name) :
    r.resolve line = .selected Builtin.exec [.string name] := by
  have hexec : answers (Builtin.exec : Command Host Out).signature (normalize line) = true := by
    have hname : (Builtin.exec : Command Host Out).signature.name = "exec" := rfl
    rw [answers, hname, upper_exec]
    exact h.begins
  -- The one command that was registered before has a name that begins differently.
  have hkeycode :
      ¬ answers (Builtin.getKeycode : Command Host Out).signature (normalize line) = true := by
    intro hanswers
    have hname : (Builtin.getKeycode : Command Host Out).signature.name = "get_keycode" := rfl
    rw [answers, hname, Text.begins_iff] at hanswers
    rcases List.prefix_or_prefix_of_prefix (Text.begins_iff.1 h.begins) hanswers with hp | hp
    · exact absurd hp (by decide +kernel)
    · exact absurd hp (by decide +kernel)
  have hcandidates : ∃ later, r.candidates line = Builtin.exec :: later := by
    rw [candidates, hr, Builtin.all, List.cons_append, List.filter_cons, if_neg hkeycode,
      List.cons_append, List.filter_cons, if_pos hexec]
    exact ⟨_, rfl⟩
  obtain ⟨later, hlater⟩ := hcandidates
  refine resolve_eq_selected.2 ⟨[], later, hlater, fun d hd => absurd hd List.not_mem_nil, ?_⟩
  rw [Signature.Fits, h.tail]
  exact Binding.ofTokens_eq_bound.1 rfl

/-! ## Scripts that succeed -/

open DevConsole.Action

section Scripts

variable {interpreter : Interpreter Host Out} {entries : List ScriptDirectory.Entry} {name : String}
  {s : Surroundings Host}

omit [Sink Out] in
/-- A script that is found and can be read runs as a batch, one script deeper. -/
theorem perform_runScript_of_source {entry : ScriptDirectory.Entry} {source : String}
    (hfind : entries.find? (·.isScript name) = some entry) (hbelow : s.depth < Builtin.depthLimit)
    (hsource : Builtin.source entry = .ok source) :
    (Builtin.runScript interpreter entries name).perform s =
      let e := (Batch.run interpreter.execute source).perform s.inScript
      ⟨e.result, e.after.afterScript, .opened (s.scripts.pathOf entry.name) :: e.trace⟩ := by
  unfold Builtin.runScript
  rw [perform_get_bind, hfind]
  dsimp only
  rw [if_neg (Nat.not_le.2 hbelow), hsource, ofExcept_ok, pure_bind,
    perform_bind_ok (a := ()) rfl, perform_emit, perform_deeper_inScript]
  dsimp only [List.singleton_append]

omit [Sink Out] in
/-- A script that succeeds was found and could be read, and no more than the limit were running. -/
theorem exists_script_of_ok {a : Unit}
    (h : ((Builtin.runScript interpreter entries name).perform s).result = .ok a) :
    ∃ entry source, entries.find? (·.isScript name) = some entry ∧ s.depth < Builtin.depthLimit ∧
      Builtin.source entry = .ok source := by
  unfold Builtin.runScript at h
  rw [perform_get_bind] at h
  cases hfind : entries.find? (·.isScript name) with
  | none =>
    rw [hfind] at h
    cases h
  | some entry =>
    rw [hfind] at h
    dsimp only at h
    split at h
    · cases h
    · rename_i hbelow
      obtain ⟨source, hread, -⟩ := exists_of_bind_ok h
      have hsource : Builtin.source entry = .ok source := (result_ofExcept _ s).symm.trans hread
      exact ⟨entry, source, rfl, Nat.not_le.1 hbelow, hsource⟩

/-- Where there is a directory, `exec` runs the script of the name in it. -/
theorem perform_exec (hentries : s.scripts.entries? = some entries) :
    (Builtin.exec.body interpreter [.string name]).perform s =
      (Builtin.runScript interpreter entries name >>= fun _ => pure none).perform s := by
  have hname : (Action.ofExcept (Arguments.string [.string name] 0) : Action Host Out String) =
      pure name := rfl
  unfold Builtin.exec
  dsimp only
  rw [hname, pure_bind, perform_get_bind, hentries]

/-- What `exec` does with a script that is found and can be read, whether it succeeds or not. -/
theorem perform_exec_of_text (hentries : s.scripts.entries? = some entries)
    {entry : ScriptDirectory.Entry} (hfind : entries.find? (·.isScript name) = some entry)
    (hbelow : s.depth < Builtin.depthLimit) {source : String}
    (hsource : Builtin.source entry = .ok source) :
    (Builtin.exec.body interpreter [.string name]).perform s =
      let e := (Batch.run interpreter.execute source).perform s.inScript
      ⟨e.result.map fun _ => none, e.after.afterScript,
        .opened (s.scripts.pathOf entry.name) :: e.trace⟩ := by
  rw [perform_exec hentries, perform_bind_const, perform_runScript_of_source hfind hbelow hsource]

/-- What `exec` does when it succeeds: the lines of the script run in it, and all of them
succeed. -/
theorem exists_script_of_exec {v : Option Value} (hentries : s.scripts.entries? = some entries)
    (h : ((Builtin.exec.body interpreter [.string name]).perform s).result = .ok v) :
    ∃ entry source, entries.find? (·.isScript name) = some entry ∧ entry.content = .text source ∧
      let e := (Batch.run interpreter.execute source).perform s.inScript
      e.result = .ok () ∧ (Builtin.exec.body interpreter [.string name]).perform s =
        ⟨.ok none, e.after.afterScript, .opened (s.scripts.pathOf entry.name) :: e.trace⟩ := by
  have hran := h
  rw [perform_exec hentries] at hran
  obtain ⟨⟨⟩, hscript, -⟩ := exists_of_bind_ok hran
  obtain ⟨entry, source, hfind, hbelow, hsource⟩ := exists_script_of_ok hscript
  rw [perform_runScript_of_source hfind hbelow hsource] at hscript
  refine ⟨entry, source, hfind, Builtin.content_of_source hsource, hscript, ?_⟩
  rw [perform_exec_of_text hentries hfind hbelow hsource]
  dsimp only at hscript ⊢
  rw [hscript]
  rfl

end Scripts

variable {r : Registry Host Out} {own : List (Command Host Out)}

/-- The lines of a script that succeeds, entered one after the other, succeed as well and leave
the environment that the script left. -/
theorem enterAll_of_script (hr : r.commands = Builtin.all ++ own)
    (hown : ∀ c ∈ own, c.IgnoresDepth) {line name : String} (hline : CallsScript line name)
    {env : Environment Host Out} {entries : List ScriptDirectory.Entry} {v : Option Value}
    (hentries : env.scripts.entries? = some entries) (h : (r.execute line env).result = .ok v) :
    ∃ entry source, entries.find? (·.isScript name) = some entry ∧ entry.content = .text source ∧
      (∀ result ∈ (r.enterAll (Batch.commandLines source) env).1, ∃ v, result = .ok v) ∧
      (r.enterAll (Batch.commandLines source) env).2 = (r.execute line env).env := by
  rw [execute_of_selected (hline.resolve hr)] at h ⊢
  have hok : ((Builtin.exec.body r.interpreter [.string name]).perform env.toSurroundings).result =
      .ok v := h
  obtain ⟨entry, source, hfind, hcontent, hbatch, hexec⟩ := exists_script_of_exec hentries hok
  -- The lines succeed in the script, so they do the same when they are entered.
  have hrises : ∀ line, (r.interpreter.execute line).RisesTo (r.execute line) :=
    risesTo_nest hr hown (Nat.sub_le _ _)
  have hmatches := risesTo_batch hrises source env.toSurroundings () hbatch
  have hlines : (Batch.run r.execute source env).result = .ok () :=
    hmatches.result.symm.trans hbatch
  obtain ⟨henv, hresults⟩ := enterAll_of_batch hlines
  refine ⟨entry, source, hfind, hcontent, hresults, ?_⟩
  rw [henv, run, run, hexec, hmatches.after, Surroundings.afterScript_inScript,
    Sink.receiveAll_cons, Sink.receive, hmatches.receiveAll_eq]

/-- **A script that succeeds does what its lines do when they are entered one after the other.**
Every line that succeeds one script deeper succeeds with the same value without that script, and
leaves the same but for the depth.  So when a line that asks for a script succeeds, the script is
there, and each of its lines that is no comment succeeds where it is entered instead; in the end
the output, the overlays, the tooltip, the requests, the depth and the host are those that the
script left. -/
theorem script_as_entered (hr : r.commands = Builtin.all ++ own)
    (hown : ∀ c ∈ own, c.IgnoresDepth) (env : Environment Host Out) :
    (∀ line v, (r.execute line { env with depth := env.depth + 1 }).result = .ok v →
      let inner := r.execute line { env with depth := env.depth + 1 }
      let outer := r.execute line env
      outer.result = .ok v ∧ outer.env.depth = env.depth ∧
        inner.env = { outer.env with depth := env.depth + 1 } ∧ inner.notes = outer.notes) ∧
    ∀ line name entries v, CallsScript line name → env.scripts.entries? = some entries →
      (r.execute line env).result = .ok v →
      ∃ entry source, entries.find? (·.isScript name) = some entry ∧
        entry.content = .text source ∧
        (∀ result ∈ (r.enterAll (Batch.commandLines source) env).1, ∃ v, result = .ok v) ∧
        (r.enterAll (Batch.commandLines source) env).2 = (r.execute line env).env := by
  refine ⟨fun line v h => ?_, fun line name entries v hline hentries h => ?_⟩
  · exact (risesTo_nest hr hown (Nat.le_refl nestingLimit) line).run h
  · exact enterAll_of_script hr hown hline hentries h

/-- A script that runs a script: its lines spawn enemies and set the difficulty, and they do the
same when they are entered, also so deep that the inner script is the last that may run. -/
theorem script_as_entered_nested :
    let r : Registry World Transcript := (Builtin.registry.registerAll World.commands).1
    let scripts : ScriptDirectory := ⟨"", .entries
      [⟨"a.exec", .text "// two\n\n spawn_enemies 2\nexec b"⟩, ⟨"b.exec", .text "difficulty HARD"⟩]⟩
    let env : Environment World Transcript := { scripts, depth := 14, host := {}, out := {} }
    (r.commands = Builtin.all ++ World.commands ∧
      ∀ c ∈ (World.commands : List (Command World Transcript)), c.IgnoresDepth) ∧
    ((r.execute "exec b" { env with depth := 15 }).result = .ok none ∧
      (r.execute "exec b" env).result = .ok none) ∧
    (CallsScript "exec a" "a" ∧ (r.execute "exec a" env).result = .ok none ∧
      (r.execute "exec a" env).env.host.enemies = 2) ∧
    (∀ result ∈ (r.enterAll ["spawn_enemies 2", "exec b"] env).1, ∃ v, result = .ok v) ∧
      (r.enterAll ["spawn_enemies 2", "exec b"] env).2 = (r.execute "exec a" env).env := by
  intro r scripts env
  have hcommands : r.commands = Builtin.all ++ World.commands :=
    (registerAll_of_accepted _ _ (by decide)).1
  have hown : ∀ c ∈ (World.commands : List (Command World Transcript)), c.IgnoresDepth :=
    fun c hc => (World.isElementary_of_mem_commands hc).ignoresDepth
  have hok : ∀ {result : Except Failure (Option Value)}, result.toOption = some none →
      result = .ok none := by
    intro result h
    cases result with
    | error e => cases h
    | ok v => exact congrArg Except.ok (Option.some.inj h)
  have hinner : (r.execute "exec b" { env with depth := 15 }).result = .ok none :=
    hok (by decide +kernel)
  obtain ⟨houter, henemies⟩ : (r.execute "exec a" env).result.toOption = some none ∧
      (r.execute "exec a" env).env.host.enemies = 2 := by decide +kernel
  have hword : Tokens.IsWord "a" :=
    ⟨by decide, by simp [Text.isBlank], by simp [Tokens.isQuote]⟩
  have hcalls : CallsScript ("exec " ++ "a") "a" :=
    callsScript_word hword ⟨hword.no_quote, by decide⟩
  have happend : "exec " ++ "a" = "exec a" := by decide
  rw [happend] at hcalls
  obtain ⟨hline, hscript⟩ := script_as_entered hcommands hown env
  obtain ⟨entry, source, hfind, hcontent, hentered⟩ :=
    hscript "exec a" "a" _ none hcalls rfl (hok houter)
  have hfirst : ScriptDirectory.Entry.isScript "a"
      ⟨"a.exec", .text "// two\n\n spawn_enemies 2\nexec b"⟩ = true := by decide +kernel
  rw [List.find?_cons_of_pos hfirst] at hfind
  cases hfind
  cases hcontent
  have hlines : Batch.commandLines "// two\n\n spawn_enemies 2\nexec b" =
      ["spawn_enemies 2", "exec b"] := by decide +kernel
  rw [hlines] at hentered
  exact ⟨⟨hcommands, hown⟩, ⟨hinner, (hline "exec b" none hinner).1⟩,
    ⟨hcalls, hok houter, henemies⟩, hentered⟩

end Registry

end DevConsole
