import DevConsole.Proofs.EnemyCount

/-! # Requests that wait for the host

A command that wants something of the host cannot do it itself.  It leaves a request behind, at the
end of those that wait already, and the host takes all of them at once when it likes
(`Console.takeSignals`).  Requests are left from deep inside scripts, and a script that fails a line
later takes none of them back.

What waits is a matter of the calls of the commands, as the number of enemies is: each call finds
waiting what the one before it left, and leaves its own request after that (`Call.Adds`).  That the
commands in a trace have calls of which this holds (`Registry.Files`) is an account of the trace
(`Registry.isAccount_files`).  So it holds of every line, at any depth and whatever comes of it, and
of every operation but the one that takes what waits.  Along all operations, what was taken before
and what waits now make up the list of all requests (`Console.exists_calls_drains`).
-/
namespace DevConsole

variable {Host Out : Type}

/-! ## Calls that make requests -/

namespace Call

/-- The request that a call makes. -/
def request? (call : Call Host) : Option Signal := Signal.ofCommand? call.signature.name

/-- Calls one after the other: each finds waiting what the one before it left waiting, and leaves
its request after that. -/
inductive Adds : List Signal → List (Call Host) → List Signal → Prop where
  | nil (waiting : List Signal) : Adds waiting [] waiting
  | cons {waiting waiting' : List Signal} {call : Call Host} {calls : List (Call Host)}
      (found : call.before.signals = waiting)
      (left : call.effect.after.signals = waiting ++ call.request?.toList)
      (rest : Adds call.effect.after.signals calls waiting') : Adds waiting (call :: calls) waiting'

namespace Adds

variable {waiting waiting' waiting'' : List Signal} {calls earlier later : List (Call Host)}

theorem append (first : Adds waiting earlier waiting') (second : Adds waiting' later waiting'') :
    Adds waiting (earlier ++ later) waiting'' := by
  induction first with
  | nil => exact second
  | cons found left _ ih => exact .cons found left (ih second)

/-- What waits after calls is what waited before and their requests, in order. -/
theorem eq_append (h : Adds waiting calls waiting') :
    waiting' = waiting ++ calls.filterMap request? := by
  induction h with
  | nil waiting => exact (List.append_nil waiting).symm
  | @cons waiting waiting' call calls found left rest ih =>
    rw [ih, left, List.append_assoc]
    cases hrequest : call.request? with
    | none => rw [List.filterMap_cons_none hrequest]; rfl
    | some signal => rw [List.filterMap_cons_some hrequest]; rfl

end Adds

end Call

/-! ## Accounts of what waits -/

namespace Registry

/-- The commands that start in the trace have these calls, which lead from the one state of the host
and what waited there to the other. -/
structure Files (r : Registry World Out) (calls : List (Call World)) (s : Surroundings World)
    (trace : List Event) (t : Surroundings World) : Prop where
  accounts : r.Accounts calls s.host trace t.host
  adds : Call.Adds s.signals calls t.signals

section Files

variable {r : Registry World Out} {s t u : Surroundings World} {trace : List Event}

theorem Files.append {first second : List Event} {earlier later : List (Call World)}
    (before : r.Files earlier s first t) (after : r.Files later t second u) :
    r.Files (earlier ++ later) s (first ++ second) u :=
  ⟨before.accounts.append after.accounts, before.adds.append after.adds⟩

/-- Where nothing starts there are no calls. -/
theorem Files.eq_nil {calls : List (Call World)} (h : r.Files calls s trace t)
    (hstarts : ∀ event ∈ trace, event.isStart = false) : calls = [] := by
  have hnone := h.accounts.starts
  rw [Event.call?_of_starts hstarts] at hnone
  exact List.map_eq_nil_iff.1 hnone.symm

theorem files_nil (hnone : trace.filterMap Event.call? = []) (s : Surroundings World) :
    r.Files [] s trace s :=
  ⟨accounts_nil hnone s.host, .nil s.signals⟩

end Files

variable [Sink Out] {r : Registry World Out}

/-- **That the calls of the commands in a trace add their requests is an account.** -/
theorem isAccount_files (hr : r.OfWorld) :
    r.IsAccount fun s trace t => ∃ calls, r.Files calls s trace t where
  congr := by
    rintro s s' t t' trace ⟨calls, haccounts, hadds⟩ hsignals hhost hsignals' hhost'
    refine ⟨calls, ?_, ?_⟩
    · rwa [hhost, hhost']
    · rwa [hsignals, hsignals']
  quiet s hstarts := ⟨[], files_nil (Event.call?_of_starts hstarts) s⟩
  opened s path := ⟨[], files_nil rfl s⟩
  trans := by
    rintro s t u first second ⟨earlier, hfirst⟩ ⟨later, hsecond⟩
    exact ⟨earlier ++ later, hfirst.append hsecond⟩
  leaf {line c arguments} hline hleaf hinvokes interpreter s :=
    ⟨_, accounts_call hr hline hleaf interpreter s,
      .cons rfl (hinvokes interpreter arguments s).1 (.nil _)⟩
  script := by
    -- The start of `exec` is no call, and the lines of its script have theirs.
    rintro line arguments - s t trace ⟨calls, ⟨hran, hstarts, hchain⟩, hadds⟩
    exact ⟨calls, ⟨hran, hstarts, hchain⟩, hadds⟩

end Registry

/-! ## Operations -/

namespace Console

/-- The line that an operation executes, if it executes one. -/
def executed? (c : Console Host) : Operation → Option String
  | .execute line => some line
  | .tick frame _ _ => (c.submission? frame).filter fun line => !line.isEmpty
  | .log _ _ | .setOpen _ | .takeSignals => none

/-- The requests that an operation takes, if it takes them. -/
def taken? (c : Console Host) : Operation → Option (List Signal)
  | .takeSignals => some c.takeSignals.1
  | .log _ _ | .execute _ | .tick _ _ _ | .setOpen _ => none

/-- What was taken along operations, one list for each time. -/
def drains (c : Console Host) : List Operation → List (List Signal)
  | [] => []
  | op :: ops => (c.taken? op).toList ++ (c.operate op).1.drains ops

section Operations

variable {c : Console Host} {op : Operation}

theorem taken?_of_ne (h : op ≠ .takeSignals) : c.taken? op = none := by
  cases op with
  | takeSignals => exact absurd rfl h
  | log | execute | tick | setOpen => rfl

theorem registry_operate (c : Console Host) (op : Operation) :
    (c.operate op).1.registry = c.registry := by
  rcases leads_operate c op with ⟨-, htaken⟩ | hleads
  · rw [htaken]
    rfl
  · exact hleads.registry_eq

theorem registry_operateAll (c : Console Host) (ops : List Operation) :
    (c.operateAll ops).1.registry = c.registry := by
  induction ops generalizing c with
  | nil => rfl
  | cons op ops ih => exact (ih _).trans (registry_operate c op)

theorem isStart_perform_append (c : Console Host) (text : String) (color : Color) :
    ∀ event ∈ (c.perform (Action.append text color)).2.2, event.isStart = false := by
  have hleaf : (Action.append text color : Action Host Scrollback Unit).IsLeaf :=
    (Action.elementary_append text color).isLeaf
  exact hleaf.starts c.env.toSurroundings

/-- Where no line is executed, no command starts. -/
theorem isStart_operate_of_executed? (h : c.executed? op = none) :
    ∀ event ∈ (c.operate op).2, event.isStart = false := by
  cases op with
  | log text color => exact isStart_perform_append c text color
  | execute line => cases h
  | tick frame clipboard dt =>
    show ∀ event ∈ (c.tick frame clipboard dt).trace, event.isStart = false
    cases hline : c.submission? frame with
    | none =>
      obtain ⟨notes, htrace⟩ := (tick_of_no_submission clipboard dt hline).2
      rw [htrace]
      exact Event.isStart_of_mem_noted
    | some line =>
      -- An empty line is echoed and not executed.
      have hempty : line.isEmpty = true := by
        simpa [executed?, hline, Option.filter_some] using h
      rw [tick_of_submission clipboard dt hline, submit]
      dsimp only
      rw [if_pos hempty]
      exact isStart_perform_append (c.submitting dt frame) _ _
  | setOpen wanted => exact Event.isStart_of_mem_noted
  | takeSignals => exact fun _ hin => by cases hin

end Operations

variable {c : Console World}

/-- An operation that takes nothing has calls that add their requests to what waits. -/
theorem exists_files_operate (hr : c.registry.OfWorld) {op : Operation} (h : op ≠ .takeSignals) :
    ∃ calls, c.registry.Files calls c.env.toSurroundings (c.operate op).2
      (c.operate op).1.env.toSurroundings := by
  rcases leads_operate c op with ⟨htakes, -⟩ | hleads
  · exact absurd htakes h
  · exact hleads.accounted hr (Registry.isAccount_files hr)

/-- What was taken along operations and what waits after them is what waited before and the requests
of the calls. -/
theorem exists_calls_drains (hr : c.registry.OfWorld) (ops : List Operation) :
    let after := c.operateAll ops
    ∃ calls, c.registry.Accounts calls c.env.host after.2 after.1.env.host ∧
      (c.drains ops).flatten ++ after.1.env.signals =
        c.env.signals ++ calls.filterMap Call.request? := by
  induction ops generalizing c with
  | nil => exact ⟨[], Registry.accounts_nil rfl c.env.host, (List.append_nil _).symm⟩
  | cons op ops ih =>
    by_cases htakes : op = .takeSignals
    · subst htakes
      obtain ⟨calls, haccounts, hdrains⟩ := ih (c := c.takeSignals.2) hr
      refine ⟨calls, haccounts, ?_⟩
      show (c.env.signals :: c.takeSignals.2.drains ops).flatten ++ _ = _
      rw [List.flatten_cons, List.append_assoc]
      exact congrArg (c.env.signals ++ ·) hdrains
    · obtain ⟨earlier, hfiles⟩ := exists_files_operate hr htakes
      have hregistry := registry_operate c op
      obtain ⟨later, haccounts, hdrains⟩ := ih (c := (c.operate op).1) (hregistry ▸ hr)
      rw [hregistry] at haccounts
      refine ⟨earlier ++ later, hfiles.accounts.append haccounts, ?_⟩
      have hdrains' : c.drains (op :: ops) = (c.operate op).1.drains ops := by
        rw [drains, taken?_of_ne htakes]
        rfl
      rw [hdrains', operateAll, hdrains, hfiles.adds.eq_append, List.filterMap_append,
        List.append_assoc]

/-- **Requests are neither lost nor repeated, and keep their order.**  Whatever is done with a
console that has the built-in commands and those of the world, the commands that start have their
calls, and what was taken on the way followed by what still waits is what waited at first followed
by one request for each call of `quit` and of `reload_resources`, in the order of the calls.

So it is with every line, at any depth and in any surroundings: whatever comes of the line and of
the script that it is in, its calls leave their requests, each after what it finds.  To take
requests leaves none.  Any other operation adds what its calls add and nothing else, and an
operation that executes no line has no calls. -/
theorem requests_conserved (hr : c.registry.OfWorld) (ops : List Operation) :
    let after := c.operateAll ops
    (∃ calls, c.registry.Accounts calls c.env.host after.2 after.1.env.host ∧
      (c.drains ops).flatten ++ after.1.env.signals =
        c.env.signals ++ calls.filterMap Call.request?) ∧
    (∀ levels line s, let e := (c.registry.nest Registry.refuse levels line).perform s
      ∃ calls, c.registry.Files calls s e.trace e.after ∧
        e.after.signals = s.signals ++ calls.filterMap Call.request?) ∧
    ∀ earlier op later, ops = earlier ++ op :: later →
      let before := (c.operateAll earlier).1
      let next := before.operate op
      (op = .takeSignals → next.1.env.signals = []) ∧
      (op ≠ .takeSignals → ∃ calls,
        c.registry.Files calls before.env.toSurroundings next.2 next.1.env.toSurroundings ∧
        next.1.env.signals = before.env.signals ++ calls.filterMap Call.request? ∧
        (before.executed? op = none → calls = [])) := by
  intro after
  refine ⟨exists_calls_drains hr ops, fun levels line s => ?_, ?_⟩
  · obtain ⟨calls, hfiles⟩ := (Registry.isAccount_files hr).obeys_nest hr levels line s
    exact ⟨calls, hfiles, hfiles.adds.eq_append⟩
  · rintro earlier op later - before next
    have hregistry : before.registry = c.registry := registry_operateAll c earlier
    refine ⟨by rintro rfl; rfl, fun hother => ?_⟩
    obtain ⟨calls, hfiles⟩ := exists_files_operate (c := before) (hregistry ▸ hr) hother
    refine ⟨calls, hregistry ▸ hfiles, hfiles.adds.eq_append, fun hnone => ?_⟩
    exact hfiles.eq_nil (isStart_operate_of_executed? hnone)

/-- A script asks twice, fails, and does not ask a third time; what it asked for is taken, and what
is asked for later waits. -/
theorem requests_conserved_script :
    let scripts : ScriptDirectory :=
      ⟨"", .entries [⟨"a.exec", .text "quit\nreload_resources\nno_such_command\nquit"⟩]⟩
    let console := ((Console.new {} scripts {}).registerAll World.commands).1
    let ops : List Operation :=
      [.execute "exec a", .takeSignals, .log "quit" .white, .execute "reload_resources"]
    let after := console.operateAll ops
    (console.execute "exec a").1.isOk = false ∧
      console.drains ops = [[.quit, .reloadResources]] ∧ after.1.env.signals = [.reloadResources] ∧
      ∃ calls, console.registry.Accounts calls console.env.host after.2 after.1.env.host ∧
        calls.filterMap Call.request? = [.quit, .reloadResources, .reloadResources] := by
  intro scripts console ops after
  have hdrains : console.drains ops = [[.quit, .reloadResources]] := by decide +kernel
  have hwaits : after.1.env.signals = [.reloadResources] := by decide +kernel
  have hfirst : console.env.signals = [] := by decide +kernel
  obtain ⟨⟨calls, haccounts, hconserved⟩, -, -⟩ :=
    requests_conserved (ofWorld_registerAll {} scripts {}) ops
  -- The console after the operations is compared as it is written: to unfold it would be to run
  -- them.
  have hall : (console.drains ops).flatten ++ after.1.env.signals =
      console.env.signals ++ calls.filterMap Call.request? := by
    with_reducible exact hconserved
  rw [hdrains, hwaits, hfirst] at hall
  refine ⟨by decide +kernel, hdrains, hwaits, calls, ?_, hall.symm⟩
  with_reducible exact haccounts

end Console

end DevConsole
