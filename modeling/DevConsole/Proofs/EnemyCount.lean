import DevConsole.Proofs.Kinds
import DevConsole.Proofs.Replay
import Mathlib.Algebra.Ring.Int.Defs
import Mathlib.Algebra.Ring.Nat

/-! # The number of enemies

Three kinds of numbers meet in the number of enemies.  What `spawn_enemies` is asked to add has 32
bits and a sign, the number that it adds to has 32 bits and none, and `enemies` tells that number
with a sign again.  None of the three conversions ever wraps: a command that cannot do what it is
asked fails, and then it has done nothing at all.

Commands run inside the lines of scripts, and what they did stays when a later line fails.  So the
number is not a matter of the lines that a host executes, but of every run of a command in them, a
*call* (`Call`).  The commands that start in a trace have their calls, in order, and each call finds
the world as the one before it left it (`Registry.Accounts`).  This is an account of the trace
(`Registry.isAccount_accounts`), so it holds of all operations on a console.

What one call does to the number is known of each command (`Registry.Ran.enemies_eq`), and along the
calls the number is then the sum of what was asked for and granted (`Call.Chain.enemies_eq`).
-/
namespace DevConsole

variable {Host Out : Type}

/-! ## Calls -/

/-- A run of a command: what it was given, what it found and what it did. -/
structure Call (Host : Type) where
  signature : Signature
  arguments : List Value
  before : Surroundings Host
  effect : Effect Host (Option Value)

/-- The command that starts in an event, and its arguments.  The start of `exec` is left out: all
that it does is done by the commands in the lines of its script. -/
def Event.call? : Event → Option (Signature × List Value)
  | invoked signature arguments _ =>
    if signature.name = "exec" then none else some (signature, arguments)
  | noted _ | appended _ _ | cleared | opened _ => none

/-- Calls one after the other: each finds the state of the host as the one before it left it. -/
inductive Call.Chain : Host → List (Call Host) → Host → Prop where
  | nil (h : Host) : Chain h [] h
  | cons {h h' : Host} {call : Call Host} {calls : List (Call Host)} (found : call.before.host = h)
      (rest : Chain call.effect.after.host calls h') : Chain h (call :: calls) h'

/-- The call is what a command did that a line selected, and that executes no lines itself. -/
def Registry.Ran (r : Registry Host Out) (call : Call Host) : Prop :=
  ∃ line c interpreter, r.resolve line = .selected c call.arguments ∧
    c.signature = call.signature ∧ c.IsLeaf ∧
      call.effect = (c.body interpreter call.arguments).perform call.before

/-- The commands that start in the trace have these calls, which lead from the one state of the host
to the other. -/
structure Registry.Accounts (r : Registry Host Out) (calls : List (Call Host)) (h : Host)
    (trace : List Event) (h' : Host) : Prop where
  ran : ∀ call ∈ calls, r.Ran call
  starts : trace.filterMap Event.call? = calls.map fun call => (call.signature, call.arguments)
  chain : Call.Chain h calls h'

theorem Event.call?_of_starts {trace : List Event} (h : ∀ event ∈ trace, event.isStart = false) :
    trace.filterMap call? = [] := by
  refine List.filterMap_eq_nil_iff.2 fun event hin => ?_
  have hevent := h event hin
  cases event with
  | invoked | opened => cases hevent
  | noted | appended | cleared => rfl

namespace Call.Chain

variable {h h' h'' : Host} {calls earlier later : List (Call Host)} {call : Call Host}

theorem append (first : Chain h earlier h') (second : Chain h' later h'') :
    Chain h (earlier ++ later) h'' := by
  induction first with
  | nil => exact second
  | cons found _ ih => exact .cons found (ih second)

/-- The calls before a call lead to what it finds. -/
theorem to_before (chain : Chain h (earlier ++ call :: later) h') :
    Chain h earlier call.before.host := by
  induction earlier generalizing h with
  | nil =>
    cases chain with
    | cons found rest =>
      rw [found]
      exact .nil h
  | cons first earlier ih =>
    cases chain with
    | cons found rest => exact .cons found (ih rest)

end Call.Chain

namespace Registry

variable {r : Registry Host Out} {h h' h'' : Host} {trace : List Event}

theorem accounts_nil (hnone : trace.filterMap Event.call? = []) (h : Host) :
    r.Accounts [] h trace h where
  ran _ hin := by cases hin
  starts := hnone
  chain := .nil h

theorem Accounts.append {first second : List Event} {earlier later : List (Call Host)}
    (before : r.Accounts earlier h first h') (after : r.Accounts later h' second h'') :
    r.Accounts (earlier ++ later) h (first ++ second) h'' where
  ran call hin := (List.mem_append.1 hin).elim (before.ran call) (after.ran call)
  starts := by rw [List.filterMap_append, before.starts, after.starts, List.map_append]
  chain := before.chain.append after.chain

end Registry

/-! ## The calls of a run -/

/-- The command `exec` executes lines: it opens a script. -/
theorem Builtin.not_isLeaf_exec [Sink Out] : ¬ (Builtin.exec : Command World Out).IsLeaf := by
  intro hleaf
  let s : Surroundings World :=
    { scripts := ⟨"", .entries [⟨"a.exec", .text ""⟩]⟩, host := {} }
  have hstarts := (hleaf.leaf ⟨[], fun _ => pure none⟩ [.string "a"]).starts s
  have htrace : (((Builtin.exec : Command World Out).body ⟨[], fun _ => pure none⟩
      [.string "a"]).perform s).trace = [.opened "a.exec"] := by
    rfl
  rw [htrace] at hstarts
  cases hstarts _ List.mem_cons_self

namespace Registry

variable [Sink Out] {r : Registry World Out}

/-- A command of the world's registry whose name no other has is told by it. -/
theorem OfWorld.eq_of_name (hr : r.OfWorld) {name : String} {c d : Command World Out}
    (honly : (Builtin.all ++ World.commands : List (Command World Out)).filter
      (·.signature.name == name) = [d])
    (hc : c ∈ r.commands) (hname : c.signature.name = name) : c = d := by
  have hin : c ∈ (Builtin.all ++ World.commands : List (Command World Out)).filter
      (·.signature.name == name) :=
    List.mem_filter.2 ⟨hr ▸ hc, beq_iff_eq.2 hname⟩
  rw [honly] at hin
  exact List.mem_singleton.1 hin

theorem OfWorld.name_ne_exec (hr : r.OfWorld) {c : Command World Out} (hc : c ∈ r.commands)
    (hleaf : c.IsLeaf) : c.signature.name ≠ "exec" := by
  intro hname
  obtain rfl := hr.eq_of_name (d := Builtin.exec) rfl hc hname
  exact Builtin.not_isLeaf_exec hleaf

/-- The start of a leaf that a line selected and what comes after it have one call, the run of the
leaf. -/
theorem accounts_call (hr : r.OfWorld) {line : String} {c : Command World Out}
    {arguments : List Value} (hline : r.resolve line = .selected c arguments) (hleaf : c.IsLeaf)
    (interpreter : Interpreter World Out) (s : Surroundings World) :
    let e := (c.body interpreter arguments).perform s
    r.Accounts [⟨c.signature, arguments, s, e⟩] s.host
      (.invoked c.signature arguments s.depth :: e.trace) e.after.host := by
  have hcall : Event.call? (.invoked c.signature arguments s.depth) =
      some (c.signature, arguments) :=
    if_neg (hr.name_ne_exec (mem_commands_of_selected hline) hleaf)
  have hrest := Event.call?_of_starts ((hleaf.leaf interpreter arguments).starts s)
  refine ⟨?_, ?_, .cons rfl (.nil _)⟩
  · intro call hin
    obtain rfl := List.mem_singleton.1 hin
    exact ⟨line, c, interpreter, hline, rfl, hleaf, rfl⟩
  · rw [List.filterMap_cons_some hcall, hrest]
    rfl

/-- **That the commands in a trace have their calls is an account.** -/
theorem isAccount_accounts (hr : r.OfWorld) :
    r.IsAccount fun s trace t => ∃ calls, r.Accounts calls s.host trace t.host where
  congr := by
    rintro s s' t t' trace ⟨calls, h⟩ - hhost - hhost'
    rw [hhost, hhost']
    exact ⟨calls, h⟩
  quiet s hstarts := ⟨[], accounts_nil (Event.call?_of_starts hstarts) s.host⟩
  opened s path := ⟨[], accounts_nil rfl s.host⟩
  trans := by
    rintro s t u first second ⟨earlier, hfirst⟩ ⟨later, hsecond⟩
    exact ⟨earlier ++ later, hfirst.append hsecond⟩
  leaf hline hleaf _ interpreter s := ⟨_, accounts_call hr hline hleaf interpreter s⟩
  script := by
    rintro line arguments - s t trace ⟨calls, hran, hstarts, hchain⟩
    exact ⟨calls, hran, hstarts, hchain⟩

end Registry

namespace Console

variable {c : Console World}

/-- **Whatever is done with a console, the commands that start have their calls.** -/
theorem operateAll_accounts (hr : c.registry.OfWorld) (ops : List Operation) :
    let after := c.operateAll ops
    ∃ calls, c.registry.Accounts calls c.env.host after.2 after.1.env.host := by
  induction ops generalizing c with
  | nil => exact ⟨[], Registry.accounts_nil rfl c.env.host⟩
  | cons op ops ih =>
    rcases leads_operate c op with ⟨-, htaken⟩ | hleads
    · rw [operateAll, htaken]
      exact ih (c := c.takeSignals.2) hr
    · obtain ⟨earlier, hfirst⟩ := hleads.accounted hr (Registry.isAccount_accounts hr)
      have hregistry := hleads.registry_eq
      obtain ⟨later, hsecond⟩ := ih (hregistry ▸ hr)
      rw [hregistry] at hsecond
      exact ⟨earlier ++ later, hfirst.append hsecond⟩

end Console

/-! ## The three conversions -/

namespace World

/-- As many more enemies as a count asks for are there unless the count is negative or they would
not fit. -/
theorem spawned_cases (enemies : Nat) (count : Int32) :
    ((count.toInt < 0 ∨ enemyLimit < enemies + count.toInt) ∧
        ∃ fault, spawned enemies count = .error fault) ∨
      (0 ≤ count.toInt ∧ enemies + count.toInt ≤ enemyLimit) ∧
        ∃ total : Nat, spawned enemies count = .ok total ∧
          (total : Int) = enemies + count.toInt := by
  unfold spawned
  by_cases hnegative : count.toInt < 0
  · rw [if_pos hnegative]
    exact .inl ⟨.inl hnegative, _, rfl⟩
  · have hnat : (count.toInt.toNat : Int) = count.toInt := Int.toNat_of_nonneg (by omega)
    rw [if_neg hnegative]
    by_cases hlimit : enemyLimit < enemies + count.toInt.toNat
    · rw [if_pos hlimit]
      exact .inl ⟨.inr (by omega), _, rfl⟩
    · rw [if_neg hlimit]
      exact .inr ⟨by omega, _, rfl, by omega⟩

/-- The number of enemies is told as it is when it fits. -/
theorem enemyCount_cases (enemies : Nat) :
    ((enemies : Int) < 2 ^ 31 ∧
        ∃ n : Int32, enemyCount enemies = .ok (.int n) ∧ n.toInt = enemies) ∨
      (2 ^ 31 ≤ (enemies : Int) ∧ enemyCount enemies = .error .countTooLarge) := by
  have hmax : Int32.maxValue.toInt = 2 ^ 31 - 1 := by decide
  unfold enemyCount
  by_cases hfits : (enemies : Int) ≤ Int32.maxValue.toInt
  · have hlt : enemies < 2 ^ 31 := by omega
    rw [if_pos hfits]
    exact .inl ⟨by omega, _, rfl, Int32.toInt_ofNat_of_lt hlt⟩
  · rw [if_neg hfits]
    exact .inr ⟨by omega, rfl⟩

/-! ## What a call does to the number -/

theorem result_countEnemies (interpreter : Interpreter World Out) (arguments : List Value)
    (s : Surroundings World) :
    (((countEnemies : Command World Out).body interpreter arguments).perform s).result =
      ((enemyCount s.host.enemies).mapError fun fault => .command (.other fault.message)).map
        some := by
  unfold countEnemies
  dsimp only
  rw [Action.perform_get_bind]
  cases enemyCount s.host.enemies <;> rfl

/-- Only `spawn_enemies` changes the number of enemies. -/
theorem enemies_invoke_of_ne {name : String} (h : name ≠ "spawn_enemies")
    (arguments : List Value) (w : World) : (w.invoke name arguments).enemies = w.enemies := by
  unfold invoke
  split
  · exact absurd rfl h
  · rfl
  · rfl
  · rfl

end World

namespace Call

/-- The number of enemies that a call was asked to add and added. -/
def granted? (call : Call World) : Option Int :=
  if call.signature.name = "spawn_enemies" then
    match call.arguments, call.effect.result with
    | [.int count], .ok _ => some count.toInt
    | _, _ => none
  else none

/-- The sum of the numbers of enemies that calls were asked to add and added. -/
def granted (calls : List (Call World)) : Int := (calls.filterMap granted?).sum

theorem granted_cons (call : Call World) (calls : List (Call World)) :
    granted (call :: calls) = call.granted?.getD 0 + granted calls := by
  unfold granted
  cases h : call.granted? with
  | none =>
    rw [List.filterMap_cons_none h, Option.getD_none, Int.zero_add]
  | some count =>
    rw [List.filterMap_cons_some h, List.sum_cons, Option.getD_some]

end Call

namespace Registry.Ran

variable [Sink Out] {r : Registry World Out} {call : Call World} (hr : r.OfWorld)
  (hran : r.Ran call)
include hr hran

/-- A call of `spawn_enemies` adds what it was asked to add, or fails and does nothing. -/
theorem spawn_cases (hname : call.signature.name = "spawn_enemies") :
    ∃ count : Int32, call.arguments = [.int count] ∧
      (((count.toInt < 0 ∨ World.enemyLimit < call.before.host.enemies + count.toInt) ∧
          (∃ text, call.effect.result = .error (.command (.other text))) ∧
            call.effect.after = call.before ∧ call.effect.trace = []) ∨
        (0 ≤ count.toInt ∧ call.before.host.enemies + count.toInt ≤ World.enemyLimit) ∧
          call.effect.result = .ok none ∧
            (call.effect.after.host.enemies : Int) = call.before.host.enemies + count.toInt) := by
  obtain ⟨line, c, interpreter, hline, hsignature, -, heffect⟩ := hran
  have hc := mem_commands_of_selected hline
  have htakes := takes_of_selected hline
  rw [← hsignature] at hname
  obtain rfl := hr.eq_of_name (d := World.spawnEnemies) rfl hc hname
  obtain ⟨v, hvalues, hkind⟩ := List.map_eq_singleton_iff.1 htakes
  obtain ⟨count, rfl⟩ : ∃ count, v = .int count := by
    cases v with
    | int count => exact ⟨count, rfl⟩
    | float | bool | string => cases hkind
  rw [hvalues] at heffect
  refine ⟨count, hvalues, ?_⟩
  rcases World.spawned_cases call.before.host.enemies count with
    ⟨hrefused, fault, hspawned⟩ | ⟨hfits, total, hspawned, htotal⟩
  · rw [World.perform_spawnEnemies_of_error interpreter [] hspawned] at heffect
    rw [heffect]
    exact .inl ⟨hrefused, ⟨_, rfl⟩, rfl, rfl⟩
  · obtain ⟨hresult, hafter⟩ := World.perform_spawnEnemies_of_ok interpreter [] hspawned
    rw [← heffect] at hresult hafter
    rw [hafter]
    exact .inr ⟨hfits, hresult, htotal⟩

/-- A call of any other command leaves the number of enemies as it is. -/
theorem enemies_of_ne (hname : call.signature.name ≠ "spawn_enemies") :
    call.effect.after.host.enemies = call.before.host.enemies := by
  obtain ⟨line, c, interpreter, hline, hsignature, hleaf, heffect⟩ := hran
  rcases hr.eq_exec_or_invokes (mem_commands_of_selected hline) with rfl | ⟨-, hinvokes⟩
  · exact absurd hleaf Builtin.not_isLeaf_exec
  · rw [heffect, (hinvokes interpreter call.arguments call.before).2, hsignature]
    exact World.enemies_invoke_of_ne hname call.arguments call.before.host

/-- A call of `enemies` tells the number of enemies as it is, or fails where it does not fit. -/
theorem count_cases (hname : call.signature.name = "enemies") :
    ((call.before.host.enemies : Int) < 2 ^ 31 ∧
        ∃ n : Int32, call.effect.result = .ok (some (.int n)) ∧
          n.toInt = call.before.host.enemies) ∨
      (2 ^ 31 ≤ (call.before.host.enemies : Int) ∧
        ∃ text, call.effect.result = .error (.command (.other text))) := by
  obtain ⟨line, c, interpreter, hline, hsignature, -, heffect⟩ := hran
  rw [← hsignature] at hname
  obtain rfl := hr.eq_of_name (d := World.countEnemies) rfl (mem_commands_of_selected hline) hname
  have hresult := World.result_countEnemies interpreter call.arguments call.before
  rw [← heffect] at hresult
  rcases World.enemyCount_cases call.before.host.enemies with
    ⟨hfits, n, hcount, hn⟩ | ⟨hlarge, hcount⟩
  · rw [hcount] at hresult
    exact .inl ⟨hfits, n, hresult, hn⟩
  · rw [hcount] at hresult
    exact .inr ⟨hlarge, _, hresult⟩

/-- **A call adds what it was granted**, and does not go beyond the limit. -/
theorem enemies_eq :
    (call.effect.after.host.enemies : Int) =
        call.before.host.enemies + call.granted?.getD 0 ∧
      (call.before.host.enemies ≤ World.enemyLimit →
        call.effect.after.host.enemies ≤ World.enemyLimit) := by
  unfold Call.granted?
  by_cases hname : call.signature.name = "spawn_enemies"
  · obtain ⟨count, hvalues, hcases⟩ := hran.spawn_cases hr hname
    rw [if_pos hname, hvalues]
    rcases hcases with ⟨-, ⟨text, hresult⟩, hafter, -⟩ | ⟨⟨-, hlimit⟩, hresult, henemies⟩
    · rw [hresult, hafter]
      exact ⟨(Int.add_zero _).symm, id⟩
    · rw [hresult, henemies]
      exact ⟨rfl, fun _ => by omega⟩
  · rw [if_neg hname, hran.enemies_of_ne hr hname]
    exact ⟨(Int.add_zero _).symm, id⟩

end Registry.Ran

/-- **Along calls the number of enemies grows by what they were granted**, and stays within the
limit. -/
theorem Call.Chain.enemies_eq [Sink Out] {r : Registry World Out} (hr : r.OfWorld) {w w' : World}
    {calls : List (Call World)} (chain : Chain w calls w') (hran : ∀ call ∈ calls, r.Ran call) :
    (w'.enemies : Int) = w.enemies + granted calls ∧
      (w.enemies ≤ World.enemyLimit → w'.enemies ≤ World.enemyLimit) := by
  induction chain with
  | nil w => exact ⟨(Int.add_zero _).symm, id⟩
  | @cons w w' call calls found rest ih =>
    obtain ⟨hcall, hcalls⟩ := List.forall_mem_cons.1 hran
    obtain ⟨henemies, hlimit⟩ := hcall.enemies_eq hr
    obtain ⟨henemies', hlimit'⟩ := ih hcalls
    rw [found] at henemies hlimit
    rw [granted_cons, henemies', henemies]
    exact ⟨by omega, fun h => hlimit' (hlimit h)⟩

/-- Each of the calls ran, and found the enemies that were granted to those before it. -/
theorem Registry.Accounts.at_call [Sink Out] {r : Registry World Out} (hr : r.OfWorld)
    {w w' : World} {trace : List Event} {earlier later : List (Call World)} {call : Call World}
    (h : r.Accounts (earlier ++ call :: later) w trace w') :
    r.Ran call ∧ (call.before.host.enemies : Int) = w.enemies + Call.granted earlier ∧
      (w.enemies ≤ World.enemyLimit → call.before.host.enemies ≤ World.enemyLimit) := by
  have hearlier : ∀ call' ∈ earlier, r.Ran call' :=
    fun call' hin => h.ran call' (List.mem_append_left _ hin)
  have hcall : r.Ran call := h.ran call (List.mem_append_right _ List.mem_cons_self)
  exact ⟨hcall, h.chain.to_before.enemies_eq hr hearlier⟩

namespace Console

/-- **The number of enemies is the sum of what was asked for and granted.**  After any operations on
a new console with the commands of the world, the commands that started, in whatever lines and
scripts and whatever failed afterwards, have their calls; the number of enemies is the sum of the
counts of those calls of `spawn_enemies` that did not fail, and fits in 32 bits, and so it is before
every call.  A call of `spawn_enemies` fails exactly when its count is negative or the sum with it
would not fit, and then it changes nothing and puts nothing out; no other call changes the number.
A call of `enemies` gives the sum back when it fits in 32 bits with a sign, and fails when it does
not. -/
theorem enemies_of_calls (config : Config) (scripts : ScriptDirectory) (ops : List Operation) :
    let console := ((Console.new config scripts {}).registerAll World.commands).1
    let after := console.operateAll ops
    let enemies := after.1.env.host.enemies
    ∃ calls : List (Call World),
      console.registry.Accounts calls {} after.2 after.1.env.host ∧
      (enemies : Int) = Call.granted calls ∧ enemies ≤ 2 ^ 32 - 1 ∧
      ∀ earlier call later, calls = earlier ++ call :: later →
        let sum := Call.granted earlier
        (call.before.host.enemies : Int) = sum ∧ sum ≤ 2 ^ 32 - 1 ∧
        (call.signature.name = "spawn_enemies" → ∃ count : Int32, call.arguments = [.int count] ∧
          ((∃ e, call.effect.result = .error e) ↔
            count.toInt < 0 ∨ 2 ^ 32 - 1 < sum + count.toInt) ∧
          ∀ e, call.effect.result = .error e → (∃ text, e = .command (.other text)) ∧
            call.effect.after = call.before ∧ call.effect.trace = []) ∧
        (call.signature.name ≠ "spawn_enemies" →
          call.effect.after.host.enemies = call.before.host.enemies) ∧
        (call.signature.name = "enemies" →
          (sum < 2 ^ 31 → ∃ n : Int32, call.effect.result = .ok (some (.int n)) ∧ n.toInt = sum) ∧
          (2 ^ 31 ≤ sum →
            ∃ text, call.effect.result = .error (.command (.other text)))) := by
  intro console after enemies
  have hworld : console.registry.OfWorld := ofWorld_registerAll config scripts {}
  obtain ⟨calls, haccounts⟩ := operateAll_accounts hworld ops
  obtain ⟨hsum, hlimit⟩ := haccounts.chain.enemies_eq hworld haccounts.ran
  refine ⟨calls, haccounts, hsum.trans (Int.zero_add _), hlimit (Nat.zero_le _), ?_⟩
  rintro earlier call later rfl sum
  obtain ⟨hran, hfound, hwithin⟩ := haccounts.at_call hworld
  have hbefore : (call.before.host.enemies : Int) = sum := hfound.trans (Int.zero_add _)
  have hbound : ((World.enemyLimit : Nat) : Int) = 2 ^ 32 - 1 := rfl
  have hsum' : sum ≤ 2 ^ 32 - 1 := by
    rw [← hbefore, ← hbound]
    exact Int.ofNat_le.2 (hwithin (Nat.zero_le _))
  refine ⟨hbefore, hsum', fun hname => ?_, hran.enemies_of_ne hworld, fun hname => ?_⟩
  · obtain ⟨count, hvalues, hcases⟩ := hran.spawn_cases hworld hname
    rw [hbefore, hbound] at hcases
    refine ⟨count, hvalues, ?_⟩
    rcases hcases with ⟨hrefused, ⟨text, hresult⟩, hafter, htrace⟩ | ⟨hfits, hresult, -⟩
    · refine ⟨iff_of_true ⟨_, hresult⟩ hrefused, fun e he => ?_⟩
      rw [hresult] at he
      cases he
      exact ⟨⟨text, rfl⟩, hafter, htrace⟩
    · have hok : ∀ e, call.effect.result ≠ .error e := by
        intro e he
        rw [hresult] at he
        cases he
      exact ⟨iff_of_false (fun ⟨e, he⟩ => hok e he) (by omega), fun e he => absurd he (hok e)⟩
  · have hcases := hran.count_cases hworld hname
    rw [hbefore] at hcases
    rcases hcases with ⟨hfits, htold⟩ | ⟨hlarge, hfails⟩
    · exact ⟨fun _ => htold, fun hlarge => by omega⟩
    · exact ⟨fun hfits => by omega, fun _ => hfails⟩

/-- A script adds three enemies and fails at the next line, and the three stay with the two that
were there. -/
theorem enemies_of_calls_script :
    let scripts : ScriptDirectory :=
      ⟨"", .entries [⟨"a.exec", .text "spawn_enemies 3\nspawn_enemies -1\nspawn_enemies 5"⟩]⟩
    let console := ((Console.new {} scripts {}).registerAll World.commands).1
    let after := console.operateAll
      [.execute "spawn_enemies 2", .execute "exec a", .execute "enemies"]
    after.1.env.host.enemies = 5 ∧ ∃ two three refused told,
      console.registry.Accounts [two, three, refused, told] {} after.2 after.1.env.host ∧
        refused.arguments = [.int (-1)] ∧ Call.granted [two, three, refused] = 5 ∧
        (∃ text, refused.effect.result = .error (.command (.other text))) ∧
        refused.effect.after = refused.before ∧
        told.effect.after.host.enemies = told.before.host.enemies ∧
        ∃ n : Int32, told.effect.result = .ok (some (.int n)) ∧ n.toInt = 5 := by
  intro scripts console after
  have hstarts : after.2.filterMap Event.call? =
      [((World.spawnEnemies : Command World Scrollback).signature, [.int 2]),
        ((World.spawnEnemies : Command World Scrollback).signature, [.int 3]),
        ((World.spawnEnemies : Command World Scrollback).signature, [.int (-1)]),
        ((World.countEnemies : Command World Scrollback).signature, [])] := by
    decide +kernel
  have hfive : after.1.env.host.enemies = 5 := by decide +kernel
  obtain ⟨calls, haccounts, hsum, -, hcalls⟩ := enemies_of_calls {} scripts
    [.execute "spawn_enemies 2", .execute "exec a", .execute "enemies"]
  have hgiven := haccounts.starts.symm.trans hstarts
  obtain ⟨two, _, rfl, -, hgiven⟩ := List.map_eq_cons_iff.1 hgiven
  obtain ⟨three, _, rfl, -, hgiven⟩ := List.map_eq_cons_iff.1 hgiven
  obtain ⟨refused, _, rfl, hrefused, hgiven⟩ := List.map_eq_cons_iff.1 hgiven
  obtain ⟨told, _, rfl, htold, hgiven⟩ := List.map_eq_cons_iff.1 hgiven
  obtain rfl := List.map_eq_nil_iff.1 hgiven
  have hspawn : refused.signature.name = "spawn_enemies" :=
    congrArg (fun given => given.1.name) hrefused
  have htells : told.signature.name = "enemies" := congrArg (fun given => given.1.name) htold
  have hother : told.signature.name ≠ "spawn_enemies" := by
    rw [htells]
    decide
  obtain ⟨-, -, hspawned, -, -⟩ := hcalls [two, three] refused [told] rfl
  obtain ⟨-, -, -, hkept, hcounted⟩ := hcalls [two, three, refused] told [] rfl
  -- The call of `enemies` adds nothing, so the sum before it is the sum of all.  The console after
  -- the operations is compared as it is written: to unfold it would be to run them.
  have hbefore : Call.granted [two, three, refused] = 5 := by
    have hnone : told.granted? = none := if_neg hother
    have hall : (after.1.env.host.enemies : Int) = Call.granted [two, three, refused, told] := by
      with_reducible exact hsum
    rw [hfive] at hall
    simp only [Call.granted_cons, hnone, Option.getD_none, Int.zero_add] at hall ⊢
    exact hall.symm
  have hminus : refused.arguments = [.int (-1)] := congrArg Prod.snd hrefused
  obtain ⟨count, hcount, hfails, hnothing⟩ := hspawned hspawn
  obtain rfl : count = -1 := by
    rw [hminus] at hcount
    cases hcount
    rfl
  obtain ⟨e, he⟩ := hfails.2 (.inl (by decide))
  obtain ⟨⟨text, rfl⟩, hafter, -⟩ := hnothing e he
  obtain ⟨n, hresult, hn⟩ := (hcounted htells).1 (by rw [hbefore]; decide)
  refine ⟨hfive, two, three, refused, told, ?_, hminus, hbefore, ⟨text, he⟩, hafter,
    hkept hother, n, hresult, hn.trans hbefore⟩
  with_reducible exact haccounts

end Console

end DevConsole
