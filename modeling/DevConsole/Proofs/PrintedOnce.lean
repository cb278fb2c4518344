import DevConsole.Proofs.Operations
import DevConsole.Session

/-! # Every line is written once

A host writes the output of its console from time to time.  In between lines are added, and all of
them may be removed, also more than once; and there may be as many lines afterwards as there were
before, or more.  A printout keeps two numbers and nothing else, and still it writes every line
once, in the order in which they were added, unless the line is removed before it is written.

At any time there are lines that the printout has left to write, the *pending* ones
(`Printout.Owes`).  An event does to them what it does to the output itself: lines are added at
their end, or all of them are removed (`Event.keep`).  Writing leaves none of them.  That is one
lemma for each of the two (`Printout.Owes.receive`, `Printout.owes_flush`), and a history is made
up of them (`Mirror.outputs_run`).

What should be written is said without any of this: the next thing that happens to a line that was
added, writing or removal, decides what becomes of it (`Entry.fate`).
-/
namespace DevConsole

namespace Event

/-- The lines that an event adds. -/
def added : Event → List Line
  | appended text color => Line.ofText text color
  | noted _ | cleared | invoked _ _ _ | opened _ => []

/-- What an event leaves of some lines, with those that it adds. -/
def keep (lines : List Line) : Event → List Line
  | appended text color => lines ++ Line.ofText text color
  | cleared => []
  | noted _ | invoked _ _ _ | opened _ => lines

/-- What the events of a trace leave of some lines, with those that they add. -/
def keepAll (lines : List Line) (trace : List Event) : List Line := trace.foldl keep lines

theorem keepAll_cons (lines : List Line) (event : Event) (trace : List Event) :
    keepAll lines (event :: trace) = keepAll (keep lines event) trace := rfl

/-- Without a removal all lines stay, and the added ones come after them. -/
theorem keepAll_of_not_cleared {trace : List Event} (h : cleared ∉ trace) (lines : List Line) :
    keepAll lines trace = lines ++ trace.flatMap added := by
  induction trace generalizing lines with
  | nil => exact (List.append_nil lines).symm
  | cons event trace ih =>
    rw [List.mem_cons, not_or] at h
    obtain ⟨hevent, htrace⟩ := h
    rw [keepAll_cons, ih htrace, List.flatMap_cons, ← List.append_assoc]
    cases event with
    | appended => rfl
    | cleared => exact absurd rfl hevent
    | noted | invoked | opened =>
      rw [added, List.append_nil]
      rfl

/-- After a removal it does not matter which lines there were before. -/
theorem keepAll_of_cleared {trace : List Event} (h : cleared ∈ trace) (lines lines' : List Line) :
    keepAll lines trace = keepAll lines' trace := by
  induction trace generalizing lines lines' with
  | nil => cases h
  | cons event trace ih =>
    rw [keepAll_cons, keepAll_cons]
    rcases List.mem_cons.1 h with rfl | htrace
    · rfl
    · exact ih htrace _ _

end Event

/-- A scrollback keeps its lines as it should. -/
theorem Scrollback.lines_receiveAll (s : Scrollback) (trace : List Event) :
    (Sink.receiveAll s trace).lines.toList = Event.keepAll s.lines.toList trace := by
  induction trace generalizing s with
  | nil => rfl
  | cons event trace ih =>
    rw [Sink.receiveAll_cons, Event.keepAll_cons, ih]
    congr 1
    cases event with
    | appended text color => exact toList_append text color s
    | cleared | noted | invoked | opened => rfl

/-! ## What is left to write -/

/-- The printout has the pending lines left to write.  They come after those that it has written;
or there was a removal since then, and they are all lines that are there. -/
inductive Printout.Owes (p : Printout) (s : Scrollback) (pending : List Line) : Prop where
  | rest (old : List Line) (hgeneration : p.generation = s.generation)
      (hwritten : p.written = old.length) (hlines : s.lines.toList = old ++ pending)
  | all (hgeneration : p.generation < s.generation) (hlines : s.lines.toList = pending)

namespace Printout

variable {p : Printout} {s t : Scrollback} {pending : List Line}

/-- **The pending lines are what is written.** -/
theorem Owes.flush_eq (h : p.Owes s pending) : (p.flush s).1 = pending := by
  unfold flush
  cases h with
  | rest old hgeneration hwritten hlines =>
    rw [if_pos hgeneration.symm, hwritten, hlines]
    exact List.drop_left
  | all hgeneration hlines =>
    rw [if_neg (by omega), hlines]
    rfl

/-- Writing leaves nothing to write. -/
theorem owes_flush (p : Printout) (s : Scrollback) : (p.flush s).2.Owes s [] := by
  refine .rest s.lines.toList rfl ?_ (List.append_nil _).symm
  exact Array.length_toList.symm

/-- The first printout of no lines. -/
theorem owes_ofHeight (height : Nat) : ({} : Printout).Owes (.ofHeight height) [] :=
  .rest [] rfl rfl rfl

theorem Owes.of_eq (h : p.Owes s pending) (hlines : t.lines = s.lines)
    (hgeneration : t.generation = s.generation) : p.Owes t pending := by
  cases h with
  | rest old hgen hwritten hold =>
    exact .rest old (hgen.trans hgeneration.symm) hwritten (hlines ▸ hold)
  | all hgen hall => exact .all (hgeneration ▸ hgen) (hlines ▸ hall)

/-- **An event does to the pending lines what it does to the output.** -/
theorem Owes.receive (h : p.Owes s pending) (event : Event) :
    p.Owes (Sink.receive s event) (event.keep pending) := by
  cases event with
  | noted | invoked | opened => exact h
  | appended text color =>
    have happend := Scrollback.toList_append text color s
    cases h with
    | rest old hgeneration hwritten hlines =>
      refine .rest old hgeneration hwritten ?_
      rw [hlines, List.append_assoc] at happend
      exact happend
    | all hgeneration hlines =>
      refine .all hgeneration ?_
      rw [hlines] at happend
      exact happend
  | cleared =>
    -- The generation of the printout is behind from now on, whether or not it was before.
    refine .all ?_ rfl
    show p.generation < s.generation + 1
    cases h with
    | rest old hgeneration => omega
    | all hgeneration => omega

theorem Owes.receiveAll (h : p.Owes s pending) (trace : List Event) :
    p.Owes (Sink.receiveAll s trace) (Event.keepAll pending trace) := by
  induction trace generalizing s pending with
  | nil => exact h
  | cons event trace ih => exact ih (h.receive event)

end Printout

/-! ## Histories -/

/-- An event of a console, or a writing with the lines that it wrote. -/
inductive Entry where
  | happened (event : Event)
  | flushed (output : List Line)

/-- What becomes of a line. -/
inductive Fate where
  | waiting
  | written
  | removed
deriving DecidableEq

namespace Entry

/-- What becomes of a line that is there when this happens. -/
def fate : List Entry → Fate
  | [] => .waiting
  | flushed _ :: _ => .written
  | happened .cleared :: _ => .removed
  | happened _ :: rest => fate rest

/-- The lines that are added, in order, and what becomes of each of them. -/
def account : List Entry → List (Line × Fate)
  | [] => []
  | flushed _ :: rest => account rest
  | happened event :: rest => (event.added.map fun line => (line, fate rest)) ++ account rest

/-- The lines that should be written. -/
def due (history : List Entry) : List Line :=
  ((account history).filter fun added => added.2 = .written).map Prod.fst

/-- The lines that are written. -/
def outputs (history : List Entry) : List Line :=
  history.flatMap fun
    | happened _ => []
    | flushed output => output

/-- Some lines, if they are written. -/
def ifWritten (lines : List Line) (history : List Entry) : List Line :=
  if fate history = .written then lines else []

/-- What should be written when there are pending lines at the start. -/
def dueAfter (pending : List Line) (history : List Entry) : List Line :=
  ifWritten pending history ++ due history

variable (event : Event) (history : List Entry)

theorem ifWritten_nil : ifWritten [] history = [] := by
  unfold ifWritten
  split <;> rfl

theorem ifWritten_append (lines lines' : List Line) :
    ifWritten (lines ++ lines') history = ifWritten lines history ++ ifWritten lines' history := by
  unfold ifWritten
  split <;> rfl

/-- Lines with one fate are all written, or none of them is. -/
theorem written_of_fate (lines : List Line) :
    ((lines.map fun line => (line, fate history)).filter fun added => added.2 = .written).map
      Prod.fst = ifWritten lines history := by
  unfold ifWritten
  by_cases h : fate history = .written
  · have hall : ∀ added ∈ lines.map fun line => (line, fate history),
        decide (added.2 = .written) = true := by
      intro added hin
      obtain ⟨line, -, rfl⟩ := List.mem_map.1 hin
      exact decide_eq_true h
    rw [if_pos h, List.filter_eq_self.2 hall, List.map_map]
    exact List.map_id _
  · have hnone : ∀ added ∈ lines.map fun line => (line, fate history),
        ¬ decide (added.2 = .written) = true := by
      intro added hin
      obtain ⟨line, -, rfl⟩ := List.mem_map.1 hin
      rw [decide_eq_false h]
      exact Bool.false_ne_true
    rw [if_neg h, List.filter_eq_nil_iff.2 hnone]
    rfl

theorem due_happened :
    due (happened event :: history) = ifWritten event.added history ++ due history := by
  have haccount : account (happened event :: history) =
      (event.added.map fun line => (line, fate history)) ++ account history := rfl
  rw [due, haccount, List.filter_append, List.map_append, written_of_fate]
  rfl

theorem dueAfter_nil (history : List Entry) : dueAfter [] history = due history := by
  rw [dueAfter, ifWritten_nil, List.nil_append]

/-- An event adds to what should be written, or takes all of it away. -/
theorem dueAfter_happened (pending : List Line) :
    dueAfter pending (happened event :: history) = dueAfter (event.keep pending) history := by
  unfold dueAfter
  rw [due_happened]
  cases event with
  | appended text color =>
    rw [Event.keep, ifWritten_append, List.append_assoc]
    rfl
  | cleared =>
    rw [Event.added, Event.keep, ifWritten_nil]
    rfl
  | noted | invoked | opened =>
    rw [Event.added, Event.keep, ifWritten_nil]
    rfl

theorem dueAfter_happenedAll (pending : List Line) (trace : List Event) :
    dueAfter pending (trace.map happened ++ history) =
      dueAfter (Event.keepAll pending trace) history := by
  induction trace generalizing pending with
  | nil => rfl
  | cons event trace ih =>
    rw [List.map_cons, List.cons_append, dueAfter_happened, ih, Event.keepAll_cons]

theorem dueAfter_flushed (pending output : List Line) :
    dueAfter pending (flushed output :: history) = pending ++ due history := rfl

theorem outputs_happenedAll (trace : List Event) :
    outputs (trace.map happened ++ history) = outputs history := by
  induction trace with
  | nil => rfl
  | cons event trace ih => exact ih

theorem outputs_flushed (output : List Line) :
    outputs (flushed output :: history) = output ++ outputs history := rfl

end Entry

/-! ## Consoles that are written -/

/-- A console and the printout of its output. -/
structure Mirror (Host : Type) where
  /-- The console. -/
  console : Console Host
  /-- The printout of its output. -/
  printout : Printout := {}

namespace Mirror

/-- What a host does: an operation of the console, or a writing. -/
inductive Step where
  | operate (op : Console.Operation)
  | flush

variable {Host : Type}

/-- The console and its printout after a step, and what happened in it. -/
def step (m : Mirror Host) : Step → Mirror Host × List Entry
  | .operate op =>
    ({ m with console := (m.console.operate op).1 }, (m.console.operate op).2.map .happened)
  | .flush =>
    ({ m with printout := (m.printout.flush m.console.scrollback).2 },
      [.flushed (m.printout.flush m.console.scrollback).1])

/-- Steps one after the other. -/
def run (m : Mirror Host) : List Step → Mirror Host × List Entry
  | [] => (m, [])
  | step :: steps =>
    let first := m.step step
    let rest := first.1.run steps
    (rest.1, first.2 ++ rest.2)

/-- A new console with some commands, before anything is written. -/
def ofCommands (config : Config) (scripts : ScriptDirectory) (host : Host)
    (commands : List (Command Host Scrollback)) : Mirror Host :=
  { console := (Console.new config scripts host).registerEach commands }

/-- The pending lines of the printout. -/
def Owes (m : Mirror Host) (pending : List Line) : Prop :=
  m.printout.Owes m.console.scrollback pending

variable {m : Mirror Host} {pending : List Line}

theorem run_append (m : Mirror Host) (steps steps' : List Step) :
    (m.run (steps ++ steps')).1 = ((m.run steps).1.run steps').1 := by
  induction steps generalizing m with
  | nil => rfl
  | cons step steps ih => exact ih (m.step step).1

theorem owes_ofCommands (config : Config) (scripts : ScriptDirectory) (host : Host)
    (commands : List (Command Host Scrollback)) :
    (ofCommands config scripts host commands).Owes [] := by
  unfold Owes ofCommands
  rw [Console.registerEach_eq]
  exact Printout.owes_ofHeight config.maxLinesOnScreen

theorem Owes.operate (h : m.Owes pending) (op : Console.Operation) :
    (m.step (.operate op)).1.Owes (Event.keepAll pending (m.console.operate op).2) := by
  obtain ⟨hlines, hgeneration⟩ := Console.scrollback_operate m.console op
  exact (Printout.Owes.receiveAll h _).of_eq hlines hgeneration

theorem owes_flush (m : Mirror Host) : (m.step .flush).1.Owes [] :=
  Printout.owes_flush m.printout m.console.scrollback

theorem Owes.operateAll (h : m.Owes pending) (ops : List Console.Operation) :
    m.printout.Owes (m.console.operateAll ops).1.scrollback
      (Event.keepAll pending (m.console.operateAll ops).2) := by
  obtain ⟨hlines, hgeneration⟩ := Console.scrollback_operateAll m.console ops
  exact (Printout.Owes.receiveAll h _).of_eq hlines hgeneration

/-- **What is written in a run is what should be written.** -/
theorem outputs_run (h : m.Owes pending) (steps : List Step) :
    Entry.outputs (m.run steps).2 = Entry.dueAfter pending (m.run steps).2 := by
  induction steps generalizing m pending with
  | nil => rfl
  | cons step steps ih =>
    cases step with
    | operate op =>
      have hrest := ih (h.operate op)
      rw [← Entry.dueAfter_happenedAll, ← Entry.outputs_happenedAll _ (m.console.operate op).2]
        at hrest
      exact hrest
    | flush =>
      have hrest := ih (owes_flush m)
      rw [Entry.dueAfter_nil] at hrest
      have houtput : (m.printout.flush m.console.scrollback).1 = pending :=
        Printout.Owes.flush_eq h
      have hhistory : (m.run (.flush :: steps)).2 =
          .flushed (m.printout.flush m.console.scrollback).1 ::
            ((m.step .flush).1.run steps).2 := rfl
      rw [hhistory, Entry.outputs_flushed, Entry.dueAfter_flushed, hrest, houtput]

/-- Nothing is pending at the start, and right after a writing. -/
theorem owes_nil_of_flush (h : m.Owes []) {steps : List Step}
    (hsteps : steps = [] ∨ steps.getLast? = some .flush) : (m.run steps).1.Owes [] := by
  rcases hsteps with rfl | hlast
  · exact h
  · obtain ⟨before, rfl⟩ := List.getLast?_eq_some_iff.1 hlast
    rw [run_append]
    exact owes_flush _

/-- **Every line is written once.**  Take a new console with any commands, any operations, and
writings anywhere in between.  A writing writes the lines that were added since the one before, or
since the start, if none were removed in the meantime; and if some were removed, all lines that are
there.  So the lines that are written, over the whole history, are those among the added ones that
were not removed before the next writing, in the order in which they were added. -/
theorem outputs_once (config : Config) (scripts : ScriptDirectory) (host : Host)
    (commands : List (Command Host Scrollback)) :
    let start := ofCommands config scripts host commands
    (∀ (before : List Step) (ops : List Console.Operation),
      before = [] ∨ before.getLast? = some .flush →
        let m := (start.run before).1
        let after := m.console.operateAll ops
        let output := (m.printout.flush after.1.scrollback).1
        (.cleared ∉ after.2 →
          output = after.2.flatMap Event.added ∧
            after.1.scrollback.lines.toList = m.console.scrollback.lines.toList ++ output) ∧
        (.cleared ∈ after.2 → output = after.1.scrollback.lines.toList)) ∧
    ∀ steps : List Step,
      let history := (start.run steps).2
      Entry.outputs history =
        ((Entry.account history).filter fun added => added.2 = .written).map Prod.fst := by
  intro start
  have hstart : start.Owes [] := owes_ofCommands config scripts host commands
  constructor
  · intro before ops hbefore m after output
    have howes : m.Owes [] := owes_nil_of_flush hstart hbefore
    have houtput : output = Event.keepAll [] after.2 := (howes.operateAll ops).flush_eq
    have hlines : after.1.scrollback.lines.toList =
        Event.keepAll m.console.scrollback.lines.toList after.2 := by
      rw [(Console.scrollback_operateAll m.console ops).1]
      exact Scrollback.lines_receiveAll _ _
    constructor
    · intro hkept
      rw [Event.keepAll_of_not_cleared hkept] at houtput hlines
      rw [houtput]
      exact ⟨rfl, hlines⟩
    · intro hcleared
      rw [houtput, hlines]
      exact Event.keepAll_of_cleared hcleared _ _
  · intro steps history
    have hrun := outputs_run hstart steps
    rw [Entry.dueAfter_nil] at hrun
    exact hrun

/-- After a line was written, another one is written alone; and when all lines are removed, what
comes in their place is written, though there are as many lines as before. -/
theorem outputs_once_clear :
    let m := ((ofCommands {} ⟨"", .missing⟩ () []).run [.operate (.log "banner" .yellow), .flush]).1
    let printed := m.console.operateAll [.execute "print hi"]
    let emptied := m.console.operateAll [.execute "clear_console"]
    [Step.operate (.log "banner" .yellow), .flush].getLast? = some .flush ∧
      (.cleared ∉ printed.2 ∧
        (m.printout.flush printed.1.scrollback).1 = printed.2.flatMap Event.added ∧
        (m.printout.flush printed.1.scrollback).1 = [⟨"hi", .white⟩]) ∧
      .cleared ∈ emptied.2 ∧
        (m.printout.flush emptied.1.scrollback).1 = emptied.1.scrollback.lines.toList ∧
        (m.printout.flush emptied.1.scrollback).1 = [⟨"Console Cleared!", .white⟩] := by
  intro m printed emptied
  have hlast : [Step.operate (.log "banner" .yellow), .flush].getLast? = some .flush := rfl
  obtain ⟨hflush, -⟩ := outputs_once {} ⟨"", .missing⟩ () []
  have hprinted := (hflush _ [.execute "print hi"] (.inr hlast)).1
  have hemptied := (hflush _ [.execute "clear_console"] (.inr hlast)).2
  obtain ⟨hkept, hhi⟩ : .cleared ∉ printed.2 ∧
      (m.printout.flush printed.1.scrollback).1 = [⟨"hi", .white⟩] := by
    decide +kernel
  obtain ⟨hcleared, hempty⟩ : .cleared ∈ emptied.2 ∧
      (m.printout.flush emptied.1.scrollback).1 = [⟨"Console Cleared!", .white⟩] := by
    decide +kernel
  exact ⟨hlast, ⟨hkept, (hprinted hkept).1, hhi⟩, hcleared, hemptied hcleared, hempty⟩

end Mirror

end DevConsole
