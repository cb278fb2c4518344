import DevConsole.Proofs.ScriptLines
import Mathlib.Data.List.Find

/-! # Which script a name stands for

`exec` is given a name by whoever types the line, so the name can be any text.  It is never made
into a path.  The names in the directory are listed, and the one that is wanted is compared with
what stands before the ending of each.  A script that is found goes by the name
(`ScriptDirectory.Entry.GoesBy`), and where no two scripts go by one name it does not matter in
which order they are listed (`find?_isScript`).

How `exec` reads is written out here once more as it happens in a tree of files (`Builtin.execAt`).
A listed name is cut at its last dot, a name that begins with its only dot is not cut at all, the
path of the name is asked whether a file is there, and that path is read.  The tree may hold
anything at other paths, also at those that the wanted name would lead to: it does not show
(`Builtin.perform_execAt`).
-/
namespace DevConsole

namespace ScriptDirectory

/-! ## Names cut at their last dot -/

/-- What stands before the last dot, and what after it. -/
def cutAtLastDot? : List Char → Option (List Char × List Char)
  | [] => none
  | c :: cs =>
    match cutAtLastDot? cs with
    | some (before, after) => some (c :: before, after)
    | none => if c = '.' then some ([], cs) else none

/-- The stem of a name and its ending, which a name without a dot has not, nor one that begins with
its only dot. -/
def stemAndEnding (name : List Char) : List Char × Option (List Char) :=
  match cutAtLastDot? name with
  | none | some ([], _) => (name, none)
  | some (before, after) => (before, some after)

theorem cutAtLastDot?_eq_none {cs : List Char} : cutAtLastDot? cs = none ↔ '.' ∉ cs := by
  induction cs with
  | nil => exact ⟨fun _ => List.not_mem_nil, fun _ => rfl⟩
  | cons c cs ih =>
    rw [cutAtLastDot?, List.mem_cons, not_or]
    cases hrest : cutAtLastDot? cs with
    | some cut =>
      refine ⟨fun h => (by cases h), fun h => ?_⟩
      rw [ih.2 h.2] at hrest
      cases hrest
    | none =>
      by_cases hc : c = '.'
      · simp [hc]
      · simp [hc, Ne.symm hc, ih.1 hrest]

/-- **The cut is at a dot after which there is none.** -/
theorem cutAtLastDot?_eq_some {cs before after : List Char} :
    cutAtLastDot? cs = some (before, after) ↔ cs = before ++ '.' :: after ∧ '.' ∉ after := by
  induction cs generalizing before after with
  | nil => exact ⟨fun h => (by cases h), fun h => absurd h.1 (by simp)⟩
  | cons c cs ih =>
    rw [cutAtLastDot?]
    cases hrest : cutAtLastDot? cs with
    | some cut =>
      obtain ⟨before', after'⟩ := cut
      obtain ⟨hcs, hlast⟩ := ih.1 hrest
      constructor
      · intro h
        cases h
        exact ⟨congrArg (c :: ·) hcs, hlast⟩
      · rintro ⟨hsplit, hno⟩
        cases before with
        | nil =>
          -- The rest has a dot, so the cut is not at its front.
          obtain ⟨-, rfl⟩ := List.cons.inj hsplit
          rw [cutAtLastDot?_eq_none.2 hno] at hrest
          cases hrest
        | cons d before =>
          obtain ⟨rfl, htail⟩ := List.cons.inj hsplit
          rw [ih.2 ⟨htail, hno⟩] at hrest
          cases hrest
          rfl
    | none =>
      have hno := cutAtLastDot?_eq_none.1 hrest
      constructor
      · intro h
        dsimp only at h
        split at h
        · rename_i hdot
          cases h
          exact ⟨congrArg (· :: cs) hdot, hno⟩
        · cases h
      · rintro ⟨hsplit, -⟩
        cases before with
        | nil =>
          obtain ⟨rfl, rfl⟩ := List.cons.inj hsplit
          exact if_pos rfl
        | cons d before =>
          obtain ⟨-, rfl⟩ := List.cons.inj hsplit
          exact absurd (List.mem_append_right _ List.mem_cons_self) hno

/-- A name has the ending of scripts when that follows its stem, which is not empty. -/
theorem stemAndEnding_eq_iff {name stem : List Char} :
    stemAndEnding name = (stem, some ending.tail) ↔ stem ≠ [] ∧ name = stem ++ ending := by
  unfold stemAndEnding
  constructor
  · intro h
    split at h
    · cases h
    · cases h
    · rename_i before after hne hcut
      cases h
      exact ⟨hne, (cutAtLastDot?_eq_some.1 hcut).1⟩
  · rintro ⟨hne, hname⟩
    have hcut : cutAtLastDot? name = some (stem, ending.tail) :=
      cutAtLastDot?_eq_some.2 ⟨hname, by decide⟩
    rw [hcut]
    cases stem with
    | nil => exact absurd rfl hne
    | cons c stem => rfl

theorem stem?_eq_some {name stem : String} :
    stem? name = some stem ↔ stem ≠ "" ∧ name = stem ++ ".exec" := by
  have happend : name = stem ++ ".exec" ↔ name.toList = stem.toList ++ ending := by
    rw [← String.toList_inj, String.toList_append]
    rfl
  have hempty : stem ≠ "" ↔ stem.toList ≠ [] := by
    rw [Ne, Ne, String.toList_eq_nil_iff]
  rw [happend, hempty, stem?]
  constructor
  · intro h
    split at h
    · rename_i hscript
      rw [Bool.and_eq_true, List.isSuffixOf_iff_suffix] at hscript
      obtain ⟨⟨front, hfront⟩, hne⟩ := hscript
      have htake : name.toList.take (name.toList.length - ending.length) = front := by
        rw [← hfront, List.length_append, Nat.add_sub_cancel, List.take_left]
      rw [htake] at h hne
      have hstem : stem.toList = front := by
        rw [← Option.some.inj h, String.toList_ofList]
      rw [hstem]
      exact ⟨by simpa using hne, hfront.symm⟩
    · cases h
  · rintro ⟨hne, hname⟩
    have htake : name.toList.take (name.toList.length - ending.length) = stem.toList := by
      rw [hname, List.length_append, Nat.add_sub_cancel, List.take_left]
    rw [htake, if_pos, String.ofList_toList]
    rw [Bool.and_eq_true, List.isSuffixOf_iff_suffix, hname]
    exact ⟨List.suffix_append _ _, by simpa using hne⟩

/-! ## The script of a name -/

/-- A file goes by a name when it is called that in some case, with the ending of scripts. -/
structure Entry.GoesBy (name : String) (e : Entry) : Prop where
  file : e.content ≠ .directory
  called : ∃ stem, stem ≠ "" ∧ e.name = stem ++ ".exec" ∧ Text.upper stem = Text.upper name

/-- No two files go by one name: what they are called differs in more than the case. -/
def OneForEachName (entries : List Entry) : Prop :=
  ∀ name, ∀ a ∈ entries, ∀ b ∈ entries, a.GoesBy name → b.GoesBy name → a = b

theorem Entry.isScript_iff {name : String} {e : Entry} :
    e.isScript name = true ↔ e.GoesBy name := by
  unfold Entry.isScript
  constructor
  · intro h
    split at h
    · cases h
    · rename_i hfile
      obtain ⟨stem, hstem, hupper⟩ := Option.any_eq_true _ _ |>.1 h
      obtain ⟨hne, hname⟩ := stem?_eq_some.1 hstem
      exact ⟨hfile, stem, hne, hname, beq_iff_eq.1 hupper⟩
  · rintro ⟨hfile, stem, hne, hname, hupper⟩
    split
    · rename_i hdirectory
      exact absurd hdirectory hfile
    · rw [stem?_eq_some.2 ⟨hne, hname⟩, Option.any_some]
      exact beq_iff_eq.2 hupper

/-- **Where no two scripts go by one name, the one that does is found.** -/
theorem find?_isScript {entries : List Entry} (hone : OneForEachName entries) {e : Entry}
    (he : e ∈ entries) {name : String} (h : e.GoesBy name) :
    entries.find? (·.isScript name) = some e := by
  cases hfind : entries.find? (·.isScript name) with
  | none => exact absurd (Entry.isScript_iff.2 h) (List.find?_eq_none.1 hfind e he)
  | some found =>
    have hfound : found.GoesBy name := Entry.isScript_iff.1 (List.find?_some hfind)
    exact congrArg some (hone name found (List.mem_of_find?_eq_some hfind) e he hfound h)

theorem find?_isScript_eq_none {entries : List Entry} {name : String}
    (h : ∀ e ∈ entries, ¬ e.GoesBy name) : entries.find? (·.isScript name) = none :=
  List.find?_eq_none.2 fun e he hscript => h e he (Entry.isScript_iff.1 hscript)

/-- Upper-casing makes no slashes. -/
theorem slash_mem_of_upper_eq {s t : String} (h : Text.upper s = Text.upper t)
    (ht : '/' ∈ t.toList) : '/' ∈ s.toList := by
  have hchars : Text.upperChars s.toList = Text.upperChars t.toList := Text.upper_eq_upper_iff.1 h
  have hslash : '/' ∈ Text.upperChars t.toList := List.mem_flatMap.2 ⟨'/', ht, by decide⟩
  rw [← hchars] at hslash
  obtain ⟨c, hc, hin⟩ := List.mem_flatMap.1 hslash
  by_cases heq : c = '/'
  · exact heq ▸ hc
  · exact absurd hin (Text.not_mem_upperChar (by decide +kernel) (by decide) heq)

/-- **No name with a slash stands for a script**, since no listed name has one. -/
theorem not_goesBy_of_slash {name : String} (hslash : '/' ∈ name.toList) {e : Entry}
    (he : '/' ∉ e.name.toList) : ¬ e.GoesBy name := by
  rintro ⟨-, stem, -, hname, hupper⟩
  have hstem : '/' ∈ stem.toList := slash_mem_of_upper_eq hupper hslash
  rw [hname, String.toList_append] at he
  exact he (List.mem_append_left _ hstem)

/-! ## Trees of files -/

/-- What stands at the paths of a tree of files, if something does. -/
abbrev FileTree := String → Option Content

/-- Whether a file is at a path. -/
def FileTree.isFile (tree : FileTree) (path : String) : Bool :=
  match tree path with
  | none | some .directory => false
  | some _ => true

/-- The text of the file at a path. -/
def FileTree.read (tree : FileTree) (path : String) : Except Failure String :=
  match tree path with
  | none => .error (.file .notFound)
  | some content => Builtin.source ⟨path, content⟩

/-- Whether a listed name is the one of a wanted script: the ending after its last dot, the stem
before it, and a file at its path. -/
def leadsTo (tree : FileTree) (d : ScriptDirectory) (wanted name : String) : Bool :=
  let (stem, ending?) := stemAndEnding name.toList
  ending? == some ending.tail && Text.upper (String.ofList stem) == Text.upper wanted &&
    tree.isFile (d.pathOf name)

variable {tree : FileTree} {d : ScriptDirectory} {e : Entry}

theorem isFile_iff (h : tree (d.pathOf e.name) = some e.content) :
    tree.isFile (d.pathOf e.name) = true ↔ e.content ≠ .directory := by
  unfold FileTree.isFile
  rw [h]
  cases e.content <;> simp

theorem read_eq (h : tree (d.pathOf e.name) = some e.content) :
    tree.read (d.pathOf e.name) = Builtin.source e := by
  rw [FileTree.read, h]
  rfl

theorem leadsTo_iff (h : tree (d.pathOf e.name) = some e.content) {wanted : String} :
    leadsTo tree d wanted e.name = true ↔ e.GoesBy wanted := by
  unfold leadsTo
  rw [Bool.and_eq_true, Bool.and_eq_true, isFile_iff h, beq_iff_eq, beq_iff_eq]
  have hcut : ∀ stem : String, stemAndEnding e.name.toList = (stem.toList, some ending.tail) ↔
      stem ≠ "" ∧ e.name = stem ++ ".exec" := by
    intro stem
    rw [stemAndEnding_eq_iff, ← String.toList_inj, String.toList_append, Ne, Ne,
      String.toList_eq_nil_iff]
    rfl
  constructor
  · rintro ⟨⟨hending, hupper⟩, hfile⟩
    have hname := (hcut (String.ofList (stemAndEnding e.name.toList).1)).1
      (Prod.ext String.toList_ofList.symm hending)
    exact ⟨hfile, _, hname.1, hname.2, hupper⟩
  · rintro ⟨hfile, stem, hne, hname, hupper⟩
    have hpair := (hcut stem).2 ⟨hne, hname⟩
    rw [hpair, String.ofList_toList]
    exact ⟨⟨rfl, hupper⟩, hfile⟩

end ScriptDirectory

namespace Builtin

open ScriptDirectory DevConsole.Action

variable {Host Out : Type}

/-- Runs the script of a name that is looked for and read in a tree of files, where these names are
listed in the directory. -/
def execAt (tree : FileTree) (interpreter : Interpreter Host Out) (names : List String)
    (name : String) : Action Host Out (Option Value) := do
  let env ← Action.get
  match names.find? (leadsTo tree env.scripts name) with
  | none => .fail (.command (.scriptNotFound name))
  | some listed =>
    let path := env.scripts.pathOf listed
    if depthLimit ≤ env.depth then
      .fail (.command (.scriptsTooDeep depthLimit))
    else
      let text ← Action.ofExcept (tree.read path)
      Action.emit [.opened path]
      Action.deeper (Batch.run interpreter.execute text)
      pure none

variable [Sink Out] {interpreter : Interpreter Host Out} {entries : List ScriptDirectory.Entry}
  {name : String} {s : Surroundings Host}

/-- **Only what the directory lists is ever read.**  In any tree that holds the entries of the
directory at their paths, reading there does what `exec` does. -/
theorem perform_execAt (hentries : s.scripts.entries? = some entries) {tree : FileTree}
    (htree : ∀ e ∈ entries, tree (s.scripts.pathOf e.name) = some e.content) :
    (execAt tree interpreter (entries.map (·.name)) name).perform s =
      (exec.body interpreter [.string name]).perform s := by
  have hfind : (entries.map (·.name)).find? (leadsTo tree s.scripts name) =
      (entries.find? (·.isScript name)).map (·.name) := by
    rw [List.find?_map]
    refine congrArg (Option.map _) (List.find?_congr fun e he => Bool.eq_iff_iff.2 ?_)
    exact (leadsTo_iff (htree e he)).trans Entry.isScript_iff.symm
  rw [Registry.perform_exec hentries]
  unfold execAt runScript
  rw [bind_assoc, perform_get_bind, perform_get_bind, hfind]
  cases hfound : entries.find? (·.isScript name) with
  | none => rfl
  | some e =>
    have hread := read_eq (htree e (List.mem_of_find?_eq_some hfound))
    dsimp only [Option.map_some]
    rw [hread]
    split
    · rfl
    · simp only [bind_assoc]

/-! ## What `exec` does with a name -/

theorem perform_exec_of_missing (hentries : s.scripts.entries? = some entries)
    (hfind : entries.find? (·.isScript name) = none) :
    (exec.body interpreter [.string name]).perform s =
      ⟨.error (.command (.scriptNotFound name)), s, []⟩ := by
  rw [Registry.perform_exec hentries]
  unfold runScript
  rw [bind_assoc, perform_get_bind, hfind]
  rfl

theorem perform_exec_of_fault (hentries : s.scripts.entries? = some entries)
    {e : ScriptDirectory.Entry} (hfind : entries.find? (·.isScript name) = some e)
    (hbelow : s.depth < depthLimit) {fault : Failure} (hsource : source e = .error fault) :
    (exec.body interpreter [.string name]).perform s = ⟨.error fault, s, []⟩ := by
  rw [Registry.perform_exec hentries]
  unfold runScript
  rw [bind_assoc, perform_get_bind, hfind]
  dsimp only
  rw [if_neg (Nat.not_le.2 hbelow), hsource]
  rfl

/-- **`exec` finds the scripts of its directory, and no other files.**  Where no two scripts go by
one name, any text may be given as the name.  The file that goes by it runs as a batch, one script
deeper, whatever else is in the directory; where it cannot be read as a text, that is the failure,
and nothing has changed.  When no file goes by the name, it is not found and nothing has changed
either, and a name with a slash is never found, as no name in a directory has one.  Of a tree of
files that holds the directory only what is listed there is read: what stands at other paths makes
no difference. -/
theorem exec_finds_script (interpreter : Interpreter Host Out) (env : Environment Host Out)
    {entries : List ScriptDirectory.Entry} (hentries : env.scripts.entries? = some entries)
    (hone : OneForEachName entries) (name : String) :
    let ran := (exec.body interpreter [.string name]).run env
    let missing := ⟨.error (.command (.scriptNotFound name)), env, []⟩
    (∀ e ∈ entries, e.GoesBy name → env.depth < depthLimit →
      (∀ text, e.content = .text text →
        let batch := (Batch.run interpreter.execute text).run { env with depth := env.depth + 1 }
        ran = ⟨batch.result.map fun _ => none, { batch.env with depth := batch.env.depth - 1 },
          .opened (env.scripts.pathOf e.name) :: batch.trace⟩) ∧
      ∀ fault, source e = .error fault → ran = ⟨.error fault, env, []⟩) ∧
    ((∀ e ∈ entries, ¬ e.GoesBy name) → ran = missing) ∧
    ('/' ∈ name.toList → (∀ e ∈ entries, '/' ∉ e.name.toList) → ran = missing) ∧
    ∀ tree : FileTree, (∀ e ∈ entries, tree (env.scripts.pathOf e.name) = some e.content) →
      (execAt tree interpreter (entries.map (·.name)) name).run env = ran := by
  have hmissing : (∀ e ∈ entries, ¬ e.GoesBy name) →
      (exec.body interpreter [.string name]).run env =
        ⟨.error (.command (.scriptNotFound name)), env, []⟩ := by
    intro hnone
    rw [run, perform_exec_of_missing hentries (find?_isScript_eq_none hnone)]
    rfl
  refine ⟨fun e he hgoes hbelow => ⟨fun text htext => ?_, fun fault hfault => ?_⟩, hmissing,
    fun hslash hnames => ?_, fun tree htree => ?_⟩
  · have hsource : source e = .ok text := by
      rw [source, htext]
    intro batch
    rw [run, Registry.perform_exec_of_text hentries (find?_isScript hone he hgoes) hbelow hsource]
    rfl
  · rw [run, perform_exec_of_fault hentries (find?_isScript hone he hgoes) hbelow hfault]
    rfl
  · exact hmissing fun e he => not_goesBy_of_slash hslash (hnames e he)
  · rw [run, run, perform_execAt hentries htree]

/-- Of four things with names that could be taken for scripts one is a script, and it is found by
another spelling.  A file beside the directory is not found through it. -/
theorem exec_finds_script_sharp_s :
    let sharp : ScriptDirectory.Entry := ⟨"Straße.exec", .text "print a"⟩
    let entries := [⟨"x.exec", .directory⟩, ⟨"x.EXEC", .text "print b"⟩, sharp,
      ⟨".exec", .text "print c"⟩]
    let env : Environment Unit Transcript :=
      { scripts := ⟨"scripts", .entries entries⟩, host := (), out := {} }
    let beside : FileTree := fun path =>
      if path = "scripts/../x.exec" then some (.text "quit")
      else (entries.find? fun e => env.scripts.pathOf e.name == path).map (·.content)
    let ran (name : String) := (exec.body registry.interpreter [.string name]).run env
    let missing (name : String) : Outcome Unit Transcript (Option Value) :=
      ⟨.error (.command (.scriptNotFound name)), env, []⟩
    (env.scripts.entries? = some entries ∧ OneForEachName entries) ∧
    (sharp.GoesBy "STRASSE" ∧ (ran "STRASSE").result.toOption = some none ∧
      (ran "STRASSE").env.out.lines.toList = [⟨"a", .white⟩]) ∧
    (ran "x" = missing "x" ∧ ran "" = missing "" ∧ ran "../x" = missing "../x") ∧
    (execAt beside registry.interpreter (entries.map (·.name)) "../x").run env =
      missing "../x" := by
  intro sharp entries env beside ran missing
  have honly : ∀ name, ∀ e ∈ entries, e.GoesBy name → e = sharp := by
    intro name e he hgoes
    obtain ⟨hfile, stem, hne, hname, -⟩ := hgoes
    have hstem := stem?_eq_some.2 ⟨hne, hname⟩
    simp only [entries, List.mem_cons, List.not_mem_nil, or_false] at he
    rcases he with rfl | rfl | rfl | rfl
    · exact absurd rfl hfile
    · cases hstem
    · rfl
    · cases hstem
  have hone : OneForEachName entries := fun name a ha b hb hgoes hgoes' =>
    (honly name a ha hgoes).trans (honly name b hb hgoes').symm
  have hsharp : sharp.GoesBy "STRASSE" := Entry.isScript_iff.1 (by decide +kernel)
  have hnone : ∀ name, Entry.isScript name sharp = false → ∀ e ∈ entries, ¬ e.GoesBy name := by
    intro name hno e he hgoes
    rw [honly name e he hgoes] at hgoes
    rw [Entry.isScript_iff.2 hgoes] at hno
    cases hno
  have hlisted : ∀ e ∈ entries, beside (env.scripts.pathOf e.name) = some e.content := by
    decide +kernel
  have hslash : ∀ e ∈ entries, '/' ∉ e.name.toList := by decide
  have hfound := exec_finds_script registry.interpreter env rfl hone "STRASSE"
  have hbeside := exec_finds_script registry.interpreter env rfl hone "../x"
  have hran : ran "STRASSE" = _ := (hfound.1 sharp (by simp [entries]) hsharp (by decide)).1 _ rfl
  refine ⟨⟨rfl, hone⟩, ⟨hsharp, ?_, ?_⟩, ⟨?_, ?_, ?_⟩, ?_⟩
  · rw [hran]
    decide +kernel
  · rw [hran]
    decide +kernel
  · have hx := exec_finds_script registry.interpreter env rfl hone "x"
    exact hx.2.1 (hnone "x" (by decide +kernel))
  · have hempty := exec_finds_script registry.interpreter env rfl hone ""
    exact hempty.2.1 (hnone "" (by decide +kernel))
  · exact hbeside.2.2.1 (by decide) hslash
  · rw [hbeside.2.2.2 beside hlisted]
    exact hbeside.2.2.1 (by decide) hslash

end Builtin

end DevConsole
