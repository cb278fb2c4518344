import DevConsole.Proofs.ColorNames
import DevConsole.Proofs.Replay

/-! # The difficulty of the world

The command `difficulty` keeps the level that it is given in lower case, and its parameter admits
those whose upper-case form is that of `easy`, `normal` or `hard`.  The two notions of case do not
fit together: the long s has the upper-case form `S` and is in lower case already, so `eaſy` is
admitted and kept as it is.

That is all that can go wrong.  Of the characters outside ASCII only a few have an upper-case form
in ASCII (`Text.mem_asciiFormCodes`), and none of them but the long s occurs in that of a level.  So
an admitted level is one of the three once every long s in it is written as s
(`World.plain_of_isChoice`), and it is one of the three as it stands exactly when it is ASCII.

Only ASCII letters are lowered here.  On the admitted levels that is what the full lower-case
mapping does as well (`World.lowerBy_of_isChoice`).

Which level is kept after a run of operations is read off the events: it is the last one that the
command was given, in lines or in scripts, whatever failed afterwards.
-/
namespace DevConsole

/-! ## Characters whose upper-case form is ASCII -/

namespace Text

/-- The characters outside ASCII whose upper-case form is ASCII, by code point. -/
def asciiFormCodes : List Nat :=
  [0xDF, 0x131, 0x17F, 0xFB00, 0xFB01, 0xFB02, 0xFB03, 0xFB04, 0xFB05, 0xFB06]

/-- The list is complete for both tables of upper-case forms: it has each character whose expansion
is ASCII, and each source of a run that has a target in ASCII. -/
theorem asciiFormCodes_complete :
    (∀ e ∈ caseExpansions, (∀ m ∈ e.2, (Char.ofNat m).toNat < 0x80) → e.1 ∈ asciiFormCodes) ∧
      ∀ r ∈ caseRuns, (∃ m ∈ r.targets, (Char.ofNat m).toNat < 0x80) →
        ∀ n ∈ r.sources, n ∈ asciiFormCodes := by
  decide +kernel

/-- **Only the characters of the list have an upper-case form in ASCII** without being ASCII. -/
theorem mem_asciiFormCodes {c : Char} (hc : ¬ c.toNat < 0x80)
    (h : ∀ d ∈ upperChar c, d.toNat < 0x80) : c.toNat ∈ asciiFormCodes := by
  have hcodes : ∀ m ∈ upperCode c.toNat, (Char.ofNat m).toNat < 0x80 := by
    intro m hm
    refine h _ ?_
    rw [upperChar, if_neg hc]
    exact List.mem_map_of_mem hm
  unfold upperCode at hcodes
  cases hl : caseExpansions.lookup c.toNat with
  | some codes =>
    rw [hl] at hcodes
    exact asciiFormCodes_complete.1 _ (mem_caseExpansions_of_lookup hl) hcodes
  | none =>
    rw [hl] at hcodes
    cases hr : caseRuns.findSome? (·.image? c.toNat) with
    | none =>
      -- The character is its own upper-case form.
      rw [hr] at hcodes
      have hself := hcodes c.toNat List.mem_cons_self
      rw [Char.ofNat_toNat] at hself
      exact absurd hself hc
    | some m =>
      rw [hr] at hcodes
      obtain ⟨r, hmem, himage⟩ := List.exists_of_findSome?_eq_some hr
      obtain ⟨hsource, htarget⟩ := r.image?_eq_some himage
      have hm := hcodes m List.mem_cons_self
      exact asciiFormCodes_complete.2 r hmem ⟨m, htarget, hm⟩ _ hsource

/-- The small letter long s. -/
def longS : Char := 'ſ'

/-- The character with the long s written as s. -/
def plainChar (c : Char) : Char := if c = longS then 's' else c

/-- The text with every long s written as s. -/
def plain (s : String) : String := String.ofList (s.toList.map plainChar)

theorem upperChar_plainChar (c : Char) : upperChar (plainChar c) = upperChar c := by
  unfold plainChar
  split
  · rename_i h
    rw [h]
    decide
  · rfl

theorem upperChars_map_plainChar (cs : List Char) :
    upperChars (cs.map plainChar) = upperChars cs := by
  induction cs with
  | nil => rfl
  | cons c cs ih => rw [List.map_cons, upperChars_cons, upperChars_cons, upperChar_plainChar, ih]

theorem toLower_plainChar (c : Char) : (plainChar c).toLower = plainChar c.toLower := by
  by_cases hc : c.toNat < 0x80
  · exact of_ascii (P := fun c => (plainChar c).toLower = plainChar c.toLower) (by decide) hc
  · rw [toLower_eq_self hc]
    unfold plainChar
    split
    · rfl
    · exact toLower_eq_self hc

theorem plainChar_of_ascii {c : Char} (hc : c.toNat < 0x80) : plainChar c = c := by
  refine if_neg fun h => ?_
  rw [h] at hc
  exact absurd hc (by decide)

theorem plain_of_ascii {s : String} (h : IsAscii s) : plain s = s := by
  rw [plain, List.map_congr_left fun c hc => plainChar_of_ascii (h c hc), List.map_id',
    String.ofList_toList]

/-- The upper-case form of a character is a piece of that of the whole text. -/
theorem upperChar_infix {c : Char} {cs : List Char} (h : c ∈ cs) :
    upperChar c <:+: upperChars cs := by
  obtain ⟨before, after, rfl⟩ := List.append_of_mem h
  rw [upperChars_append, upperChars_cons]
  exact ⟨upperChars before, upperChars after, by rw [List.append_assoc]⟩

/-- The character is ASCII or the long s. -/
def IsPlainable (c : Char) : Prop := c.toNat < 0x80 ∨ c = longS

/-- A text is ASCII but for long s when its upper-case form is, and no other character has a piece
of that form. -/
theorem isPlainable_of_upper_eq {s t : String} (hascii : IsAscii (upper t))
    (hpieces : ∀ n ∈ asciiFormCodes, upperChar (Char.ofNat n) <:+: (upper t).toList →
      Char.ofNat n = longS)
    (h : upper s = upper t) : ∀ c ∈ s.toList, IsPlainable c := by
  intro c hc
  by_cases hcode : c.toNat < 0x80
  · exact Or.inl hcode
  · have hpiece : upperChar c <:+: (upper t).toList := by
      rw [← h, toList_upper]
      exact upperChar_infix hc
    have hmem := mem_asciiFormCodes hcode fun d hd => hascii d (hpiece.subset hd)
    have hlong := hpieces c.toNat hmem
    rw [Char.ofNat_toNat] at hlong
    exact Or.inr (hlong hpiece)

/-- A text that is ASCII but for long s, and has the upper-case form of an ASCII text, is that text
in lower case once every long s is written as s. -/
theorem plain_lowerAscii_of_upper_eq {s t : String} (hs : ∀ c ∈ s.toList, IsPlainable c)
    (ht : IsAscii t) (h : upper s = upper t) : plain (lowerAscii s) = lowerAscii t := by
  have hplain : ∀ c ∈ s.toList.map plainChar, c.toNat < 0x80 := by
    intro c hc
    obtain ⟨d, hd, rfl⟩ := List.mem_map.1 hc
    rcases hs d hd with hascii | rfl
    · rw [plainChar_of_ascii hascii]
      exact hascii
    · decide
  have hupper : upperChars (s.toList.map plainChar) = upperChars t.toList := by
    rw [upperChars_map_plainChar]
    exact upper_eq_upper_iff.1 h
  have hlower : (s.toList.map plainChar).map Char.toLower = t.toList.map Char.toLower := by
    rw [map_toLower_of_ascii hplain, map_toLower_of_ascii ht, hupper]
  rw [plain, lowerAscii, lowerAscii, String.toList_ofList, ← hlower, List.map_map, List.map_map]
  refine congrArg String.ofList (List.map_congr_left fun c _ => ?_)
  exact (toLower_plainChar c).symm

theorem isAscii_lowerAscii_iff {s : String} : IsAscii (lowerAscii s) ↔ IsAscii s := by
  have hsame : sameIgnoringAsciiCase s (lowerAscii s) = true := by
    refine sameIgnoringAsciiCase_iff.2 ?_
    rw [lowerAscii, lowerAscii, String.toList_ofList, List.map_map]
    refine congrArg String.ofList (List.map_congr_left fun c _ => ?_)
    by_cases hc : c.toNat < 0x80
    · exact of_ascii (P := fun c => c.toLower = (Char.toLower ∘ Char.toLower) c) (by decide) hc
    · have hself := toLower_eq_self hc
      show c.toLower = c.toLower.toLower
      rw [hself, hself]
  have hsame' : sameIgnoringAsciiCase (lowerAscii s) s = true :=
    sameIgnoringAsciiCase_iff.2 (sameIgnoringAsciiCase_iff.1 hsame).symm
  exact ⟨fun h => h.of_same hsame', fun h => h.of_same hsame⟩

/-! ## The full lower-case mapping -/

/-- The lower-case form of what comes after some characters, by the full mapping.  What that needs
to know outside ASCII is given: `form` has the lower-case form of each character, and `final` tells
whether a capital sigma ends a word, from what stands before it and after it. -/
def lowerCharsAfter (form : Char → List Char) (final : List Char → List Char → Bool) :
    List Char → List Char → List Char
  | _, [] => []
  | before, c :: after =>
    (if c.toNat < 0x80 then [c.toLower]
      else if c = 'Σ' then [if final before after then 'ς' else 'σ']
      else form c) ++ lowerCharsAfter form final (before ++ [c]) after

/-- The lower-case form of a text, by the full mapping. -/
def lowerBy (form : Char → List Char) (final : List Char → List Char → Bool) (s : String) :
    String :=
  String.ofList (lowerCharsAfter form final [] s.toList)

/-- A text that is ASCII but for long s has only ASCII letters to lower. -/
theorem lowerBy_eq_lowerAscii {form : Char → List Char} {final : List Char → List Char → Bool}
    (hlong : form longS = [longS]) {s : String} (hs : ∀ c ∈ s.toList, IsPlainable c) :
    lowerBy form final s = lowerAscii s := by
  have hchars : ∀ before,
      lowerCharsAfter form final before s.toList = s.toList.map Char.toLower := by
    generalize s.toList = cs at hs
    induction cs with
    | nil => exact fun _ => rfl
    | cons c cs ih =>
      intro before
      obtain ⟨hc, hcs⟩ := List.forall_mem_cons.1 hs
      rw [lowerCharsAfter, ih hcs, List.map_cons]
      rcases hc with hascii | rfl
      · rw [if_pos hascii, List.singleton_append]
      · have hcode : ¬ longS.toNat < 0x80 := by decide
        have hsigma : longS ≠ 'Σ' := by decide
        rw [if_neg hcode, if_neg hsigma, hlong, List.singleton_append, toLower_eq_self hcode]
  rw [lowerBy, lowerAscii, hchars]

end Text

/-! ## Levels -/

namespace World

/-- The levels of difficulty. -/
def levels : List String := ["easy", "normal", "hard"]

theorem isAscii_of_mem_levels : ∀ level ∈ levels, Text.IsAscii level := by decide

theorem lowerAscii_of_mem_levels : ∀ level ∈ levels, Text.lowerAscii level = level := by
  decide

/-- The upper-case forms of the levels are ASCII, and long s is the only other character that has a
piece of one of them. -/
theorem upper_levels : ∀ level ∈ levels,
    Text.IsAscii (Text.upper level) ∧
      ∀ n ∈ Text.asciiFormCodes, Text.upperChar (Char.ofNat n) <:+: (Text.upper level).toList →
        Char.ofNat n = Text.longS := by
  decide +kernel

variable {token : String}

/-- **An admitted level is one of the three, in lower case and with every long s written as s.** -/
theorem plain_of_isChoice (h : Coercion.isChoice levels token = true) :
    (∀ c ∈ token.toList, Text.IsPlainable c) ∧
      Text.plain (Text.lowerAscii token) ∈ levels := by
  obtain ⟨level, hlevel, hup⟩ := List.any_eq_true.1 h
  have hupper : Text.upper token = Text.upper level := (beq_iff_eq.1 hup).symm
  obtain ⟨hascii, hpieces⟩ := upper_levels level hlevel
  have hplainable := Text.isPlainable_of_upper_eq hascii hpieces hupper
  refine ⟨hplainable, ?_⟩
  rw [Text.plain_lowerAscii_of_upper_eq hplainable (isAscii_of_mem_levels level hlevel) hupper,
    lowerAscii_of_mem_levels level hlevel]
  exact hlevel

/-- The lower case of an admitted level that the command keeps is that of the full mapping, in which
long s is a lower-case letter. -/
theorem lowerBy_of_isChoice {form : Char → List Char} (final : List Char → List Char → Bool)
    (hlong : form Text.longS = [Text.longS]) (h : Coercion.isChoice levels token = true) :
    Text.lowerBy form final token = Text.lowerAscii token :=
  Text.lowerBy_eq_lowerAscii hlong (plain_of_isChoice h).1

example : Text.lowerBy (fun c => [c]) (fun _ _ => true) "EAſY" = "eaſy" := by decide

/-- It is one of the three as it stands exactly when it is ASCII. -/
theorem lowerAscii_mem_levels_iff (h : Coercion.isChoice levels token = true) :
    Text.lowerAscii token ∈ levels ↔ Text.IsAscii token := by
  rw [← Text.isAscii_lowerAscii_iff]
  constructor
  · exact isAscii_of_mem_levels _
  · intro hascii
    have hplain := (plain_of_isChoice h).2
    rwa [Text.plain_of_ascii hascii] at hplain

end World

/-! ## Levels in a trace -/

/-- The level that the command `difficulty` is given in an event. -/
def Event.level? : Event → Option String
  | invoked signature (.string level :: _) _ =>
    if signature.name = "difficulty" then some level else none
  | _ => none

/-- The levels that the command `difficulty` is given in a trace, in order. -/
def Event.levels (trace : List Event) : List String := trace.filterMap level?

theorem Event.level?_eq_some {event : Event} {level : String} (h : event.level? = some level) :
    ∃ signature rest depth, event = .invoked signature (.string level :: rest) depth ∧
      signature.name = "difficulty" := by
  unfold level? at h
  split at h
  · rename_i signature level' rest depth
    split at h
    · rename_i hname
      cases h
      exact ⟨signature, rest, depth, rfl, hname⟩
    · cases h
  · cases h

namespace World

theorem difficulty_receive (w : World) (event : Event) :
    (w.receive event).difficulty = (event.level?.map Text.lowerAscii).getD w.difficulty := by
  cases event with
  | noted | appended | cleared | opened => rfl
  | invoked signature arguments depth =>
    rw [receive]
    by_cases hname : signature.name = "difficulty"
    · rw [hname]
      match arguments with
      | [] | .int _ :: _ | .float _ :: _ | .bool _ :: _ => rfl
      | .string level :: rest =>
        rw [Event.level?, if_pos hname]
        rfl
    · have hnone : (Event.invoked signature arguments depth).level? = none := by
        unfold Event.level?
        split
        · rename_i heq
          cases heq
          exact if_neg hname
        · rfl
      rw [hnone]
      unfold invoke
      split
      · split <;> rfl
      · rfl
      · rename_i heq
        exact absurd heq hname
      · rfl

/-- **The difficulty is the last level of a trace**, in lower case, or what it was without any. -/
theorem difficulty_replay (w : World) (trace : List Event) :
    (w.replay trace).difficulty =
      ((Event.levels trace).getLast?.map Text.lowerAscii).getD w.difficulty := by
  induction trace generalizing w with
  | nil => rfl
  | cons event trace ih =>
    have hlast := difficulty_receive w event
    rw [replay_cons, ih, hlast, Event.levels, Event.levels]
    cases hlevel : event.level? with
    | none => rw [List.filterMap_cons_none hlevel]; rfl
    | some level =>
      rw [List.filterMap_cons_some hlevel, List.getLast?_cons]
      cases (trace.filterMap Event.level?).getLast? <;> rfl

theorem signature_of_name :
    ∀ s ∈ ((Builtin.all ++ commands : List (Command World Scrollback)).map Command.signature),
      s.name = "difficulty" → s = (setDifficulty : Command World Scrollback).signature := by
  decide

/-- The command fits one of the levels, and gets it as it was read. -/
theorem fits_setDifficulty {catalogue : Catalogue} {tokens : List String} {level : String}
    {rest : List Value}
    (h : (setDifficulty : Command World Scrollback).signature.Fits catalogue tokens
      (.string level :: rest)) :
    Coercion.isChoice levels level = true := by
  unfold Signature.Fits at h
  generalize tokens.tail = ts at h
  have harity : ts.length = 1 := h.arity.symm
  match ts, harity with
  | [token], _ =>
    obtain ⟨hcoerce, -⟩ := coerced_cons_iff.1 h
    obtain ⟨hadmits, hvalue⟩ := (Parameter.coerce_string_eq_ok rfl).1 hcoerce
    cases hvalue
    exact hadmits

/-- **Every level that the command is given is admitted.** -/
theorem isChoice_of_mem_levels {r : Registry World Scrollback} {trace : List Event}
    (hr : r.OfWorld) (h : r.Justifies trace) :
    ∀ level ∈ Event.levels trace, Coercion.isChoice levels level = true := by
  intro level hlevel
  obtain ⟨event, hin, hlevel⟩ := List.mem_filterMap.1 hlevel
  obtain ⟨signature, rest, depth, rfl, hname⟩ := Event.level?_eq_some hlevel
  obtain ⟨line, c, hline, rfl⟩ := h _ _ _ hin
  have hc : c.signature ∈
      (Builtin.all ++ commands : List (Command World Scrollback)).map Command.signature := by
    rw [← hr]
    exact List.mem_map_of_mem (Registry.mem_commands_of_selected hline)
  obtain ⟨-, -, -, -, hfits⟩ := Registry.resolve_eq_selected.1 hline
  rw [signature_of_name _ hc hname] at hfits
  exact fits_setDifficulty hfits

end World

/-! ## Operations -/

namespace Console

/-- The difficulty after some levels were given: the last of them in lower case, `normal` if there
are none. -/
def difficultyAfter (levels : List String) : String :=
  (levels.getLast?.map Text.lowerAscii).getD "normal"

theorem difficultyAfter_mem {levels : List String}
    (h : ∀ level ∈ levels, Coercion.isChoice World.levels level = true) :
    Text.plain (difficultyAfter levels) ∈ World.levels ∧
      (difficultyAfter levels ∈ World.levels ↔ ∀ level ∈ levels.getLast?, Text.IsAscii level) := by
  unfold difficultyAfter
  cases hlast : levels.getLast? with
  | none =>
    refine ⟨by decide, iff_of_true (by decide) fun level hlevel => ?_⟩
    cases hlevel
  | some level =>
    have hchoice := h level (List.mem_of_getLast? hlast)
    refine ⟨(World.plain_of_isChoice hchoice).2, ?_⟩
    rw [Option.map_some, Option.getD_some, World.lowerAscii_mem_levels_iff hchoice]
    simp

/-- **The difficulty is one of its levels exactly when the last one given is ASCII.**  After any
operations on a new console with the commands of the world, the difficulty is the last level that
`difficulty` was given, in lower case, in whatever lines and scripts that was and whatever failed
afterwards.  Every level that it is given is one of the choices, and ASCII but for long s; so the
difficulty is `easy`, `normal` or `hard` once every long s is written as s, and it is one of them
as it stands exactly when the level was ASCII. -/
theorem difficulty_of_last_level (config : Config) (scripts : ScriptDirectory)
    (ops : List Operation) :
    let console := ((Console.new config scripts {}).registerAll World.commands).1
    let after := console.operateAll ops
    let given := Event.levels after.2
    let difficulty := after.1.env.host.difficulty
    difficulty = (given.getLast?.map Text.lowerAscii).getD "normal" ∧
      (∀ level ∈ given, Coercion.isChoice ["easy", "normal", "hard"] level = true ∧
        ∀ c ∈ level.toList, c.toNat < 0x80 ∨ c = 'ſ') ∧
      Text.plain difficulty ∈ ["easy", "normal", "hard"] ∧
      (difficulty ∈ ["easy", "normal", "hard"] ↔ ∀ level ∈ given.getLast?, Text.IsAscii level) := by
  intro console after given difficulty
  have hworld : console.registry.OfWorld := ofWorld_registerAll config scripts {}
  obtain ⟨hhost, hjustified⟩ := operateAll_replays hworld ops
  have hchoice := World.isChoice_of_mem_levels hworld hjustified
  have hdifficulty : difficulty = difficultyAfter given := by
    show after.1.env.host.difficulty = _
    rw [hhost, World.difficulty_replay]
    rfl
  obtain ⟨hplain, hascii⟩ := difficultyAfter_mem hchoice
  rw [← hdifficulty] at hplain hascii
  refine ⟨hdifficulty, fun level hlevel => ⟨hchoice level hlevel, ?_⟩, hplain, hascii⟩
  exact (World.plain_of_isChoice (hchoice level hlevel)).1

/-- A script sets the difficulty before it fails, and what it set stays. -/
theorem difficulty_of_last_level_script :
    let scripts : ScriptDirectory := ⟨"", .entries [⟨"a.exec", .text "difficulty HARD\nnosuch"⟩]⟩
    let console := ((Console.new {} scripts {}).registerAll World.commands).1
    let after := console.operateAll [.execute "difficulty easy", .execute "exec a"]
    Event.levels after.2 = ["easy", "HARD"] ∧ after.1.env.host.difficulty = "hard" ∧
      (after.1.env.host.difficulty ∈ ["easy", "normal", "hard"] ↔
        ∀ level ∈ (Event.levels after.2).getLast?, Text.IsAscii level) := by
  obtain ⟨hdifficulty, -, -, hascii⟩ := difficulty_of_last_level {}
    ⟨"", .entries [⟨"a.exec", .text "difficulty HARD\nnosuch"⟩]⟩
    [.execute "difficulty easy", .execute "exec a"]
  refine ⟨by decide +kernel, ?_, hascii⟩
  rw [hdifficulty]
  decide +kernel

/-- With a long s `eaſy` is admitted as a level, and the difficulty is then none of the three. -/
theorem difficulty_long_s :
    let console := ((Console.new {} ⟨"", .missing⟩ {}).registerAll World.commands).1
    let after := (console.operateAll [.execute "difficulty eaſy"]).1
    (console.execute "difficulty eaſy").1.toOption = some none ∧
      after.env.host.difficulty = "eaſy" ∧
      after.env.host.difficulty ∉ ["easy", "normal", "hard"] := by
  decide +kernel

end Console

end DevConsole
