import DevConsole.Console
import DevConsole.Proofs.RegistrationOrder
import DevConsole.Proofs.ScriptLines
import Mathlib.Data.List.TakeWhile

/-! # Where the hint at the help leads

The failure of a line that matches no overload says what to type for help: `help` and the word
that the line begins with.  That leads to help on every candidate of the line
(`Console.hint_leads_to_help`), although the word is read in three ways.  The failure cuts it off
the line in upper case at the first space.  Where the line with `help` is read, the word loses the
blanks at its end and all its quotes, and `\N` in it becomes a newline (`Tokens.ofWord`).  And the
help brings what is left to upper case once more and looks for names in it on its own.

The names of commands have none of the characters that this is about (`Tokens.Inert`), and
upper-casing makes none of them.  So a name that begins the line begins what every one of these
steps leaves (`Registry.answers_ofWord`).  The converse holds for a word without quotes and
backslashes (`Registry.answers_ofWord_iff`).  With them the help may know more than the line:
`greet"er` has the candidate `greet`, and the help on it also tells about `greeter`.
-/
namespace DevConsole

namespace Text

/-! ## Upper case and backslashes -/

/-- Upper-casing makes no backslashes. -/
theorem backslash_not_mem_upperChar {c : Char} (hc : c ≠ '\\') : '\\' ∉ upperChar c :=
  not_mem_upperChar (by decide +kernel) (by decide) hc

/-- What stands in an upper-case text is in upper case. -/
theorem upperChar_of_mem_upperChars {c : Char} {cs : List Char} (h : c ∈ upperChars cs) :
    upperChar c = [c] := by
  obtain ⟨d, -, hd⟩ := List.mem_flatMap.1 h
  rcases upperChar_settled d with hstays | hsettled
  · rw [hstays, List.mem_singleton] at hd
    rw [hd, hstays]
  · exact (hsettled c hd).upperChar_eq

theorem upperChars_eq_self {cs : List Char} (h : ∀ c ∈ cs, upperChar c = [c]) :
    upperChars cs = cs := by
  induction cs with
  | nil => rfl
  | cons c cs ih =>
    obtain ⟨hc, hcs⟩ := List.forall_mem_cons.1 h
    rw [upperChars_cons, hc, ih hcs, List.singleton_append]

theorem upperChars_prefix {p cs : List Char} (h : p <+: cs) : upperChars p <+: upperChars cs := by
  obtain ⟨rest, rfl⟩ := h
  rw [upperChars_append]
  exact List.prefix_append _ _

/-- What stands before a text that is not blank throughout stays at its place. -/
theorem trimEnd_append {ds : List Char} (h : trimEnd ds ≠ []) (cs : List Char) :
    trimEnd (cs ++ ds) = cs ++ trimEnd ds := by
  have hleft : ¬ (ds.reverse.dropWhile isBlank).isEmpty = true := by
    rw [List.isEmpty_iff]
    intro hnil
    exact h (by rw [trimEnd, hnil, List.reverse_nil])
  rw [trimEnd, List.reverse_append, List.dropWhile_append, if_neg hleft, List.reverse_append,
    List.reverse_reverse, trimEnd]

end Text

namespace Tokens

/-! ## Beginnings that reading leaves alone -/

/-- Characters that mean nothing where a line is read: no blanks, no quotes and no backslashes. -/
structure Inert (cs : List Char) : Prop where
  no_blank : ∀ c ∈ cs, Text.isBlank c = false
  no_quote : ∀ c ∈ cs, isQuote c = false
  no_backslash : '\\' ∉ cs

/-- A name of a command that a line can give: not empty, and inert. -/
structure IsName (name : String) : Prop where
  nonempty : name ≠ ""
  inert : Inert name.toList

theorem inert_iff {cs : List Char} :
    (cs.all fun c => !Text.isBlank c && !isQuote c && c != '\\') = true ↔ Inert cs := by
  rw [List.all_eq_true]
  constructor
  · intro h
    have hall : ∀ c ∈ cs, (Text.isBlank c = false ∧ isQuote c = false) ∧ c ≠ '\\' := by
      simpa using h
    exact ⟨fun c hc => (hall c hc).1.1, fun c hc => (hall c hc).1.2, fun hin => (hall _ hin).2 rfl⟩
  · intro h c hc
    have hbackslash : c ≠ '\\' := fun heq => h.no_backslash (heq ▸ hc)
    simp [h.no_blank c hc, h.no_quote c hc, hbackslash]

-- By running through the characters there are, not through all that could be.
instance (cs : List Char) : Decidable (Inert cs) := decidable_of_iff _ inert_iff

instance (name : String) : Decidable (IsName name) :=
  decidable_of_iff (name ≠ "" ∧ Inert name.toList)
    ⟨fun ⟨hne, hinert⟩ => ⟨hne, hinert⟩, fun h => ⟨h.nonempty, h.inert⟩⟩

theorem Inert.upperChars {cs : List Char} (h : Inert cs) : Inert (Text.upperChars cs) := by
  refine ⟨fun d hd => ?_, fun d hd => ?_, fun hd => ?_⟩
  · obtain ⟨c, hc, hdc⟩ := List.mem_flatMap.1 hd
    exact Text.isBlank_of_mem_upperChar hdc (h.no_blank c hc)
  · obtain ⟨c, hc, hdc⟩ := List.mem_flatMap.1 hd
    exact Text.absent_of_mem_upperChar (fun _ hs => hs.not_quote) hdc (h.no_quote c hc)
  · obtain ⟨c, hc, hdc⟩ := List.mem_flatMap.1 hd
    exact Text.backslash_not_mem_upperChar (fun heq => h.no_backslash (heq ▸ hc)) hdc

theorem unescape_append {cs : List Char} (h : '\\' ∉ cs) (rest : List Char) :
    unescape (cs ++ rest) = cs ++ unescape rest :=
  unescape_append_of_no_escape (fun hin => h (hin.subset List.mem_cons_self)) fun hlast =>
    absurd (List.mem_of_getLast? hlast) h

section Beginnings

variable {p cs : List Char}

theorem Inert.prefix_takeWhile (h : Inert p) (hp : p <+: cs) : p <+: cs.takeWhile (· != ' ') := by
  obtain ⟨rest, rfl⟩ := hp
  have hspace : ∀ c ∈ p, (c != ' ') = true := by
    intro c hc
    rw [bne_iff_ne]
    rintro rfl
    exact absurd (h.no_blank ' ' hc) (by decide)
  rw [List.takeWhile_append_of_pos hspace]
  exact List.prefix_append _ _

theorem Inert.trimStart_eq (h : Inert p) (hne : p ≠ []) (hp : p <+: cs) :
    Text.trimStart cs = cs := by
  obtain ⟨rest, rfl⟩ := hp
  obtain ⟨c, p, rfl⟩ := List.exists_cons_of_ne_nil hne
  exact Text.trimStart_cons_of_not_blank (h.no_blank c List.mem_cons_self) _

theorem Inert.prefix_trimEnd (h : Inert p) (hp : p <+: cs) : p <+: Text.trimEnd cs := by
  obtain ⟨rest, rfl⟩ := hp
  have hback : p.reverse.dropWhile Text.isBlank = p.reverse :=
    Text.trimStart_eq_self fun c hc => h.no_blank c (List.mem_reverse.1 (List.mem_of_mem_head? hc))
  -- From the end, either the whole rest is blank or something of it is left.
  rw [Text.trimEnd, List.reverse_append, List.dropWhile_append, hback]
  split
  · exact (List.reverse_reverse p).symm ▸ List.prefix_rfl
  · rw [List.reverse_append, List.reverse_reverse]
    exact List.prefix_append _ _

theorem Inert.prefix_trimChars (h : Inert p) (hne : p ≠ []) (hp : p <+: cs) :
    p <+: Text.trimChars cs := by
  rw [Text.trimChars, h.trimStart_eq hne hp]
  exact h.prefix_trimEnd hp

theorem Inert.prefix_clean (h : Inert p) (hne : p ≠ []) (hp : p <+: cs) : p <+: clean cs := by
  have hfilter : p.filter (fun c => !isQuote c) = p :=
    List.filter_eq_self.2 fun c hc => by rw [h.no_quote c hc, Bool.not_false]
  have hkept := hp.filter fun c => !isQuote c
  rw [hfilter] at hkept
  obtain ⟨rest, hrest⟩ := hkept
  rw [clean, h.trimStart_eq hne hp, ← hrest, unescape_append h.no_backslash]
  exact List.prefix_append _ _

end Beginnings

/-- A token without quotes and backslashes is what it was. -/
theorem clean_eq_self {cs : List Char} (hstart : Text.trimStart cs = cs)
    (h : ∀ c ∈ cs, isQuote c = false ∧ c ≠ '\\') : clean cs = cs := by
  have hfilter : cs.filter (fun c => !isQuote c) = cs :=
    List.filter_eq_self.2 fun c hc => by rw [(h c hc).1, Bool.not_false]
  have hbackslash : '\\' ∉ cs := fun hin => (h _ hin).2 rfl
  have hunescape := unescape_append hbackslash []
  rw [List.append_nil, unescape, List.append_nil] at hunescape
  rw [clean, hstart, hfilter, hunescape]

/-- The token that a word becomes at the end of a line. -/
def ofWord (word : String) : String := String.ofList (clean (Text.trimEnd word.toList))

end Tokens

namespace Registry

open Tokens (Inert IsName)

variable {Host Out : Type} {s : Signature} {line : String}

/-! ## Names in the word of a failure -/

theorem toList_commandName (line : String) :
    (commandName line).toList = (normalize line).toList.takeWhile (· != ' ') :=
  String.toList_ofList

theorem upperChars_name_ne_nil (hs : IsName s.name) : Text.upperChars s.name.toList ≠ [] := by
  rw [Ne, Text.upperChars_eq_nil, String.toList_eq_nil_iff]
  exact hs.nonempty

/-- A name that begins a line begins the word by which failures name the line. -/
theorem prefix_commandName (hs : IsName s.name) (h : answers s (normalize line) = true) :
    Text.upperChars s.name.toList <+: (commandName line).toList := by
  rw [answers, Text.begins_iff, Text.toList_upper] at h
  rw [toList_commandName]
  exact hs.inert.upperChars.prefix_takeWhile h

/-- **A name that begins a line begins the token that the help is given.** -/
theorem answers_ofWord (hs : IsName s.name) (h : answers s (normalize line) = true) :
    answers s (normalize (Tokens.ofWord (commandName line))) = true := by
  have hinert := hs.inert.upperChars
  have hne := upperChars_name_ne_nil hs
  have hword := hinert.prefix_trimEnd (prefix_commandName hs h)
  have htoken := hinert.prefix_trimChars hne (hinert.prefix_clean hne hword)
  rw [answers, Text.begins_iff, normalize, Text.toList_upper, Text.toList_upper, Text.toList_trim,
    Tokens.ofWord, String.toList_ofList, ← Text.upperChars_upperChars]
  exact Text.upperChars_prefix htoken

/-- A word that some name begins starts with a character that is not blank. -/
theorem trimStart_commandName (hs : IsName s.name) (h : answers s (normalize line) = true) :
    Text.trimStart (commandName line).toList = (commandName line).toList :=
  hs.inert.upperChars.trimStart_eq (upperChars_name_ne_nil hs) (prefix_commandName hs h)

/-- Without quotes and backslashes the help looks for names in the word itself, the blanks at its
end apart. -/
theorem normalize_ofWord
    (hstart : Text.trimStart (commandName line).toList = (commandName line).toList)
    (hplain : ∀ c ∈ (commandName line).toList, Tokens.isQuote c = false ∧ c ≠ '\\') :
    (normalize (Tokens.ofWord (commandName line))).toList =
      Text.trimEnd (commandName line).toList := by
  have hstem := Text.trimEnd_prefix (commandName line).toList
  have htrimmed : Text.trimStart (Text.trimEnd (commandName line).toList) =
      Text.trimEnd (commandName line).toList := by
    refine Text.trimStart_trimEnd ?_
    rw [← hstart]
    exact Text.head_trimStart _
  have hupper : ∀ c ∈ Text.trimEnd (commandName line).toList, Text.upperChar c = [c] := by
    intro c hc
    have hin : c ∈ (normalize line).toList := by
      have hword := hstem.subset hc
      rw [toList_commandName] at hword
      exact (List.takeWhile_prefix _).subset hword
    rw [normalize, Text.toList_upper] at hin
    exact Text.upperChar_of_mem_upperChars hin
  rw [normalize, Text.toList_upper, Text.toList_trim, Tokens.ofWord, String.toList_ofList,
    Tokens.clean_eq_self htrimmed fun c hc => hplain c (hstem.subset hc), Text.trimChars,
    htrimmed, Text.trimEnd_trimEnd, Text.upperChars_eq_self hupper]

/-- **Without quotes and backslashes the help finds the names that begin the line and no
others.** -/
theorem answers_ofWord_iff (hs : IsName s.name)
    (hstart : Text.trimStart (commandName line).toList = (commandName line).toList)
    (hplain : ∀ c ∈ (commandName line).toList, Tokens.isQuote c = false ∧ c ≠ '\\') :
    answers s (normalize (Tokens.ofWord (commandName line))) = true ↔
      answers s (normalize line) = true := by
  refine ⟨fun h => ?_, answers_ofWord hs⟩
  rw [answers, Text.begins_iff] at h ⊢
  rw [normalize_ofWord hstart hplain] at h
  have hword := h.trans (Text.trimEnd_prefix _)
  rw [toList_commandName] at hword
  exact hword.trans (List.takeWhile_prefix _)

/-- Every command has a name that a line can give. -/
def Named (r : Registry Host Out) : Prop := ∀ c ∈ r.commands, IsName c.signature.name

variable {r : Registry Host Out}

/-- All candidates of a line are found by the help, in their order. -/
theorem candidates_sublist_ofWord (hr : r.Named) (line : String) :
    (r.candidates line).Sublist (r.candidates (Tokens.ofWord (commandName line))) := by
  have hboth : r.candidates line = (r.candidates (Tokens.ofWord (commandName line))).filter
      fun c => answers c.signature (normalize line) := by
    rw [candidates, candidates, List.filter_filter]
    refine List.filter_congr fun c hc => ?_
    cases h : answers c.signature (normalize line) with
    | false => rfl
    | true => rw [answers_ofWord (hr c hc) h, Bool.and_self]
  rw [hboth]
  exact List.filter_sublist

theorem candidates_ofWord (hr : r.Named)
    (hstart : Text.trimStart (commandName line).toList = (commandName line).toList)
    (hplain : ∀ c ∈ (commandName line).toList, Tokens.isQuote c = false ∧ c ≠ '\\') :
    r.candidates (Tokens.ofWord (commandName line)) = r.candidates line := by
  refine List.filter_congr fun c hc => ?_
  exact Bool.eq_iff_iff.2 (answers_ofWord_iff (hr c hc) hstart hplain)

/-! ## The line that asks for help -/

section Asking

variable {word : String}

/-- Only blanks at the end of the word are trimmed. -/
theorem toList_trim_asking (hne : Text.trimEnd word.toList ≠ []) :
    (Text.trim ("help " ++ word)).toList =
      "help".toList ++ ' ' :: Text.trimEnd word.toList := by
  have hstart : Text.trimStart ("help " ++ word).toList = "help ".toList ++ word.toList := by
    rw [String.toList_append]
    exact Text.trimStart_cons_of_not_blank (by decide) _
  rw [Text.toList_trim, Text.trimChars, hstart, Text.trimEnd_append hne]
  rfl

/-- The word becomes the one token after the first. -/
theorem tail_tokens_asking (hne : Text.trimEnd word.toList ≠ []) (hspace : ' ' ∉ word.toList) :
    (tokens ("help " ++ word)).tail = [Tokens.ofWord word] := by
  have hhelp : Tokens.segments false "help".toList = ["help".toList] := rfl
  have hword : ' ' ∉ Text.trimEnd word.toList := fun hin =>
    hspace ((Text.trimEnd_prefix _).subset hin)
  rw [tokens, Tokens.ofLine, toList_trim_asking hne, Tokens.segments_append rfl, hhelp,
    Tokens.segments_of_no_space hword]
  rfl

variable [Sink Out]

/-- No line is for `help` and for a built-in command that was registered before it. -/
theorem not_comparable_help {c : Command Host Out} (hc : c ∈ Builtin.all.take 6) :
    ¬ c.signature.Comparable (Builtin.help : Command Host Out).signature := by
  have hnames : (Builtin.all.take 6).map (fun c : Command Host Out => c.signature.name) =
      ["get_keycode", "exec", "print", "print", "print", "set_tooltip"] := rfl
  have hname := List.mem_map_of_mem (f := fun c : Command Host Out => c.signature.name) hc
  have hhelp : (Builtin.help : Command Host Out).signature.name = "help" := rfl
  rw [hnames] at hname
  rw [Signature.Comparable, hhelp]
  generalize c.signature.name = name at hname
  revert name
  decide +kernel

/-- The line selects `help`, whatever the host has registered. -/
theorem resolve_asking {own : List (Command Host Out)} (hr : r.commands = Builtin.all ++ own)
    (hne : Text.trimEnd word.toList ≠ []) (hspace : ' ' ∉ word.toList) :
    r.resolve ("help " ++ word) = .selected Builtin.help [.string (Tokens.ofWord word)] := by
  have hhelp : answers (Builtin.help : Command Host Out).signature
      (normalize ("help " ++ word)) = true := by
    have hname : (Builtin.help : Command Host Out).signature.name = "help" := rfl
    rw [answers, hname, Text.begins_iff, normalize, Text.toList_upper, Text.toList_upper,
      toList_trim_asking hne, Text.upperChars_append]
    exact List.prefix_append _ _
  have hearlier : ∀ c ∈ Builtin.all.take 6,
      ¬ answers (c : Command Host Out).signature (normalize ("help " ++ word)) = true :=
    fun c hc hanswers => not_comparable_help hc (comparable_of_answers hanswers hhelp)
  have hcandidates : ∃ later, r.candidates ("help " ++ word) = Builtin.help :: later := by
    have hsplit : r.commands =
        Builtin.all.take 6 ++ Builtin.help :: (Builtin.all.drop 7 ++ own) := by
      rw [hr]
      rfl
    rw [candidates, hsplit, List.filter_append, List.filter_eq_nil_iff.2 hearlier,
      List.nil_append, List.filter_cons, if_pos hhelp]
    exact ⟨_, rfl⟩
  obtain ⟨later, hlater⟩ := hcandidates
  refine resolve_eq_selected.2 ⟨[], later, hlater, fun d hd => absurd hd List.not_mem_nil, ?_⟩
  rw [Signature.Fits, tail_tokens_asking hne hspace]
  exact Binding.ofTokens_eq_bound.1 rfl

end Asking

end Registry

/-! ## What the help prints -/

/-- The lines that texts in colors make. -/
def Line.ofTexts (texts : List (String × Color)) : List Line :=
  texts.flatMap fun (text, color) => ofText text color

theorem Line.color_of_mem_ofText {l : Line} {text : String} {color : Color}
    (h : l ∈ ofText text color) : l.color = color := by
  obtain ⟨piece, -, rfl⟩ := List.mem_map.1 h
  rfl

namespace Builtin

variable {Host Out : Type}

/-- The help blocks of commands, the first one under its name and all others as overloads. -/
def blocks (first : Command Host Out) (rest : List (Command Host Out)) : List (String × Color) :=
  helpBlock true first.signature ++ rest.flatMap fun c => helpBlock false c.signature

/-- **The help looks for names as dispatch does.** -/
theorem helpOn_eq {r : Registry Host Out} {name : String} {first : Command Host Out}
    {rest : List (Command Host Out)} (h : r.candidates name = first :: rest) :
    helpOn r.catalogue name = blocks first rest := by
  have hfound : r.catalogue.filter (fun s => Registry.answers s (Registry.normalize name)) =
      (r.candidates name).map Command.signature := by
    unfold Registry.catalogue Registry.candidates
    rw [List.filter_map]
    simp only [Function.comp_def]
  rw [h, List.map_cons] at hfound
  rw [helpOn, hfound]
  dsimp only
  rw [helpBlocks, List.flatMap_map, blocks]

/-- Nothing in a help block is red. -/
theorem color_ne_red_of_mem_helpBlock {isFirst : Bool} {s : Signature} {t : String × Color}
    (h : t ∈ helpBlock isFirst s) : t.2 ≠ .red := by
  have hcolor : t.2 ∈ [Color.white, .gold, .aqua] := by
    unfold helpBlock at h
    cases hreturns : s.returns with
    | none =>
      rw [hreturns] at h
      simp only [Option.elim_none, List.append_nil, List.mem_append, List.mem_cons,
        List.not_mem_nil, or_false] at h
      rcases h with (rfl | rfl | rfl | rfl) | rfl <;> simp
    | some kind =>
      rw [hreturns] at h
      simp only [Option.elim_some, List.mem_append, List.mem_cons, List.not_mem_nil,
        or_false] at h
      rcases h with ((rfl | rfl | rfl | rfl) | rfl) | rfl <;> simp
  intro hred
  rw [hred] at hcolor
  exact absurd hcolor (by decide)

theorem color_ne_red_of_mem_blocks {first : Command Host Out} {rest : List (Command Host Out)}
    {l : Line} (h : l ∈ Line.ofTexts (blocks first rest)) : l.color ≠ .red := by
  obtain ⟨t, ht, hl⟩ := List.mem_flatMap.1 h
  rw [Line.color_of_mem_ofText hl]
  rcases List.mem_append.1 ht with hfirst | hrest
  · exact color_ne_red_of_mem_helpBlock hfirst
  · obtain ⟨c, -, hc⟩ := List.mem_flatMap.1 hrest
    exact color_ne_red_of_mem_helpBlock hc

variable [Sink Out]

theorem run_appendAll (texts : List (String × Color)) (env : Environment Host Out) :
    ((appendAll texts : Action Host Out Unit) env).result = .ok () ∧
      Sink.lines ((appendAll texts : Action Host Out Unit) env).env.out =
        Sink.lines env.out ++ Line.ofTexts texts := by
  induction texts generalizing env with
  | nil => exact ⟨rfl, (List.append_nil _).symm⟩
  | cons t rest ih =>
    obtain ⟨text, color⟩ := t
    have hout : ((Action.append text color : Action Host Out Unit) env).env.out =
        Sink.append text color env.out := Sink.receiveAll_noted _ _
    obtain ⟨hresult, hlines⟩ := ih ((Action.append text color : Action Host Out Unit) env).env
    rw [appendAll, Action.run_bind_ok (a := ()) rfl]
    refine ⟨hresult, ?_⟩
    rw [hout, Sink.lines_append, List.append_assoc] at hlines
    exact hlines

/-- **The help on a name prints the blocks of the commands whose names begin it.** -/
theorem run_help {r : Registry Host Out} {name : String} {first : Command Host Out}
    {rest : List (Command Host Out)} (h : r.candidates name = first :: rest)
    (env : Environment Host Out) :
    (help.body r.interpreter [.string name] env).result = .ok none ∧
      Sink.lines (help.body r.interpreter [.string name] env).env.out =
        Sink.lines env.out ++ Line.ofTexts (blocks first rest) := by
  obtain ⟨hresult, hlines⟩ := run_appendAll (blocks first rest) env
  have hbody : (help.body r.interpreter [.string name] : Action Host Out (Option Value)) =
      appendAll (blocks first rest) >>= fun _ => pure none := by
    rw [← helpOn_eq h]
    rfl
  rw [hbody, Action.run_bind_ok hresult]
  exact ⟨rfl, hlines⟩

/-- Lines can give the names of all built-in commands. -/
theorem isName_of_mem_all {c : Command Host Out} (hc : c ∈ all) :
    Tokens.IsName c.signature.name := by
  have hnames : (all : List (Command Host Out)).map (fun c => c.signature.name) =
      ["get_keycode", "exec", "print", "print", "print", "set_tooltip", "help", "help", "commands",
        "reload_resources", "quit", "draw_colliders", "draw_colliders", "draw_fps", "draw_fps",
        "clear_console"] := rfl
  have hname := List.mem_map_of_mem (f := fun c : Command Host Out => c.signature.name) hc
  rw [hnames] at hname
  generalize c.signature.name = name at hname
  revert name
  decide +kernel

end Builtin

namespace Registry

variable {Host Out : Type} {r : Registry Host Out} {own : List (Command Host Out)}
  {line n : String}

theorem of_resolve_unmatched (h : r.resolve line = .unmatched n) :
    n = commandName line ∧ r.candidates line ≠ [] := by
  unfold resolve at h
  rw [candidates_normalize] at h
  split at h
  · cases h
  · rename_i hne
    split at h
    · cases h
    · exact ⟨(Resolution.unmatched.inj h).symm, hne⟩

variable [Sink Out]

theorem named_of_own (hr : r.commands = Builtin.all ++ own)
    (hown : ∀ c ∈ own, Tokens.IsName c.signature.name) : r.Named := by
  intro c hc
  rw [hr] at hc
  rcases List.mem_append.1 hc with hbuiltin | howned
  · exact Builtin.isName_of_mem_all hbuiltin
  · exact hown c howned

/-- **The line that the hint says to type succeeds and prints the help on the candidates.** -/
theorem execute_asking (hr : r.commands = Builtin.all ++ own)
    (hown : ∀ c ∈ own, Tokens.IsName c.signature.name) (h : r.resolve line = .unmatched n)
    (env : Environment Host Out) :
    (r.execute ("help " ++ n) env).result = .ok none ∧
      ∃ first rest, (first :: rest).Sublist r.commands ∧
        (r.candidates line).Sublist (first :: rest) ∧
        ((∀ c ∈ n.toList, Tokens.isQuote c = false ∧ c ≠ '\\') →
          first :: rest = r.candidates line) ∧
        Sink.lines (r.execute ("help " ++ n) env).env.out =
          Sink.lines env.out ++ Line.ofTexts (Builtin.blocks first rest) := by
  have hnamed := named_of_own hr hown
  obtain ⟨rfl, hne⟩ := of_resolve_unmatched h
  -- Some name begins the line, and so the word, which is therefore not blank.
  obtain ⟨d, hd⟩ := List.exists_mem_of_ne_nil _ hne
  obtain ⟨hcommand, hanswers⟩ := List.mem_filter.1 hd
  have hname := hnamed d hcommand
  have hword : Text.trimEnd (commandName line).toList ≠ [] := by
    intro hnil
    have hstem := hname.inert.upperChars.prefix_trimEnd (prefix_commandName hname hanswers)
    rw [hnil, List.prefix_nil] at hstem
    exact upperChars_name_ne_nil hname hstem
  have hspace : ' ' ∉ (commandName line).toList := by
    rw [toList_commandName]
    intro hin
    have hno := List.mem_takeWhile_imp hin
    simp at hno
  -- What the help finds are the candidates of its token.
  have hsublist := candidates_sublist_ofWord hnamed line
  cases hfound : r.candidates (Tokens.ofWord (commandName line)) with
  | nil =>
    rw [hfound, List.sublist_nil] at hsublist
    exact absurd hsublist hne
  | cons first rest =>
    obtain ⟨hresult, hlines⟩ := Builtin.run_help hfound env
    rw [execute_of_selected (resolve_asking hr hword hspace)]
    refine ⟨hresult, first, rest, ?_, ?_, fun hplain => ?_, hlines⟩
    · rw [← hfound]
      exact List.filter_sublist
    · rwa [hfound] at hsublist
    · rw [← hfound]
      exact candidates_ofWord hnamed (trimStart_commandName hname hanswers) hplain

end Registry

/-- The failure ends with the hint. -/
theorem Failure.message_noMatchingOverload (n : String) :
    (noMatchingOverload n).message =
      "No overload of " ++ n ++ " exists with the specified parameters." ++ " Type \"" ++
        ("help " ++ n) ++ "\" for usage." := by
  have hjoined : " exists with the specified parameters. Type \"help " =
      " exists with the specified parameters." ++ (" Type \"" ++ "help ") := by decide
  calc (noMatchingOverload n).message
      = "No overload of " ++ n ++ (" exists with the specified parameters." ++
          (" Type \"" ++ "help ")) ++ n ++ "\" for usage." :=
        congrArg (fun text => "No overload of " ++ n ++ text ++ n ++ "\" for usage.") hjoined
    _ = _ := by simp only [String.append_assoc]

namespace Console

variable {Host : Type}

/-- A line is executed with no script running. -/
theorem execute_eq (c : Console Host) (line : String) :
    (c.execute line).1 = (c.registry.execute line { c.env with depth := 0 }).result ∧
      (c.execute line).2.1.scrollback =
        (c.registry.execute line { c.env with depth := 0 }).env.out := by
  have hrun : (c.execution line) c.env = c.registry.execute line { c.env with depth := 0 } := by
    rw [execution, Action.run_bind_ok (a := ()) rfl]
    rfl
  refine ⟨?_, ?_⟩
  · show ((c.execution line) c.env).result = _
    rw [hrun]
  · show ((c.execution line) c.env).env.out = _
    rw [hrun]

/-- **The hint at the help leads to help.**  The host's commands have names that a line can give.
A line that matches no overload fails, and the failure says what to type.  That line succeeds and
adds help blocks to the output, the first one under the name of its command and all others as
overloads.  They are those of some commands in the order of their registration, among them all
candidates of the line that failed.  Where the word in the failure has no quotes and no
backslashes, they are exactly the candidates.  Nothing that is printed is red, as the line would
be that says that there is no such command. -/
theorem hint_leads_to_help (c : Console Host) {own : List (Command Host Scrollback)}
    (hr : c.registry.commands = Builtin.all ++ own)
    (hown : ∀ d ∈ own, Tokens.IsName d.signature.name) {line n : String}
    (h : c.registry.resolve line = .unmatched n) :
    let asking := "help " ++ n
    let helped := c.execute asking
    (c.execute line).1 = .error (.noMatchingOverload n) ∧
      (∃ before, (Failure.noMatchingOverload n).message =
        before ++ " Type \"" ++ asking ++ "\" for usage.") ∧
      helped.1 = .ok none ∧
      ∃ first rest, (first :: rest).Sublist c.registry.commands ∧
        (c.registry.candidates line).Sublist (first :: rest) ∧
        ((∀ ch ∈ n.toList, Tokens.isQuote ch = false ∧ ch ≠ '\\') →
          first :: rest = c.registry.candidates line) ∧
        let shown := Line.ofTexts (Builtin.helpBlock true first.signature ++
          rest.flatMap fun d => Builtin.helpBlock false d.signature)
        helped.2.1.scrollback.lines.toList = c.scrollback.lines.toList ++ shown ∧
          ∀ l ∈ shown, l.color ≠ .red := by
  intro asking helped
  obtain ⟨hfailed, -⟩ := c.execute_eq line
  obtain ⟨hresult, hscrollback⟩ := c.execute_eq asking
  obtain ⟨hok, first, rest, hcommands, hcandidates, hexact, hlines⟩ :=
    Registry.execute_asking hr hown h { c.env with depth := 0 }
  refine ⟨?_, ?_, hresult.trans hok, first, rest, hcommands, hcandidates, hexact, ?_, ?_⟩
  · rw [hfailed, Registry.execute_of_unmatched h]
  · exact ⟨_, Failure.message_noMatchingOverload n⟩
  · rw [hscrollback]
    exact hlines
  · intro l hl
    exact Builtin.color_ne_red_of_mem_blocks hl

/-- A command of a host. -/
def greetCommand : Command Unit Scrollback where
  signature :=
    { name := "greet"
      parameters := [{ name := "times", kind := .int }]
      summary := some "Greets." }
  body _ _ := pure none

/-- A command whose name begins with that of the other one. -/
def greeterCommand : Command Unit Scrollback where
  signature := { name := "greeter", returns := some .string }
  body _ _ := pure none

/-- A quote in the first word of a line keeps the whole line together, so `greet` is given no
number.  The word in the failure has the quote.  The help that is asked for with it tells about
the candidate `greet`, and about `greeter`, which does not begin the line. -/
theorem hint_leads_to_help_quote :
    let r : Registry Unit Scrollback :=
      ⟨Builtin.all ++ [greetCommand, greeterCommand],
        List.forall_mem_append.2 ⟨Builtin.accepted_all, by decide⟩⟩
    let c : Console Unit := { Console.new {} ⟨"", .missing⟩ () with registry := r }
    let line := "greet\"er you"
    let n := "GREET\"ER"
    c.registry.resolve line = .unmatched n ∧
      (c.execute line).1 = .error (.noMatchingOverload n) ∧
      (c.execute ("help " ++ n)).1 = .ok none ∧
      (∃ first rest, (c.registry.candidates line).Sublist (first :: rest) ∧
        (c.execute ("help " ++ n)).2.1.scrollback.lines.toList =
          Line.ofTexts (Builtin.helpBlock true first.signature ++
            rest.flatMap fun d => Builtin.helpBlock false d.signature)) ∧
      (c.registry.candidates line).map (·.signature.name) = ["greet"] ∧
      (c.execute ("help " ++ n)).2.1.scrollback.lines.toList.map Line.text =
        ["", "--== \"greet\" help ==--", "Greets.", "Usage: greet <times (Int)>", "",
          "", "--== OVERLOAD ==--", "No summary information specified.", "Usage: greeter",
          "Returns: String", ""] := by
  intro r c line n
  have hown : ∀ d ∈ [greetCommand, greeterCommand], Tokens.IsName d.signature.name := by decide
  have hnames : (c.registry.candidates line).map (·.signature.name) = ["greet"] := by
    decide +kernel
  have hresolve : c.registry.resolve line = .unmatched n := by
    have hword : Registry.commandName line = n := by decide +kernel
    have hne : c.registry.candidates line ≠ [] := by
      intro hnil
      rw [hnil] at hnames
      cases hnames
    have hnone : Registry.firstBound? c.registry.catalogue (Registry.tokens line)
        (c.registry.candidates line) = none :=
      Option.isNone_iff_eq_none.1 (by decide +kernel)
    rw [← hword]
    exact Registry.resolve_of_no_fit hne (Registry.firstBound?_eq_none.1 hnone)
  obtain ⟨hfailed, -, hok, first, rest, -, hcandidates, -, hlines, -⟩ :=
    c.hint_leads_to_help rfl hown hresolve
  have hempty : c.scrollback.lines.toList = [] := rfl
  rw [hempty, List.nil_append] at hlines
  refine ⟨hresolve, hfailed, hok, ⟨first, rest, hcandidates, hlines⟩, hnames, ?_⟩
  decide +kernel

end Console

end DevConsole
