import DevConsole.Proofs.Overload
import DevConsole.Proofs.QuotedTokens

/-! # Arguments written in quotes

A line of a name and values in quotes is read back as it was written, whatever the texts
among the values look like.  Four readings have to agree for that.  Trimming the line must not
touch it (`trim_written`), the tokens must be the texts of the values (`ofLine_written`), the
name must begin the upper-case line although the line gives it in another case
(`mem_candidates_written`), and each parameter must coerce the text of its value to that value
(`Parameter.coerce_text`).  Then the command runs with exactly the values that were written
(`execute_written`).

Floating-point numbers are not among the values here.
-/
namespace DevConsole

/-! ## Names in another case -/

namespace Text

/-- A class of characters that upper case neither changes nor leads to is absent from a text
when it is absent from one with the same upper-case form. -/
theorem absent_of_upperChars_eq {p : Char → Bool} (hfixed : ∀ c, p c = true → upperChar c = [c])
    (hp : ∀ d, Settled d → p d = false) {cs ds : List Char}
    (h : upperChars cs = upperChars ds) (hds : ∀ d ∈ ds, p d = false) : ∀ c ∈ cs, p c = false := by
  intro c hc
  cases hpc : p c with
  | false => rfl
  | true =>
    -- The character would stand in the upper-case form of the other text.
    have hup : upperChar c = [c] := hfixed c hpc
    have hmem : c ∈ upperChars ds := h ▸ List.mem_flatMap.2 ⟨c, hc, by simp [hup]⟩
    obtain ⟨d, hd, hcd⟩ := List.mem_flatMap.1 hmem
    rw [← hpc]
    exact absent_of_mem_upperChar hp hcd (hds d hd)

end Text

namespace Tokens

/-- A name that a line can begin with: not empty, without blanks and without quotes. -/
structure IsWord (name : String) : Prop where
  nonempty : name ≠ ""
  no_blank : ∀ c ∈ name.toList, Text.isBlank c = false
  no_quote : ∀ c ∈ name.toList, isQuote c = false

/-- A word in another case is a word. -/
theorem IsWord.of_upper_eq {word name : String} (h : IsWord name)
    (hup : Text.upper word = Text.upper name) : IsWord word := by
  have hchars := Text.upper_eq_upper_iff.1 hup
  refine ⟨?_, ?_, ?_⟩
  · rintro rfl
    exact h.nonempty (String.toList_eq_nil_iff.1 (Text.upperChars_eq_nil.1 hchars.symm))
  · exact Text.absent_of_upperChars_eq (fun _ => Text.upperChar_blank)
      (fun _ hd => hd.not_blank) hchars h.no_blank
  · exact Text.absent_of_upperChars_eq (fun _ => Text.upperChar_quote)
      (fun _ hd => hd.not_quote) hchars h.no_quote

/-! ## Reading the line -/

/-- A line ends in a quote, or where its word ends. -/
theorem getLast_quoteAll {first : List Char} (texts : List String)
    (h : ∀ c ∈ first.getLast?, Text.isBlank c = false) :
    ∀ c ∈ (first ++ quoteAll texts).getLast?, Text.isBlank c = false := by
  induction texts generalizing first with
  | nil => rwa [quoteAll, List.flatMap_nil, List.append_nil]
  | cons text texts ih =>
    -- The next text becomes part of what stands before the others.
    have hsplit : first ++ quoteAll (text :: texts) =
        (first ++ ' ' :: quote text.toList) ++ quoteAll texts := by
      rw [quoteAll_cons, List.append_assoc, List.cons_append]
    rw [hsplit]
    refine ih fun c hc => ?_
    have hlast : (first ++ ' ' :: quote text.toList).getLast? = some '"' := by
      simp [quote, List.getLast?_append, List.getLast?_cons]
    rw [hlast, Option.mem_some_iff] at hc
    rw [← hc]
    rfl

theorem trim_written {word : String} (h : IsWord word) (texts : List String) :
    Text.trim (written word texts) = written word texts := by
  rw [← String.toList_inj, Text.toList_trim, toList_written]
  refine Text.trimChars_eq_self ?_ (getLast_quoteAll texts ?_)
  · intro c hc
    have hne : word.toList ≠ [] := fun hnil => h.nonempty (String.toList_eq_nil_iff.1 hnil)
    obtain ⟨d, ds, hword⟩ := List.exists_cons_of_ne_nil hne
    have hd : d = c := by simpa [hword] using hc
    exact h.no_blank c (by simp [hword, hd])
  · intro c hc
    exact h.no_blank c (List.mem_of_mem_getLast? hc)

/-- The tokens after the first are the texts that were written. -/
theorem tail_tokens_written {word : String} (h : IsWord word) {texts : List String}
    (htexts : ∀ text ∈ texts, Writable text) :
    (Registry.tokens (written word texts)).tail = texts := by
  have hword : ∀ c ∈ word.toList, c ≠ ' ' ∧ isQuote c = false := by
    refine fun c hc => ⟨?_, h.no_quote c hc⟩
    rintro rfl
    exact absurd (h.no_blank ' ' hc) (by decide)
  rw [Registry.tokens, trim_written h, ofLine_written hword htexts, List.tail_cons]

end Tokens

/-! ## Reading the values -/

/-- Values whose texts, written in quotes, are read back. -/
inductive Value.Quotable : Value → Prop where
  | int (n : Int32) : Quotable (.int n)
  | bool (b : Bool) : Quotable (.bool b)
  | string {s : String} (h : Tokens.Writable s) : Quotable (.string s)

theorem Numeral.isDigit_of_mem_ofInt32 {n : Int32} {c : Char} (h : c ∈ (ofInt32 n).toList) :
    c = '-' ∨ c.isDigit = true := by
  rw [ofInt32, ofInt, String.toList_ofList, List.mem_append] at h
  rcases h with h | h
  · split at h
    · exact Or.inl (List.mem_singleton.1 h)
    · exact absurd h List.not_mem_nil
  · exact Or.inr (isDigit_toDigits h)

/-- A text without quotes and backslashes can be written. -/
theorem Tokens.writable_of_plain {text : String}
    (h : ∀ c ∈ text.toList, isQuote c = false ∧ c ≠ '\\') : Writable text := by
  refine ⟨fun c hc => (h c hc).1, fun hin => ?_⟩
  have hmem : '\\' ∈ text.toList := hin.subset List.mem_cons_self
  exact (h _ hmem).2 rfl

theorem Tokens.isQuote_of_isDigit {c : Char} (h : c.isDigit = true) :
    isQuote c = false ∧ c ≠ '\\' := by
  refine ⟨?_, ?_⟩
  · cases hq : isQuote c with
    | false => rfl
    | true =>
      have hcases : c = '"' ∨ c = '\'' := by simpa [isQuote] using hq
      rcases hcases with rfl | rfl <;> exact absurd h (by decide)
  · rintro rfl
    exact absurd h (by decide)

theorem Value.Quotable.writable {v : Value} (h : v.Quotable) : Tokens.Writable v.text := by
  cases h with
  | int n =>
    refine Tokens.writable_of_plain fun c hc => ?_
    rcases Numeral.isDigit_of_mem_ofInt32 hc with rfl | hdigit
    · decide
    · exact Tokens.isQuote_of_isDigit hdigit
  | bool b => cases b <;> exact Tokens.writable_of_plain (by simp [text, Tokens.isQuote])
  | string h => exact h

theorem Constraint.admits_of_not_hard {constraint : Constraint} (h : constraint.isHard = false)
    (catalogue : Catalogue) (token : String) : constraint.admits catalogue token = true := by
  cases constraint with
  | free => rfl
  | fixed choices hard | dynamic set hard =>
    have hsoft : hard = false := h
    rw [admits, hsoft, Bool.not_false, Bool.true_or]

theorem Coercion.bool?_text (b : Bool) : bool? (Value.bool b).text = some b := by
  cases b <;> decide

/-- The text of a value is coerced to that value. -/
theorem Parameter.coerce_text {catalogue : Catalogue} {p : Parameter} {v : Value}
    (hkind : v.kind = p.kind) (hsoft : p.constraint.isHard = false) (h : v.Quotable) :
    p.coerce catalogue v.text = .ok v := by
  rw [coerce, ← hkind]
  cases h with
  | int n =>
    have hread : Numeral.int32? (Value.int n).text = some n := Numeral.int32?_ofInt32 n
    simp only [Value.kind, hread]
    rfl
  | bool b =>
    simp only [Value.kind, Coercion.bool?_text]
    rfl
  | string h =>
    simp only [Value.kind, Constraint.admits_of_not_hard hsoft, if_true]
    rfl

/-- The texts of values are coerced to those values. -/
theorem coerced_texts {catalogue : Catalogue} {ps : List Parameter} {vs : List Value}
    (hkinds : vs.map Value.kind = ps.map Parameter.kind)
    (hsoft : ∀ p ∈ ps, p.constraint.isHard = false) (h : ∀ v ∈ vs, v.Quotable) :
    Coerced catalogue ps (vs.map Value.text) vs := by
  have hlen : vs.length = ps.length := by simpa using congrArg List.length hkinds
  refine ⟨by rw [List.length_map, hlen], hlen, fun i p t v hp ht hv => ?_⟩
  have hkind : some v.kind = some p.kind := by
    simpa [hp, hv] using congrArg (·[i]?) hkinds
  have htext : v.text = t := by simpa [hv] using ht
  rw [← htext]
  exact Parameter.coerce_text (Option.some.inj hkind) (hsoft p (List.mem_of_getElem? hp))
    (h v (List.mem_of_getElem? hv))

/-! ## Executing the line -/

namespace Registry

variable {Host Out : Type}

theorem begins_written {word : String} (hword : Tokens.IsWord word) (texts : List String) :
    Text.begins (Text.upper word) (normalize (Tokens.written word texts)) = true := by
  rw [Text.begins_iff, normalize, Tokens.trim_written hword, Text.toList_upper,
    Text.toList_upper, Tokens.toList_written, Text.upperChars_append]
  exact List.prefix_append _ _

theorem mem_candidates_written {r : Registry Host Out} {c : Command Host Out} {word : String}
    (hc : c ∈ r.commands) (hword : Tokens.IsWord word)
    (hname : Text.upper word = Text.upper c.signature.name) (texts : List String) :
    c ∈ r.candidates (Tokens.written word texts) := by
  refine List.mem_filter.2 ⟨hc, ?_⟩
  rw [answers, ← hname]
  exact begins_written hword texts

variable [Sink Out]

/-- **Arguments written in quotes reach the command as they were written.**  The name may stand
in any case, and the command is the one that the line is for, since no candidate that was
registered before it fits. -/
theorem execute_written {r : Registry Host Out} {earlier later : List (Command Host Out)}
    {c : Command Host Out} {word : String} {values : List Value}
    (hcommands : r.commands = earlier ++ c :: later)
    (hname : Tokens.IsWord c.signature.name)
    (hword : Text.upper word = Text.upper c.signature.name)
    (hkinds : values.map Value.kind = c.signature.parameters.map Parameter.kind)
    (hsoft : ∀ p ∈ c.signature.parameters, p.constraint.isHard = false)
    (hvalues : ∀ v ∈ values, v.Quotable)
    (hfirst : ∀ d ∈ earlier, d ∈ r.candidates (Tokens.written word (values.map Value.text)) →
      ∀ vs, ¬ d.signature.Fits r.catalogue
        (tokens (Tokens.written word (values.map Value.text))) vs)
    (env : Environment Host Out) :
    ∃ notes : List Note, r.execute (Tokens.written word (values.map Value.text)) env =
      let o := c.body r.interpreter values env
      ⟨o.result, o.env,
        notes.map .noted ++ .invoked c.signature values env.depth :: o.trace⟩ := by
  -- The line is one that is read back: a word, and texts that can be written.
  have hisWord := hname.of_upper_eq hword
  have htexts : ∀ text ∈ values.map Value.text, Tokens.Writable text := by
    intro text hin
    obtain ⟨v, hv, rfl⟩ := List.mem_map.1 hin
    exact (hvalues v hv).writable
  have hfits : c.signature.Fits r.catalogue
      (tokens (Tokens.written word (values.map Value.text))) values := by
    rw [Signature.Fits, Tokens.tail_tokens_written hisWord htexts]
    exact coerced_texts hkinds hsoft hvalues
  have hcandidate := mem_candidates_written (r := r) (by simp [hcommands]) hisWord hword
    (values.map Value.text)
  -- From here on it does not matter what the line looks like.
  generalize Tokens.written word (values.map Value.text) = line at hfirst hfits hcandidate ⊢
  have hanswers : answers c.signature (normalize line) = true := (List.mem_filter.1 hcandidate).2
  -- The candidates are the commands that answer, so the split of the commands splits them.
  have hsplit : r.candidates line =
      earlier.filter (fun d => answers d.signature (normalize line)) ++
        c :: later.filter fun d => answers d.signature (normalize line) := by
    rw [candidates, hcommands, List.filter_append, List.filter_cons, if_pos hanswers]
  refine ⟨r.rejections line, execute_of_selected (resolve_eq_selected.2 ?_) env⟩
  refine ⟨_, _, hsplit, fun d hd => ?_, hfits⟩
  refine hfirst d (List.mem_filter.1 hd).1 ?_
  rw [hsplit]
  exact List.mem_append_left _ hd

/-- A command with a number, a truth value and two texts, one of them with a soft constraint. -/
def spawnCommand : Command Unit Transcript where
  signature :=
    { name := "spawn"
      parameters :=
        [{ name := "count", kind := .int }, { name := "hidden", kind := .bool },
          { name := "label", kind := .string },
          { name := "tint", kind := .string, constraint := .dynamic .colors false }] }
  body _ arguments := pure arguments.head?

/-- A command whose name begins that of the other one. -/
def sparCommand : Command Unit Transcript where
  signature := { name := "spa" }
  body _ _ := pure none

/-- The least number, a text with outer blanks, a newline and a backslash at its end, and an
empty text reach a command whose name is written in another case. -/
theorem execute_written_spawn :
    let r : Registry Unit Transcript :=
      { commands := [sparCommand, spawnCommand], accepted := by decide }
    let values : List Value :=
      [.int Int32.minValue, .bool true, .string "  Two\nlines \\", .string ""]
    let line := Tokens.written "SpaWn" (values.map Value.text)
    let env : Environment Unit Transcript := { scripts := ⟨"", .missing⟩, host := (), out := {} }
    line = "SpaWn \"-2147483648\" \"true\" \"  Two\\Nlines \\\" \"\"" ∧
      sparCommand ∈ r.candidates line ∧
      ∃ notes : List Note, r.execute line env =
        let o := spawnCommand.body r.interpreter values env
        ⟨o.result, o.env,
          notes.map .noted ++ .invoked spawnCommand.signature values env.depth :: o.trace⟩ := by
  intro r values line env
  have hcommands : r.commands = [sparCommand] ++ spawnCommand :: [] := rfl
  have hname : Tokens.IsWord "spawn" :=
    ⟨by decide, by simp [Text.isBlank], by simp [Tokens.isQuote]⟩
  have hvalues : ∀ v ∈ values, v.Quotable := by
    intro v hv
    simp only [values, List.mem_cons, List.not_mem_nil, or_false] at hv
    rcases hv with rfl | rfl | rfl | rfl
    · exact .int _
    · exact .bool _
    · refine .string ⟨by simp [Tokens.isQuote], fun hin => ?_⟩
      exact absurd (hin.subset (List.mem_cons_of_mem _ List.mem_cons_self)) (by simp)
    · exact .string (Tokens.writable_of_plain (by simp))
  have hother : ∀ vs, ¬ sparCommand.signature.Fits r.catalogue (tokens line) vs := by
    intro vs hfits
    exact absurd hfits.arity (by decide +kernel)
  refine ⟨by decide +kernel, List.mem_filter.2 ⟨List.mem_cons_self, by decide +kernel⟩, ?_⟩
  refine execute_written hcommands hname (by decide +kernel) rfl (by decide) hvalues ?_ env
  intro d hd _
  rw [List.mem_singleton.1 hd]
  exact hother

end Registry

end DevConsole
