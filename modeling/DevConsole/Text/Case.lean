import DevConsole.Text.CaseTable

/-! # Letter case

Two notions of case live here.  `upper` is the full Unicode upper-case mapping, in
which one letter can become two or three (`ß` becomes `SS`).  `lowerAscii` and
`sameIgnoringAsciiCase` know the letters `A` to `Z` only.

Command names, choices and script names are compared through `upper`; color names,
key names and the words `true` and `false` through ASCII case.
-/
namespace DevConsole.Text

/-- The upper-case form of a code point outside ASCII. -/
def upperCode (n : Nat) : List Nat :=
  match caseExpansions.lookup n with
  | some codes => codes
  | none => [(caseRuns.findSome? (·.image? n)).getD n]

/-- The upper-case form of a character: one, two or three characters. -/
def upperChar (c : Char) : List Char :=
  if c.toNat < 0x80 then [c.toUpper] else (upperCode c.toNat).map Char.ofNat

/-- The upper-case form of each character in turn. -/
def upperChars (cs : List Char) : List Char := cs.flatMap upperChar

/-- The upper-case form of a text. -/
def upper (s : String) : String := String.ofList (upperChars s.toList)

/-- Whether `name` begins `line`, character by character. -/
def begins (name line : String) : Bool := name.toList.isPrefixOf line.toList

/-- The text with `A` to `Z` in lower case and all else as it is. -/
def lowerAscii (s : String) : String := String.ofList (s.toList.map Char.toLower)

/-- Whether two texts differ at most in the case of ASCII letters. -/
def sameIgnoringAsciiCase (a b : String) : Bool :=
  a.toList.map Char.toLower == b.toList.map Char.toLower

@[simp] theorem upperChars_nil : upperChars [] = [] := rfl

theorem upperChars_cons (c : Char) (cs : List Char) :
    upperChars (c :: cs) = upperChar c ++ upperChars cs := List.flatMap_cons

@[simp] theorem upperChars_append (cs ds : List Char) :
    upperChars (cs ++ ds) = upperChars cs ++ upperChars ds := List.flatMap_append

@[simp] theorem toList_upper (s : String) : (upper s).toList = upperChars s.toList := by
  simp [upper]

theorem upper_eq_upper_iff {s t : String} :
    upper s = upper t ↔ upperChars s.toList = upperChars t.toList := by
  rw [← String.toList_inj]; simp

theorem begins_iff {name line : String} : begins name line = true ↔ name.toList <+: line.toList :=
  List.isPrefixOf_iff_prefix

theorem sameIgnoringAsciiCase_iff {a b : String} :
    sameIgnoringAsciiCase a b = true ↔ lowerAscii a = lowerAscii b := by
  simp [sameIgnoringAsciiCase, lowerAscii, ← String.toList_inj]

theorem sameIgnoringAsciiCase_refl (a : String) : sameIgnoringAsciiCase a a = true := by
  simp [sameIgnoringAsciiCase]

end DevConsole.Text
