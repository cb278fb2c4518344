import DevConsole.Text.Blank

/-! # Tokens of a command line

A line is cut at its spaces, except those inside quotes.  Being inside quotes is one
switch that every quote character of either kind turns; quotes are not matched in pairs,
and one that is never closed keeps the rest of the line together.  Each segment then
loses its leading blanks and all its quote characters, and the two characters `\N` in it
become a newline.

There is always a first token, which an empty line leaves empty, and two spaces in a row
have an empty token between them.
-/
namespace DevConsole.Tokens

/-- The two quote characters. -/
def isQuote (c : Char) : Bool := c == '"' || c == '\''

/-- The segments between the spaces outside quotes, starting inside quotes or not. -/
def segments (inside : Bool) : List Char → List (List Char)
  | [] => [[]]
  | c :: cs =>
    if c == ' ' && !inside then [] :: segments inside cs
    else
      match segments (inside != isQuote c) cs with
      | [] => [[c]]
      | s :: ss => (c :: s) :: ss

/-- Every `\N`, from left to right, becomes a newline. -/
def unescape : List Char → List Char
  | '\\' :: 'N' :: cs => '\n' :: unescape cs
  | c :: cs => c :: unescape cs
  | [] => []

/-- The token that a segment stands for. -/
def clean (segment : List Char) : List Char :=
  unescape ((Text.trimStart segment).filter fun c => !isQuote c)

/-- The tokens of a line. -/
def ofLine (line : String) : List String :=
  (segments false line.toList).map fun s => String.ofList (clean s)

@[simp] theorem segments_nil (inside : Bool) : segments inside [] = [[]] := rfl

theorem segments_ne_nil (inside : Bool) : ∀ cs, segments inside cs ≠ []
  | [] => by simp
  | c :: cs => by
    unfold segments
    split
    · simp
    · split <;> simp

theorem ofLine_ne_nil (line : String) : ofLine line ≠ [] := by
  simp [ofLine, segments_ne_nil]

end DevConsole.Tokens
