import DevConsole.Toml.Table

/-! # Lexemes of TOML

The pieces of a document that hold no other values: blanks, line ends, comments, keys,
strings, numbers, dates and times.  A reader takes characters from the front of the text
and gives a value with what is left, or nothing where the text does not fit.
-/
namespace DevConsole.Toml

/-- Takes characters from the front of a text. -/
abbrev Reader := StateT (List Char) Option

namespace Reader

variable {α : Type}

/-- The next character, which stays where it is. -/
def peek : Reader (Option Char) := do return (← get).head?

/-- The next character. -/
def next : Reader Char := do
  match ← get with
  | [] => failure
  | c :: cs => set cs; return c

/-- The next character, if it is as `p` says. -/
def satisfy (p : Char → Bool) : Reader Char := do
  let c ← next
  if p c then return c else failure

/-- The given text. -/
def exactly : List Char → Reader Unit
  | [] => pure ()
  | c :: cs => do
    let _ ← satisfy (· == c)
    exactly cs

/-- All characters up to the first that is not as `p` says. -/
def takeRun (p : Char → Bool) : Reader (List Char) := do
  let cs ← get
  set (cs.dropWhile p)
  return cs.takeWhile p

/-- What the reader gives, or nothing where the text does not fit. -/
def optional? (r : Reader α) : Reader (Option α) := (some <$> r) <|> pure none

/-- As often as the text fits, but no more than `n` times. -/
def repeated (r : Reader α) : Nat → Reader (List α)
  | 0 => pure []
  | n + 1 => do
    match ← optional? r with
    | none => return []
    | some a => return a :: (← repeated r n)

/-- As often as the text fits. -/
def many (r : Reader α) : Reader (List α) := do
  let cs ← get
  repeated r cs.length

end Reader

open Reader

/-! ## Blanks, line ends and comments -/

/-- A space or a tab. -/
def isSpace (c : Char) : Bool := c == ' ' || c == '\t'

/-- A character outside ASCII. -/
def isForeign (c : Char) : Bool := 0x80 ≤ c.toNat

/-- A character that may stand in a comment. -/
def isCommentChar (c : Char) : Bool :=
  c == '\t' || (0x20 ≤ c.toNat && c.toNat ≤ 0x7E) || isForeign c

/-- Spaces and tabs. -/
def spaces : Reader Unit := do let _ ← takeRun isSpace

/-- A newline, or a carriage return and a newline. -/
def newline : Reader Unit := exactly ['\n'] <|> exactly ['\r', '\n']

/-- The end of the text. -/
def atEnd : Reader Unit := do if (← get).isEmpty then return () else failure

/-- A number sign and the rest of the line. -/
def comment : Reader Unit := do
  exactly ['#']
  let _ ← takeRun isCommentChar

/-- What may follow on a line: blanks, and perhaps a comment. -/
def lineRest : Reader Unit := do
  spaces
  let _ ← optional? comment
  newline <|> atEnd

/-- Blanks, line ends and comments that end in a line end. -/
def gaps : Reader Unit := do
  let _ ← many (newline <|> (do comment; newline) <|> (do let _ ← satisfy isSpace))

/-! ## Strings -/

/-- A character that may stand unescaped in a basic string. -/
def isBasicChar (c : Char) : Bool := isCommentChar c && c != '"' && c != '\\'

/-- A character that may stand in a literal string. -/
def isLiteralChar (c : Char) : Bool := isCommentChar c && c != '\''

/-- The character with the code point that `n` hexadecimal digits write. -/
def codePoint (n : Nat) : Reader Char := do
  let ds ← repeated (satisfy fun c => (Numeral.hexDigit? c).isSome) n
  if ds.length = n then
    let code := ds.foldl (fun acc c => 16 * acc + (Numeral.hexDigit? c).getD 0) 0
    if code.isValidChar then return Char.ofNat code else failure
  else failure

/-- What follows a backslash that stands for a character. -/
def escaped : Reader Char := do
  match ← next with
  | 'b' => return '\x08'
  | 't' => return '\t'
  | 'n' => return '\n'
  | 'f' => return '\x0c'
  | 'r' => return '\r'
  | '"' => return '"'
  | '\\' => return '\\'
  | 'u' => codePoint 4
  | 'U' => codePoint 8
  | _ => failure

/-- A string between double quotes on one line. -/
def basicString : Reader String := do
  exactly ['"']
  let cs ← many (satisfy isBasicChar <|> (do exactly ['\\']; escaped))
  exactly ['"']
  return String.ofList cs

/-- A string between single quotes on one line. -/
def literalString : Reader String := do
  exactly ['\'']
  let cs ← takeRun isLiteralChar
  exactly ['\'']
  return String.ofList cs

/-- A line end in a string of several lines. -/
def lineEnd : Reader (List Char) := do newline; return ['\n']

/-- A backslash at the end of a line, which joins the line to the next text. -/
def joinedLines : Reader (List Char) := do
  exactly ['\\']
  spaces
  newline
  let _ ← many (newline <|> (do let _ ← satisfy isSpace))
  return []

/-- At most two quotes that are not the start of three. -/
def looseQuotes (q : Char) : Reader (List Char) := do
  let cs ← get
  let quotes := cs.takeWhile (· == q)
  if quotes.length = 1 ∨ quotes.length = 2 then
    set (cs.drop quotes.length)
    return quotes
  else failure

/-- The end of a string of several lines: three quotes, after at most two more that
belong to the string. -/
def closing (q : Char) : Reader (List Char) := do
  let cs ← get
  let n := (cs.takeWhile (· == q)).length
  if n < 3 then failure
  else
    let own := min (n - 3) 2
    set (cs.drop (own + 3))
    return List.replicate own q

/-- A string of several lines between three quotes, made of the given pieces. -/
def longString (q : Char) (piece : Reader (List Char)) : Reader String := do
  exactly [q, q, q]
  let _ ← optional? newline
  let body ← many (piece <|> lineEnd <|> looseQuotes q)
  let tail ← closing q
  return String.ofList (body.flatten ++ tail)

/-- A string of several lines with escapes. -/
def longBasicString : Reader String :=
  longString '"'
    ((do return [← satisfy isBasicChar]) <|> joinedLines <|>
      (do exactly ['\\']; return [← escaped]))

/-- A string of several lines without escapes. -/
def longLiteralString : Reader String :=
  longString '\'' (do return [← satisfy isLiteralChar])

/-- A string in any of the four forms. -/
def string : Reader String := do
  match ← get with
  | '"' :: '"' :: '"' :: _ => longBasicString
  | '\'' :: '\'' :: '\'' :: _ => longLiteralString
  | '"' :: _ => basicString
  | _ => literalString

/-! ## Keys -/

/-- A character of a key without quotes. -/
def isBareChar (c : Char) : Bool := c.isAlphanum || c == '_' || c == '-'

/-- A key of one part. -/
def simpleKey : Reader String := do
  match ← peek with
  | some '"' => basicString
  | some '\'' => literalString
  | _ =>
    let cs ← takeRun isBareChar
    if cs.isEmpty then failure else return String.ofList cs

/-- A part of a key with the blanks around it. -/
def spacedKey : Reader String := do
  spaces
  let key ← simpleKey
  spaces
  return key

/-- The number of parts that no key may have. -/
def keyPartLimit : Nat := 80

/-- A key of parts with points between them: all parts but the last one, and the last. -/
def key : Reader (List String × String) := do
  let first ← spacedKey
  let others ← many (do exactly ['.']; spacedKey)
  let parts := first :: others
  if keyPartLimit ≤ parts.length then failure
  else return (parts.dropLast, parts.getLastD "")

/-! ## Numbers -/

/-- One or more digits, single underscores between them left out. -/
def digits (p : Char → Bool) : Reader (List Char) := do
  let first ← satisfy p
  let rest ← many (satisfy p <|> (do exactly ['_']; satisfy p))
  return first :: rest

/-- The digits of a whole decimal number: no zero in front of others. -/
def wholeDigits : Reader (List Char) := do
  match ← peek with
  | some '0' => do exactly ['0']; return ['0']
  | _ => digits Char.isDigit

/-- A sign: whether it is a minus. -/
def sign : Reader Bool := do
  match ← peek with
  | some '-' => do exactly ['-']; return true
  | some '+' => do exactly ['+']; return false
  | _ => return false

/-- The number that digits of a base write. -/
def valueOf (base : Nat) (ds : List Char) : Nat :=
  ds.foldl (fun acc c => base * acc + (Numeral.hexDigit? c).getD 0) 0

/-- Digits of a base after its mark. -/
def based (mark : Char) (base : Nat) : Reader Int := do
  exactly ['0', mark]
  let ds ← digits fun c => (Numeral.hexDigit? c).any (· < base)
  return (valueOf base ds : Int)

/-- A signed decimal number. -/
def signedWhole : Reader Int := do
  let negative ← sign
  let ds ← wholeDigits
  let n : Int := valueOf 10 ds
  return if negative then -n else n

/-- A whole number of 64 bits. -/
def integer : Reader Node := do
  let z ← based 'x' 16 <|> based 'o' 8 <|> based 'b' 2 <|> signedWhole
  if Int64.minValue.toInt ≤ z ∧ z ≤ Int64.maxValue.toInt then return .integer z else failure

/-- The exponent of a number. -/
def exponent : Reader Int := do
  let _ ← satisfy fun c => c == 'e' || c == 'E'
  let negative ← sign
  let ds ← digits Char.isDigit
  let n : Int := valueOf 10 ds
  return if negative then -n else n

/-- The digits after the point of a number. -/
def fraction : Reader (List Char) := do exactly ['.']; digits Char.isDigit

/-- A number with a fraction, an exponent or both.  One above all numbers of 64 bits is
refused. -/
def decimal : Reader Spelled := do
  let negative ← sign
  let whole ← wholeDigits
  let part ← optional? fraction
  let power ← optional? exponent
  if part.isNone && power.isNone then failure
  else
    let part := part.getD []
    let d : Decimal := ⟨negative, valueOf 10 (whole ++ part), power.getD 0 - part.length⟩
    if !negative && (d.round? .binary64).isNone then failure else return .decimal d

/-- An infinity or not-a-number. -/
def specialNumber : Reader Spelled := do
  let negative ← sign
  (do exactly ['i', 'n', 'f']; return .infinite negative) <|>
    (do exactly ['n', 'a', 'n']; return .nan)

/-- A floating-point number. -/
def float : Reader Node := .float <$> (decimal <|> specialNumber)

/-- A truth value. -/
def boolean : Reader Node :=
  (do exactly ['t', 'r', 'u', 'e']; return .boolean true) <|>
    (do exactly ['f', 'a', 'l', 's', 'e']; return .boolean false)

/-! ## Dates and times -/

/-- A number of `n` digits between two limits. -/
def field (n lo hi : Nat) : Reader Nat := do
  let ds ← repeated (satisfy Char.isDigit) n
  let v := valueOf 10 ds
  if ds.length = n ∧ lo ≤ v ∧ v ≤ hi then return v else failure

/-- The number of days of a month. -/
def daysOf (year month : Nat) : Nat :=
  if month = 2 then
    if year % 4 = 0 ∧ (year % 100 ≠ 0 ∨ year % 400 = 0) then 29 else 28
  else if month = 4 ∨ month = 6 ∨ month = 9 ∨ month = 11 then 30
  else 31

/-- A day of the calendar. -/
def date : Reader Unit := do
  let year ← field 4 0 9999
  exactly ['-']
  let month ← field 2 1 12
  exactly ['-']
  let _ ← field 2 1 (daysOf year month)

/-- A time of the day. -/
def time : Reader Unit := do
  let _ ← field 2 0 23
  exactly [':']
  let _ ← field 2 0 59
  exactly [':']
  let _ ← field 2 0 60
  let _ ← optional? (do exactly ['.']; let _ ← satisfy Char.isDigit; takeRun Char.isDigit)

/-- The distance from universal time. -/
def zone : Reader Unit := do
  match ← next with
  | 'Z' | 'z' => return ()
  | '+' | '-' =>
    let _ ← field 2 0 23
    exactly [':']
    let _ ← field 2 0 59
  | _ => failure

/-- What may follow a date: a time, and with it a zone. -/
def timeOfDate : Reader Unit := do
  let _ ← satisfy fun c => c == 'T' || c == 't' || c == ' '
  time
  let _ ← optional? zone

/-- A date, a time, or both. -/
def datetime : Reader Node := do
  let before ← get
  (do date; let _ ← optional? timeOfDate) <|> time
  let after ← get
  return .datetime (String.ofList (before.take (before.length - after.length)))

/-- A value that holds no other values. -/
def scalar : Reader Node := do
  match ← peek with
  | some '"' | some '\'' => .string <$> string
  | some c =>
    if c == 't' || c == 'f' then boolean
    else datetime <|> float <|> integer
  | none => failure

end DevConsole.Toml
