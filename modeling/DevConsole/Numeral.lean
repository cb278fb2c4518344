/-! # Numerals

Reading and writing whole numbers.  A decimal numeral is one or more ASCII digits,
with any number of leading zeros; a signed one may have a single sign in front.
Nothing else is accepted: no blanks, no separators.  `int32?` reads the numbers of 32
bits and refuses all others, so nothing wraps around.

`int32?_ofInt32` says that reading what was written gives the number back.
-/
namespace DevConsole.Numeral

/-- The value of one or more decimal digits. -/
def decimal? (cs : List Char) : Option Nat :=
  if cs.isEmpty then none
  else if cs.all Char.isDigit then some (Nat.ofDigitChars 10 cs 0)
  else none

/-- The value of a decimal numeral with an optional sign. -/
def signedDecimal? : List Char → Option Int
  | '-' :: cs => (decimal? cs).map fun n => -(n : Int)
  | '+' :: cs => (decimal? cs).map fun n => (n : Int)
  | cs => (decimal? cs).map fun n => (n : Int)

/-- The value of a decimal numeral that may have a plus sign in front. -/
def unsignedDecimal? : List Char → Option Nat
  | '+' :: cs => decimal? cs
  | cs => decimal? cs

/-- The number of 32 bits that a signed decimal numeral stands for. -/
def int32? (s : String) : Option Int32 :=
  (signedDecimal? s.toList).bind fun z =>
    if Int32.minValue.toInt ≤ z ∧ z ≤ Int32.maxValue.toInt then some (Int32.ofInt z) else none

/-- The decimal numeral of a natural number. -/
def ofNat (n : Nat) : String := String.ofList (Nat.toDigits 10 n)

/-- The decimal numeral of a whole number, with a minus sign below zero. -/
def ofInt (z : Int) : String :=
  String.ofList ((if z < 0 then ['-'] else []) ++ Nat.toDigits 10 z.natAbs)

/-- The decimal numeral of a number of 32 bits. -/
def ofInt32 (n : Int32) : String := ofInt n.toInt

/-- The value of a hexadecimal digit in either case. -/
def hexDigit? (c : Char) : Option Nat :=
  if c.isDigit then some (c.toNat - '0'.toNat)
  else if 'a' ≤ c ∧ c ≤ 'f' then some (c.toNat - 'a'.toNat + 10)
  else if 'A' ≤ c ∧ c ≤ 'F' then some (c.toNat - 'A'.toNat + 10)
  else none

/-- The value of two characters that write a byte in hexadecimal: two digits, or a
plus sign and one digit. -/
def hexByte? (a b : Char) : Option UInt8 :=
  match hexDigit? b with
  | none => none
  | some low =>
    if a = '+' then some (UInt8.ofNat low)
    else (hexDigit? a).map fun high => UInt8.ofNat (16 * high + low)

theorem decimal?_eq_some {cs : List Char} (hne : cs ≠ []) (h : ∀ c ∈ cs, c.isDigit) :
    decimal? cs = some (Nat.ofDigitChars 10 cs 0) := by
  have : cs.all Char.isDigit = true := by simpa using h
  simp [decimal?, hne, this]

theorem toDigits_ne_nil (n : Nat) : Nat.toDigits 10 n ≠ [] :=
  List.ne_nil_of_length_pos Nat.length_toDigits_pos

theorem isDigit_toDigits {n : Nat} {c : Char} (h : c ∈ Nat.toDigits 10 n) : c.isDigit = true :=
  Nat.isDigit_of_mem_toDigits (by decide) (by decide) h

@[simp] theorem decimal?_toDigits (n : Nat) : decimal? (Nat.toDigits 10 n) = some n := by
  rw [decimal?_eq_some (toDigits_ne_nil n) fun _ => isDigit_toDigits]
  simp

/-- A numeral without a sign is read as its digits. -/
theorem signedDecimal?_of_unsigned {cs : List Char} (hminus : ∀ digits, cs ≠ '-' :: digits)
    (hplus : ∀ digits, cs ≠ '+' :: digits) :
    signedDecimal? cs = (decimal? cs).map fun n => (n : Int) := by
  unfold signedDecimal?
  split
  · exact absurd rfl (hminus _)
  · exact absurd rfl (hplus _)
  · rfl

theorem signedDecimal?_of_digits {cs : List Char} (h : ∀ c ∈ cs, c.isDigit) :
    signedDecimal? cs = (decimal? cs).map fun n => (n : Int) := by
  refine signedDecimal?_of_unsigned (fun digits hcs => ?_) fun digits hcs => ?_
  · exact absurd (h '-' (hcs ▸ List.mem_cons_self)) (by decide)
  · exact absurd (h '+' (hcs ▸ List.mem_cons_self)) (by decide)

@[simp] theorem signedDecimal?_ofInt (z : Int) : signedDecimal? (ofInt z).toList = some z := by
  unfold ofInt
  by_cases h : z < 0
  · simp only [h, if_true, List.cons_append, List.nil_append, String.toList_ofList]
    simp only [signedDecimal?, decimal?_toDigits]
    exact congrArg some (by dsimp only; omega)
  · simp only [h, if_false, List.nil_append, String.toList_ofList]
    rw [signedDecimal?_of_digits fun _ => isDigit_toDigits]
    simp only [decimal?_toDigits]
    exact congrArg some (by dsimp only; omega)

/-- Reading a written number of 32 bits gives it back. -/
@[simp] theorem int32?_ofInt32 (n : Int32) : int32? (ofInt32 n) = some n := by
  have hlo := n.minValue_le_toInt
  have hhi := n.toInt_le
  simp only [int32?, ofInt32, signedDecimal?_ofInt, Option.bind_some]
  rw [if_pos ⟨hlo, hhi⟩, Int32.ofInt_toInt]

end DevConsole.Numeral
