import DevConsole.ConfigFile
import DevConsole.Proofs.Choices
import DevConsole.Proofs.TokenSegments

/-! # Colors in hexadecimal

A color is written as a number sign and three or four pairs of characters, one pair for each
channel.  The pairs are meant to be of two hexadecimal digits (`Numeral.HexDigits`), but a pair is
read as a numeral, and a numeral may have a plus sign in front, so a plus sign and a digit are
taken for a pair, too (`Numeral.PlusDigit`).  There is no other difference: what is read is what is
written in pairs of one of the two kinds (`Color.ofHex?_eq_some`).

The same is read from the bytes of a text, where a pair is what stands between two offsets
(`Color.ofHexBytes?`).  A character of several bytes fits between offsets now and then, but it is
no digit; so once a pair was read its characters are bytes, and the next pair starts behind them
(`Color.channel?_add_two`).
-/
namespace DevConsole

namespace Numeral

/-! ## Digits and pairs -/

/-- The character is a hexadecimal digit of this value, in lower case or in upper case. -/
def IsHexDigit (c : Char) (v : Nat) : Prop :=
  "0123456789abcdef".toList[v]? = some c ∨ "0123456789ABCDEF".toList[v]? = some c

instance (c : Char) (v : Nat) : Decidable (IsHexDigit c v) := inferInstanceAs (Decidable (_ ∨ _))

/-- The two characters are the hexadecimal digits of the byte. -/
def HexDigits (a b : Char) (n : UInt8) : Prop :=
  ∃ high low, IsHexDigit a high ∧ IsHexDigit b low ∧ n.toNat = 16 * high + low

/-- The two characters are a plus sign and the hexadecimal digit of the byte. -/
def PlusDigit (a b : Char) (n : UInt8) : Prop := a = '+' ∧ IsHexDigit b n.toNat

section Digits

variable {a b c : Char} {n : UInt8} {v : Nat}

theorem hexDigit?_eq_none (hc : ¬ c.toNat < 0x80) : hexDigit? c = none := by
  have hdigit : ¬ c.isDigit = true := by
    rw [Char.isDigit_iff_toNat]
    show ¬ (48 ≤ c.toNat ∧ c.toNat ≤ 57)
    omega
  have hlower : ¬ ('a' ≤ c ∧ c ≤ 'f') := by
    rintro ⟨-, h⟩
    have hle : c.toNat ≤ 102 := h
    omega
  have hupper : ¬ ('A' ≤ c ∧ c ≤ 'F') := by
    rintro ⟨-, h⟩
    have hle : c.toNat ≤ 70 := h
    omega
  rw [hexDigit?, if_neg hdigit, if_neg hlower, if_neg hupper]

theorem IsHexDigit.lt (h : IsHexDigit c v) : v < 16 := by
  rcases h with h | h
  · exact (List.getElem?_eq_some_iff.1 h).1
  · exact (List.getElem?_eq_some_iff.1 h).1

theorem hexDigit?_eq_some : hexDigit? c = some v ↔ IsHexDigit c v := by
  constructor
  · intro h
    by_cases hc : c.toNat < 0x80
    · have hall : ∀ v ∈ hexDigit? c, IsHexDigit c v :=
        Text.of_ascii (P := fun c => ∀ v ∈ hexDigit? c, IsHexDigit c v) (by decide +kernel) hc
      exact hall v h
    · rw [hexDigit?_eq_none hc] at h
      cases h
  · intro h
    have hall : ∀ v < 16,
        ("0123456789abcdef".toList[v]?.all fun c => hexDigit? c == some v) = true ∧
          ("0123456789ABCDEF".toList[v]?.all fun c => hexDigit? c == some v) = true := by
      decide +kernel
    obtain ⟨hlower, hupper⟩ := hall v h.lt
    rcases h with h | h
    · rw [h] at hlower
      exact beq_iff_eq.1 hlower
    · rw [h] at hupper
      exact beq_iff_eq.1 hupper

theorem ofNat_eq_iff {m : Nat} (hm : m < UInt8.size) : UInt8.ofNat m = n ↔ n.toNat = m := by
  constructor
  · rintro rfl
    exact UInt8.toNat_ofNat_of_lt' hm
  · rintro rfl
    exact UInt8.ofNat_toNat

theorem hexDigits_iff : HexDigits a b n ↔
    ∃ low, hexDigit? b = some low ∧ ∃ high, hexDigit? a = some high ∧
      UInt8.ofNat (16 * high + low) = n := by
  have hsize : UInt8.size = 256 := rfl
  constructor
  · rintro ⟨high, low, ha, hb, hn⟩
    have hhigh := ha.lt
    have hlow := hb.lt
    exact ⟨low, hexDigit?_eq_some.2 hb, high, hexDigit?_eq_some.2 ha,
      (ofNat_eq_iff (by omega)).2 hn⟩
  · rintro ⟨low, hb, high, ha, hn⟩
    rw [hexDigit?_eq_some] at ha hb
    have hhigh := ha.lt
    have hlow := hb.lt
    exact ⟨high, low, ha, hb, (ofNat_eq_iff (by omega)).1 hn⟩

theorem plusDigit_iff :
    PlusDigit a b n ↔ ∃ low, hexDigit? b = some low ∧ a = '+' ∧ UInt8.ofNat low = n := by
  have hsize : UInt8.size = 256 := rfl
  constructor
  · rintro ⟨ha, hb⟩
    exact ⟨n.toNat, hexDigit?_eq_some.2 hb, ha, UInt8.ofNat_toNat⟩
  · rintro ⟨low, hb, ha, hn⟩
    rw [hexDigit?_eq_some] at hb
    have hlow := hb.lt
    rw [ofNat_eq_iff (by omega)] at hn
    exact ⟨ha, hn ▸ hb⟩

/-- **A pair is read when it is of two digits, or of a plus sign and a digit.** -/
theorem hexByte?_eq_some : hexByte? a b = some n ↔ HexDigits a b n ∨ PlusDigit a b n := by
  rw [hexDigits_iff, plusDigit_iff]
  unfold hexByte?
  cases hexDigit? b with
  | none => simp
  | some low =>
    by_cases ha : a = '+'
    · have hplus : hexDigit? '+' = none := by decide
      simp [ha, hplus]
    · simp [ha]

/-- A plus sign is no digit. -/
theorem HexDigits.ne_plus (h : HexDigits a b n) : a ≠ '+' ∧ b ≠ '+' := by
  have hplus : ∀ {v : Nat}, ¬ IsHexDigit '+' v := by
    intro v hv
    rw [← hexDigit?_eq_some] at hv
    cases hv
  obtain ⟨high, low, ha, hb, -⟩ := h
  exact ⟨fun heq => hplus (heq ▸ ha), fun heq => hplus (heq ▸ hb)⟩

/-! ## Bytes -/

theorem utf8Size_of_hexDigit? (h : hexDigit? c = some v) : c.utf8Size = 1 := by
  have hc : c.toNat < 0x80 := by
    refine Decidable.byContradiction fun hc => ?_
    rw [hexDigit?_eq_none hc] at h
    cases h
  exact Text.of_ascii (P := fun c => c.utf8Size = 1) (by decide) hc

/-- The characters of a pair are bytes. -/
theorem utf8Size_of_hexByte? (h : hexByte? a b = some n) : a.utf8Size = 1 ∧ b.utf8Size = 1 := by
  rcases hexByte?_eq_some.1 h with ⟨high, low, ha, hb, -⟩ | ⟨rfl, hb⟩
  · exact ⟨utf8Size_of_hexDigit? (hexDigit?_eq_some.2 ha),
      utf8Size_of_hexDigit? (hexDigit?_eq_some.2 hb)⟩
  · exact ⟨rfl, utf8Size_of_hexDigit? (hexDigit?_eq_some.2 hb)⟩

end Digits

/-- Reads hexadecimal digits and keeps a number of eight bits. -/
def accumulateHex? : Nat → List Char → Option Nat
  | n, [] => some n
  | n, c :: cs =>
    (hexDigit? c).bind fun digit =>
      if 16 * n + digit < UInt8.size then accumulateHex? (16 * n + digit) cs else none

/-- Reads a hexadecimal numeral of eight bits, of any number of digits, that may have a plus sign
in front. -/
def hexNumeral? : List Char → Option UInt8
  | [] => none
  | ['+'] => none
  | '+' :: cs => (accumulateHex? 0 cs).map UInt8.ofNat
  | cs => (accumulateHex? 0 cs).map UInt8.ofNat

/-- A numeral of one digit. -/
theorem accumulateHex?_single (b : Char) : accumulateHex? 0 [b] = hexDigit? b := by
  cases hb : hexDigit? b with
  | none => simp [accumulateHex?, hb]
  | some low =>
    have hsize : UInt8.size = 256 := rfl
    have hlow := (hexDigit?_eq_some.1 hb).lt
    have hfits : low < UInt8.size := by omega
    simp [accumulateHex?, hb, hfits]

/-- **A numeral of two characters is a pair.** -/
theorem hexNumeral?_pair (a b : Char) : hexNumeral? [a, b] = hexByte? a b := by
  unfold hexByte?
  by_cases ha : a = '+'
  · rw [ha, hexNumeral?, accumulateHex?_single]
    · cases hexDigit? b <;> rfl
    · simp
  · have hread : hexNumeral? [a, b] = (accumulateHex? 0 [a, b]).map UInt8.ofNat := by
      simp [hexNumeral?, ha]
    rw [hread, accumulateHex?]
    cases hhigh : hexDigit? a with
    | none => cases hexDigit? b <;> simp [ha]
    | some high =>
      have hsize : UInt8.size = 256 := rfl
      have hlt := (hexDigit?_eq_some.1 hhigh).lt
      have hfits : 16 * 0 + high < UInt8.size := by omega
      rw [Option.bind_some, if_pos hfits, accumulateHex?]
      cases hlow : hexDigit? b with
      | none => rfl
      | some low =>
        have hlt' := (hexDigit?_eq_some.1 hlow).lt
        have hfits' : 16 * high + low < UInt8.size := by omega
        simp [accumulateHex?, ha, hfits']

/-- A numeral of one character is a digit. -/
theorem hexNumeral?_single (a : Char) :
    hexNumeral? [a] = (hexDigit? a).map UInt8.ofNat := by
  by_cases ha : a = '+'
  · rw [ha]
    decide
  · have hread : hexNumeral? [a] = (accumulateHex? 0 [a]).map UInt8.ofNat := by
      simp [hexNumeral?, ha]
    rw [hread, accumulateHex?_single]

end Numeral

namespace Color

open Numeral Tokens
open Editor.Indexed (cutAt?)

/-! ## Written colors -/

/-- The color in hexadecimal, where a pair of characters writes a channel as `W` says. -/
inductive WrittenBy (W : Char → Char → UInt8 → Prop) : List Char → Color → Prop
  | solid {r r' g g' b b' : Char} {red green blue : UInt8} (first : W r r' red)
    (second : W g g' green) (third : W b b' blue) :
    WrittenBy W ['#', r, r', g, g', b, b'] (solid red green blue)
  | withAlpha {r r' g g' b b' a a' : Char} {red green blue alpha : UInt8} (first : W r r' red)
    (second : W g g' green) (third : W b b' blue) (fourth : W a a' alpha) :
    WrittenBy W ['#', r, r', g, g', b, b', a, a'] ⟨red, green, blue, alpha⟩

/-- The color is written in pairs of hexadecimal digits. -/
def IsHex : List Char → Color → Prop := WrittenBy HexDigits

/-- The color is written in pairs of hexadecimal digits, or of a plus sign and one digit. -/
def IsLooseHex : List Char → Color → Prop :=
  WrittenBy fun a b n => HexDigits a b n ∨ PlusDigit a b n

variable {cs : List Char} {color : Color} {s : String}

theorem WrittenBy.mono {V W : Char → Char → UInt8 → Prop} (h : WrittenBy V cs color)
    (hVW : ∀ a ∈ cs, ∀ b n, V a b n → W a b n) : WrittenBy W cs color := by
  cases h with
  | solid first second third =>
    exact .solid (hVW _ (by simp) _ _ first) (hVW _ (by simp) _ _ second)
      (hVW _ (by simp) _ _ third)
  | withAlpha first second third fourth =>
    exact .withAlpha (hVW _ (by simp) _ _ first) (hVW _ (by simp) _ _ second)
      (hVW _ (by simp) _ _ third) (hVW _ (by simp) _ _ fourth)

/-- A color is read from its pairs. -/
theorem ofHex?_iff_pairs :
    ofHex? s = some color ↔ WrittenBy (fun a b n => hexByte? a b = some n) s.toList color := by
  constructor
  · intro h
    unfold ofHex? at h
    split at h
    · rename_i r r' g g' b b' hs
      simp only [Option.bind_eq_bind, Option.bind_eq_some_iff, Option.pure_def,
        Option.some.injEq] at h
      obtain ⟨red, hred, green, hgreen, blue, hblue, rfl⟩ := h
      exact hs ▸ .solid hred hgreen hblue
    · rename_i r r' g g' b b' a a' hs
      simp only [Option.bind_eq_bind, Option.bind_eq_some_iff, Option.pure_def,
        Option.some.injEq] at h
      obtain ⟨red, hred, green, hgreen, blue, hblue, alpha, halpha, rfl⟩ := h
      exact hs ▸ .withAlpha hred hgreen hblue halpha
    · cases h
  · intro h
    unfold ofHex?
    generalize s.toList = cs at h
    cases h with
    | solid first second third => simp [first, second, third]
    | withAlpha first second third fourth => simp [first, second, third, fourth]

/-- **A color is read when it is written in pairs of digits, or of a plus sign and a digit.** -/
theorem ofHex?_eq_some : ofHex? s = some color ↔ IsLooseHex s.toList color := by
  rw [ofHex?_iff_pairs, IsLooseHex]
  exact ⟨fun h => h.mono fun _ _ _ _ => hexByte?_eq_some.1,
    fun h => h.mono fun _ _ _ _ => hexByte?_eq_some.2⟩

theorem IsHex.loose (h : IsHex cs color) : IsLooseHex cs color := h.mono fun _ _ _ _ => .inl

/-- Without a plus sign there are pairs of digits only. -/
theorem IsLooseHex.strict (h : IsLooseHex cs color) (hplus : '+' ∉ cs) : IsHex cs color := by
  refine h.mono fun a ha b n hpair => ?_
  rcases hpair with hdigits | ⟨rfl, -⟩
  · exact hdigits
  · exact absurd ha hplus

theorem IsHex.plus_not_mem (h : IsHex cs color) : '+' ∉ cs := by
  cases h with
  | solid first second third =>
    simp [first.ne_plus.1.symm, first.ne_plus.2.symm, second.ne_plus.1.symm,
      second.ne_plus.2.symm, third.ne_plus.1.symm, third.ne_plus.2.symm]
  | withAlpha first second third fourth =>
    simp [first.ne_plus.1.symm, first.ne_plus.2.symm, second.ne_plus.1.symm,
      second.ne_plus.2.symm, third.ne_plus.1.symm, third.ne_plus.2.symm, fourth.ne_plus.1.symm,
      fourth.ne_plus.2.symm]

/-- **A text is read in pairs of digits only** exactly when it has no plus sign or is refused. -/
theorem reads_strictly_iff : (∀ color, ofHex? s = some color ↔ IsHex s.toList color) ↔
    ('+' ∈ s.toList → ofHex? s = none) := by
  constructor
  · intro hstrict hplus
    refine Option.eq_none_iff_forall_ne_some.2 fun color hcolor => ?_
    exact ((hstrict color).1 hcolor).plus_not_mem hplus
  · intro hrefused color
    refine ⟨fun hcolor => ?_, fun hhex => ofHex?_eq_some.2 hhex.loose⟩
    refine (ofHex?_eq_some.1 hcolor).strict fun hplus => ?_
    rw [hrefused hplus] at hcolor
    cases hcolor

/-! ## Reading bytes -/

/-- The channel that starts at an offset in bytes. -/
def channel? (cs : List Char) (start : Nat) : Option UInt8 :=
  (slice? cs start (start + 2)).bind hexNumeral?

/-- The color that a text writes, read from the offsets of its bytes. -/
def ofHexBytes? (s : String) : Option Color :=
  match s.toList with
  | '#' :: cs =>
    if byteLength cs = 6 then do
      return solid (← channel? cs 0) (← channel? cs 2) (← channel? cs 4)
    else if byteLength cs = 8 then do
      return ⟨← channel? cs 0, ← channel? cs 2, ← channel? cs 4, ← channel? cs 6⟩
    else none
  | _ => none

section Bytes

variable {a b : Char} {n : UInt8}

theorem cutAt?_two_bytes (ha : a.utf8Size = 1) (hb : b.utf8Size = 1) (k : Nat) :
    cutAt? (a :: b :: cs) (k + 2) =
      (cutAt? cs k).map fun (before, after) => (a :: b :: before, after) := by
  have hk : k + 2 = a.utf8Size + (b.utf8Size + k) := by omega
  rw [hk, Editor.Indexed.cutAt?_cons, Editor.Indexed.cutAt?_cons, Option.map_map]
  rfl

/-- **Behind a pair the channels start two bytes later.** -/
theorem channel?_add_two (h : hexByte? a b = some n) (start : Nat) :
    channel? (a :: b :: cs) (start + 2) = channel? cs start := by
  obtain ⟨ha, hb⟩ := utf8Size_of_hexByte? h
  unfold channel? slice?
  rw [cutAt?_two_bytes ha hb]
  cases hcut : cutAt? cs (start + 2) with
  | none => rfl
  | some halves =>
    show (((cutAt? (a :: b :: halves.1) (start + 2)).bind _).bind _) = _
    rw [cutAt?_two_bytes ha hb]
    cases hcut' : cutAt? halves.1 start with
    | none => simp [hcut']
    | some halves' => simp [hcut']

/-- A cut leaves the text as it is, and has so many bytes before it. -/
theorem append_of_cutAt? {front after : List Char} {k : Nat}
    (h : cutAt? cs k = some (front, after)) : cs = front ++ after ∧ byteLength front = k := by
  fun_induction cutAt? cs k generalizing front with
  | case1 cs =>
    cases h
    exact ⟨rfl, rfl⟩
  | case2 => cases h
  | case3 c cs k hfits ih =>
    obtain ⟨⟨before, after'⟩, hcut, ⟨⟩⟩ := Option.map_eq_some_iff.1 h
    obtain ⟨rfl, hlength⟩ := ih hcut
    refine ⟨rfl, ?_⟩
    rw [byteLength, List.map_cons, List.sum_cons, ← byteLength, hlength]
    omega
  | case4 => cases h

/-- Two bytes are two characters or one. -/
theorem of_byteLength_two {front : List Char} (h : byteLength front = 2) :
    (∃ a b, front = [a, b]) ∨ ∃ a, front = [a] ∧ a.utf8Size = 2 := by
  match front, h with
  | [a], h => exact .inr ⟨a, rfl, h⟩
  | [a, b], _ => exact .inl ⟨a, b, rfl⟩
  | a :: b :: c :: rest, h =>
    have ha := a.utf8Size_pos
    have hb := b.utf8Size_pos
    have hc := c.utf8Size_pos
    simp only [byteLength, List.map_cons, List.sum_cons] at h
    omega

/-- At the start of a text the channel is that of the first two characters. -/
theorem channel?_zero : channel? cs 0 = some n ↔
    ∃ a b rest, cs = a :: b :: rest ∧ hexByte? a b = some n := by
  have hslice : slice? cs 0 2 = (cutAt? cs 2).map Prod.fst := by
    unfold slice?
    cases cutAt? cs 2 with
    | none => rfl
    | some halves => simp [cutAt?]
  unfold channel?
  rw [Nat.zero_add, hslice]
  constructor
  · intro h
    obtain ⟨front, hfront, hn⟩ := Option.bind_eq_some_iff.1 h
    obtain ⟨⟨front, rest⟩, hcut, rfl⟩ := Option.map_eq_some_iff.1 hfront
    obtain ⟨rfl, hlength⟩ := append_of_cutAt? hcut
    rcases of_byteLength_two hlength with ⟨a, b, rfl⟩ | ⟨a, rfl, ha⟩
    · exact ⟨a, b, rest, rfl, hexNumeral?_pair a b ▸ hn⟩
    · -- A character of two bytes is no digit.
      obtain ⟨v, hv, -⟩ := Option.map_eq_some_iff.1 (hexNumeral?_single a ▸ hn)
      rw [utf8Size_of_hexDigit? hv] at ha
      cases ha
  · rintro ⟨a, b, rest, rfl, h⟩
    obtain ⟨ha, hb⟩ := utf8Size_of_hexByte? h
    rw [cutAt?_two_bytes (k := 0) ha hb, cutAt?, Option.map_some, Option.map_some,
      Option.bind_some, hexNumeral?_pair, h]

theorem byteLength_pair (h : hexByte? a b = some n) (cs : List Char) :
    byteLength (a :: b :: cs) = byteLength cs + 2 := by
  obtain ⟨ha, hb⟩ := utf8Size_of_hexByte? h
  rw [byteLength, List.map_cons, List.map_cons, List.sum_cons, List.sum_cons, ha, hb, ← byteLength]
  omega

theorem byteLength_eq_zero : byteLength cs = 0 ↔ cs = [] := by
  have h : byteLength [] = byteLength ([] ++ cs) ↔ cs = [] := byteLength_append_eq_iff
  rwa [List.nil_append, eq_comm] at h

/-- Three channels are those of the first three pairs. -/
theorem three_channels_iff {red green blue : UInt8} :
    (channel? cs 0 = some red ∧ channel? cs 2 = some green ∧ channel? cs 4 = some blue) ↔
      ∃ r r' g g' b b' rest, cs = r :: r' :: g :: g' :: b :: b' :: rest ∧
        hexByte? r r' = some red ∧ hexByte? g g' = some green ∧ hexByte? b b' = some blue := by
  constructor
  · rintro ⟨hred, hgreen, hblue⟩
    obtain ⟨r, r', cs, rfl, hr⟩ := channel?_zero.1 hred
    rw [channel?_add_two hr] at hgreen hblue
    obtain ⟨g, g', cs, rfl, hg⟩ := channel?_zero.1 hgreen
    rw [channel?_add_two hg] at hblue
    obtain ⟨b, b', cs, rfl, hb⟩ := channel?_zero.1 hblue
    exact ⟨r, r', g, g', b, b', cs, rfl, hr, hg, hb⟩
  · rintro ⟨r, r', g, g', b, b', cs, rfl, hr, hg, hb⟩
    refine ⟨channel?_zero.2 ⟨_, _, _, rfl, hr⟩, ?_, ?_⟩
    · rw [channel?_add_two hr]
      exact channel?_zero.2 ⟨_, _, _, rfl, hg⟩
    · rw [channel?_add_two hr, channel?_add_two hg]
      exact channel?_zero.2 ⟨_, _, _, rfl, hb⟩

end Bytes

/-- **From the bytes of a text the same color is read.** -/
theorem ofHexBytes?_eq (s : String) : ofHexBytes? s = ofHex? s := by
  refine Option.ext fun color => ?_
  rw [ofHex?_iff_pairs]
  unfold ofHexBytes?
  generalize s.toList = cs
  constructor
  · intro h
    split at h
    · rename_i cs
      split at h
      · rename_i hlength
        simp only [Option.bind_eq_bind, Option.bind_eq_some_iff, Option.pure_def,
          Option.some.injEq] at h
        obtain ⟨red, hred, green, hgreen, blue, hblue, rfl⟩ := h
        obtain ⟨r, r', g, g', b, b', rest, rfl, hr, hg, hb⟩ :=
          three_channels_iff.1 ⟨hred, hgreen, hblue⟩
        rw [byteLength_pair hr, byteLength_pair hg, byteLength_pair hb] at hlength
        obtain rfl := byteLength_eq_zero.1 (show byteLength rest = 0 by omega)
        exact .solid hr hg hb
      · split at h
        · rename_i hlength
          simp only [Option.bind_eq_bind, Option.bind_eq_some_iff, Option.pure_def,
            Option.some.injEq] at h
          obtain ⟨red, hred, green, hgreen, blue, hblue, alpha, halpha, rfl⟩ := h
          obtain ⟨r, r', g, g', b, b', rest, rfl, hr, hg, hb⟩ :=
            three_channels_iff.1 ⟨hred, hgreen, hblue⟩
          rw [channel?_add_two hr, channel?_add_two hg, channel?_add_two hb] at halpha
          obtain ⟨a, a', rest, rfl, ha⟩ := channel?_zero.1 halpha
          rw [byteLength_pair hr, byteLength_pair hg, byteLength_pair hb, byteLength_pair ha]
            at hlength
          obtain rfl := byteLength_eq_zero.1 (show byteLength rest = 0 by omega)
          exact .withAlpha hr hg hb ha
        · cases h
    · cases h
  · intro h
    cases h with
    | @solid r r' g g' b b' _ _ _ hr hg hb =>
      obtain ⟨hred, hgreen, hblue⟩ :=
        three_channels_iff.2 ⟨r, r', g, g', b, b', [], rfl, hr, hg, hb⟩
      have hlength : byteLength [r, r', g, g', b, b'] = 6 := by
        rw [byteLength_pair hr, byteLength_pair hg, byteLength_pair hb, byteLength_eq_zero.2 rfl]
      show (if byteLength _ = 6 then _ else _) = _
      rw [if_pos hlength, hred, hgreen, hblue]
      rfl
    | @withAlpha r r' g g' b b' a a' _ _ _ _ hr hg hb ha =>
      obtain ⟨hred, hgreen, hblue⟩ :=
        three_channels_iff.2 ⟨r, r', g, g', b, b', [a, a'], rfl, hr, hg, hb⟩
      have halpha : channel? [r, r', g, g', b, b', a, a'] 6 = hexByte? a a' := by
        rw [channel?_add_two hr, channel?_add_two hg, channel?_add_two hb]
        exact (channel?_zero.2 ⟨a, a', [], rfl, ha⟩).trans ha.symm
      have hlength : byteLength [r, r', g, g', b, b', a, a'] = 8 := by
        rw [byteLength_pair hr, byteLength_pair hg, byteLength_pair hb, byteLength_pair ha,
          byteLength_eq_zero.2 rfl]
      show (if byteLength _ = 6 then _ else if byteLength _ = 8 then _ else _) = _
      rw [if_neg (by omega), if_pos hlength, hred, hgreen, hblue, halpha, ha]
      rfl

end Color

/-! ## Backgrounds -/

namespace Config

/-- A configuration without a fault gets one from another background only if that is no color. -/
theorem fault?_withBackground {c : Config} (h : c.fault? = none) (text : String) :
    ({ c with background := text } : Config).fault? =
      if (Color.ofHex? text).isNone then some (.invalidBackground text) else none := by
  -- The other checks come first, look at other settings and are passed.
  unfold fault? at h
  split at h
  · cases h
  rename_i hlines
  split at h
  · cases h
  rename_i hkey
  split at h
  · cases h
  rename_i hperiod
  exact (if_neg hlines).trans ((if_neg hkey).trans (if_neg hperiod))

/-- A configuration without a fault has a color for its background. -/
theorem exists_background {c : Config} (h : c.fault? = none) :
    Color.ofHex? c.background = some c.backgroundColor := by
  have hsame := (fault?_withBackground h c.background).symm.trans h
  unfold backgroundColor
  cases hcolor : Color.ofHex? c.background with
  | none =>
    rw [hcolor] at hsame
    cases hsame
  | some color => rfl

theorem of_ofToml {text : String} {c : Config} (h : Config.ofToml text = .ok c) :
    c.fault? = none := by
  unfold Config.ofToml at h
  split at h
  · cases h
  · rename_i config _
    unfold validate at h
    split at h
    · cases h
    · rename_i hfault
      cases h
      exact hfault

end Config

namespace Color

/-- **A color is read from a number sign and three or four pairs.**  Each pair is of two hexadecimal
digits in any case and stands for their value, or of a plus sign and one digit and stands for that.
So a text in pairs of digits is read as its color, without alpha as a solid one, and it is only such
texts that are read exactly where the text has no plus sign or is refused.  From the bytes of a
text, where the length is a number of bytes and a pair is what stands between two offsets and is
read as a numeral, comes the same.  With this text for its background a configuration without a
fault is refused for it exactly when it is no color in such pairs, and no document with a background
that is none is accepted. -/
theorem hex_of_digits_or_plus (s : String) :
    (∀ color, ofHex? s = some color ↔ IsLooseHex s.toList color) ∧
    (∀ color, IsHex s.toList color → ofHex? s = some color) ∧
    ((∀ color, ofHex? s = some color ↔ IsHex s.toList color) ↔
      ('+' ∈ s.toList → ofHex? s = none)) ∧
    ofHexBytes? s = ofHex? s ∧
    (∀ c : Config, c.fault? = none →
      (({ c with background := s } : Config).fault? = some (.invalidBackground s) ↔
        ∀ color, ¬ IsLooseHex s.toList color)) ∧
    ∀ (text : String) (c : Config), Config.ofToml text = .ok c → c.background = s →
      IsLooseHex s.toList c.backgroundColor := by
  refine ⟨fun color => ofHex?_eq_some, fun color h => ofHex?_eq_some.2 h.loose,
    reads_strictly_iff, ofHexBytes?_eq s, fun c h => ?_, fun text c h hs => ?_⟩
  · rw [Config.fault?_withBackground h]
    simp only [← ofHex?_eq_some]
    cases ofHex? s with
    | none => simp
    | some color => simp
  · exact hs ▸ ofHex?_eq_some.1 (Config.exists_background (Config.of_ofToml h))

/-- A color with alpha in both cases of digits is read, and a text with a character of two bytes in
the place of two digits is not, so a configuration with it is refused. -/
theorem hex_of_digits_or_plus_accent :
    (IsHex "#fF000080".toList ⟨255, 0, 0, 128⟩ ∧ ofHex? "#fF000080" = some ⟨255, 0, 0, 128⟩) ∧
    (ofHexBytes? "#é1414" = none ∧ ∀ color, ¬ IsHex "#é1414".toList color) ∧
    ((({} : Config).fault? = none ∧ ∀ color, ¬ IsLooseHex "#é1414".toList color) ∧
      ({ background := "#é1414" } : Config).fault? = some (.invalidBackground "#é1414")) ∧
    ∃ config, Config.ofToml "background = \"#0A0a0A\"" = .ok config ∧
      config.background = "#0A0a0A" ∧ IsLooseHex "#0A0a0A".toList config.backgroundColor := by
  have hhex : IsHex "#fF000080".toList ⟨255, 0, 0, 128⟩ :=
    .withAlpha ⟨15, 15, by decide, by decide, rfl⟩ ⟨0, 0, by decide, by decide, rfl⟩
      ⟨0, 0, by decide, by decide, rfl⟩ ⟨8, 0, by decide, by decide, rfl⟩
  have hnone : ofHex? "#é1414" = none := by decide +kernel
  have hdefault : ({} : Config).fault? = none := by decide +kernel
  obtain ⟨-, hread, -⟩ := hex_of_digits_or_plus "#fF000080"
  obtain ⟨hloose, -, hstrict, hbytes, hconfig, -⟩ := hex_of_digits_or_plus "#é1414"
  obtain ⟨-, -, -, -, -, htoml⟩ := hex_of_digits_or_plus "#0A0a0A"
  have hnot : ∀ color, ¬ IsLooseHex "#é1414".toList color := by
    intro color hcolor
    rw [← hloose, hnone] at hcolor
    cases hcolor
  obtain ⟨config, hdocument, hbackground⟩ := Config.exists_of_any
    "background = \"#0A0a0A\"" (fun config => config.background == "#0A0a0A")
    (by decide +kernel)
  rw [beq_iff_eq] at hbackground
  refine ⟨⟨hhex, hread _ hhex⟩, ⟨hbytes.trans hnone, fun color hcolor => ?_⟩,
    ⟨⟨hdefault, hnot⟩, (hconfig {} hdefault).2 hnot⟩, config, hdocument, hbackground,
    htoml _ _ hdocument hbackground⟩
  rw [← hstrict.2 (fun _ => hnone), hnone] at hcolor
  cases hcolor

/-- A text with three plus signs is read as a color, although it is not written in digits, and a
configuration with it for its background has no fault. -/
theorem plus_signs_read :
    ofHex? "#+f+f+f" = some (solid 15 15 15) ∧ (∀ color, ¬ IsHex "#+f+f+f".toList color) ∧
      ({ background := "#+f+f+f" } : Config).fault? = none :=
  ⟨by decide +kernel, fun _ h => h.plus_not_mem (by decide), by decide +kernel⟩

end Color

end DevConsole
