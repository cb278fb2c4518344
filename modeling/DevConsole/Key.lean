import DevConsole.Numeral
import DevConsole.Text.Case

/-! # Keys

The keys of a keyboard, their numeric codes and their names.  A key that prints a
character is known by that character; letters report the code of the upper-case
letter.  Names are compared in ASCII case, and a name of one character is that
character's key.

`shifted?` is what the shift key makes of a character on the US layout.
-/
namespace DevConsole

/-- A key of the keyboard. -/
inductive Key where
  | char (c : Char)
  | function (n : UInt8)
  | escape
  | enter
  | tab
  | backspace
  | insert
  | delete
  | right
  | left
  | down
  | up
  | pageUp
  | pageDown
  | home
  | endKey
  | leftShift
  | leftControl
  | leftAlt
  | rightShift
  | rightControl
  | rightAlt
deriving DecidableEq

/-- Which of the two modifiers that matter are held. -/
structure Modifiers where
  shift : Bool := false
  control : Bool := false
deriving DecidableEq

namespace Key

/-- The grave accent key. -/
def grave : Key := char '\x60'

/-- The numeric code of a key.  Function keys beyond the twelfth report the code of the
twelfth, and a function key zero that of the first. -/
def code : Key → Nat
  | char c => if c.isLower then c.toUpper.toNat else c.toNat
  | function n => 289 + min (max n.toNat 1) 12
  | escape => 256
  | enter => 257
  | tab => 258
  | backspace => 259
  | insert => 260
  | delete => 261
  | right => 262
  | left => 263
  | down => 264
  | up => 265
  | pageUp => 266
  | pageDown => 267
  | home => 268
  | endKey => 269
  | leftShift => 340
  | leftControl => 341
  | leftAlt => 342
  | rightShift => 344
  | rightControl => 345
  | rightAlt => 346

/-- Shift, control and alt on either side. -/
def isModifier : Key → Bool
  | leftShift | rightShift | leftControl | rightControl | leftAlt | rightAlt => true
  | _ => false

/-- The keys with a name of their own. -/
def named : List (String × Key) := [
  ("space", char ' '), ("apostrophe", char '\''), ("comma", char ','), ("minus", char '-'),
  ("period", char '.'), ("slash", char '/'), ("zero", char '0'), ("one", char '1'),
  ("two", char '2'), ("three", char '3'), ("four", char '4'), ("five", char '5'),
  ("six", char '6'), ("seven", char '7'), ("eight", char '8'), ("nine", char '9'),
  ("semicolon", char ';'), ("equal", char '='), ("left_bracket", char '['),
  ("backslash", char '\\'), ("right_bracket", char ']'), ("grave", grave),
  ("escape", escape), ("enter", enter), ("tab", tab), ("backspace", backspace),
  ("insert", insert), ("delete", delete), ("right", right), ("left", left),
  ("down", down), ("up", up), ("page_up", pageUp), ("page_down", pageDown),
  ("home", home), ("end", endKey), ("left_shift", leftShift),
  ("left_control", leftControl), ("left_alt", leftAlt), ("right_shift", rightShift),
  ("right_control", rightControl), ("right_alt", rightAlt)]

/-- The function key that a name spells: the letter F and a number from one to twelve. -/
def functionOfName? (cs : List Char) : Option Key :=
  match cs with
  | f :: digits =>
    if f = 'f' ∨ f = 'F' then
      (Numeral.unsignedDecimal? digits).bind fun n =>
        if 1 ≤ n ∧ n ≤ 12 then some (function (UInt8.ofNat n)) else none
    else none
  | [] => none

/-- The key of a name: one character, a function key, or a named key. -/
def ofName? (name : String) : Option Key :=
  match name.toList with
  | [c] => some (char c.toLower)
  | cs =>
    (functionOfName? cs).or
      ((named.find? fun entry => Text.sameIgnoringAsciiCase entry.1 name).map Prod.snd)

/-- The modifiers that are held when the keys in `held` are: either side counts. -/
def modifiersOf (held : Key → Bool) : Modifiers where
  shift := held leftShift || held rightShift
  control := held leftControl || held rightControl

/-- The keys that shift changes on the US layout, letters apart. -/
def shiftPairs : List (Char × Char) := [
  ('1', '!'), ('2', '@'), ('3', '#'), ('4', '$'), ('5', '%'), ('6', '^'), ('7', '&'),
  ('8', '*'), ('9', '('), ('0', ')'), ('-', '_'), ('=', '+'), ('[', '\x7b'), (']', '\x7d'),
  (';', ':'), ('\'', '"'), (',', '<'), ('.', '>'), ('/', '?'), ('\\', '|'), ('\x60', '~')]

/-- The character that a character key gives while shift is held, if it is another. -/
def shifted? (c : Char) : Option Char :=
  if c.isLower then some c.toUpper else shiftPairs.lookup c

/-- The character that a character key gives under the modifiers. -/
def typed (m : Modifiers) (c : Char) : Char :=
  if m.shift then (shifted? c).getD c else c

end Key

end DevConsole
