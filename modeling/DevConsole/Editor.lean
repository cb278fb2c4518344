import DevConsole.Binary32.Basic
import DevConsole.Key

/-! # The line editor

One line of text with a cursor in it.  The text is kept as what stands before the cursor,
nearest character first, and what stands after it; so the cursor is always in the text,
and every edit happens at the cursor.

Submitted lines are kept, the newest first.  While the line is empty or shows one of
them, the keys up and down walk through them: position zero is the empty line, position
`n` the `n`-th newest one.  The cursor blinks: it shows in the first half of each period,
and editing starts a new period.
-/
namespace DevConsole

/-- A line under edit. -/
structure Editor where
  /-- The characters before the cursor, nearest first. -/
  before : List Char := []
  /-- The characters after the cursor. -/
  after : List Char := []
  /-- The submitted lines, newest first. -/
  history : List String := []
  /-- The position in the submitted lines, while the line shows one of them. -/
  browsing : Option Nat := none
  /-- The seconds since the cursor last started to blink. -/
  timer : Binary32 := .zero
  /-- The seconds in which the cursor shows and hides once. -/
  period : Binary32

namespace Editor

/-- What a key asks of the console. -/
inductive Response where
  | nothing
  | close
  | submit (line : String)
deriving DecidableEq

/-- An empty line whose cursor blinks in the given period, or in one second when that is
not positive. -/
def ofPeriod (period : Binary32) : Editor :=
  { period := if Binary32.zero.lt period then period else .ofNat 1 }

/-! ## What a line shows -/

/-- The characters of the line. -/
def chars (e : Editor) : List Char := e.before.reverse ++ e.after

/-- The line. -/
def text (e : Editor) : String := String.ofList e.chars

/-- The number of characters before the cursor. -/
def cursor (e : Editor) : Nat := e.before.length

/-- Whether nothing is in the line. -/
def isEmpty (e : Editor) : Bool := e.before.isEmpty && e.after.isEmpty

/-- Whether the line shows a submitted line, or the empty line before them all. -/
def isBrowsing (e : Editor) : Bool := e.browsing.isSome

/-- The number of the submitted line that is shown, zero for none. -/
def position (e : Editor) : Nat := e.browsing.getD 0

/-- Whether the cursor shows. -/
def cursorVisible (e : Editor) : Bool := e.timer.lt e.period.half

/-! ## Moving and changing -/

/-- Lets `dt` seconds pass. -/
def tick (dt : Binary32) (e : Editor) : Editor := { e with timer := (e.timer + dt).rem e.period }

/-- Starts a new period of the cursor. -/
def restartBlink (e : Editor) : Editor := { e with timer := .zero }

/-- The line is no longer one of the submitted ones. -/
def stopBrowsing (e : Editor) : Editor := { e with browsing := none }

/-- The number of characters that a jump to the left passes: one, and all before it up
to a space. -/
def wordLeft : List Char → Nat
  | [] => 0
  | _ :: rest => (rest.takeWhile (· != ' ')).length + 1

/-- The number of characters that a jump to the right passes: one, and all after it up
to a space. -/
def wordRight : List Char → Nat
  | [] => 0
  | _ :: rest => (rest.takeWhile (· != ' ')).length + 1

/-- How far a step to the left goes: a word with control, a character without. -/
def stepLeft (m : Modifiers) (e : Editor) : Nat :=
  if m.control then wordLeft e.before else min 1 e.before.length

/-- How far a step to the right goes: a word with control, a character without. -/
def stepRight (m : Modifiers) (e : Editor) : Nat :=
  if m.control then wordRight e.after else min 1 e.after.length

/-- Puts characters in at the cursor, which ends up after them. -/
def insert (cs : List Char) (e : Editor) : Editor := { e with before := cs.reverse ++ e.before }

/-- Takes out the `n` characters before the cursor. -/
def erase (n : Nat) (e : Editor) : Editor := { e with before := e.before.drop n }

/-- Moves the cursor `n` characters to the left. -/
def moveLeft (n : Nat) (e : Editor) : Editor :=
  { e with before := e.before.drop n, after := (e.before.take n).reverse ++ e.after }

/-- Moves the cursor `n` characters to the right. -/
def moveRight (n : Nat) (e : Editor) : Editor :=
  { e with before := (e.after.take n).reverse ++ e.before, after := e.after.drop n }

/-! ## Submitted lines -/

/-- The submitted line at a position, counted from one; nothing at zero. -/
def entry (history : List String) (position : Nat) : String :=
  if position = 0 then "" else history.getD (position - 1) ""

/-- Shows the submitted line at a position, with the cursor at its end. -/
def select (position : Nat) (e : Editor) : Editor :=
  { e with
    browsing := some position
    before := (entry e.history position).toList.reverse
    after := [] }

/-- Goes to the next older submitted line. -/
def older (e : Editor) : Editor := e.select (min (e.position + 1) e.history.length)

/-- Goes to the next newer submitted line. -/
def newer (e : Editor) : Editor := e.select (min (e.position - 1) e.history.length)

/-- Whether up and down walk through the submitted lines. -/
def canBrowse (e : Editor) : Bool := e.isBrowsing || e.isEmpty

/-- Keeps the line, unless it is empty, and starts an empty one. -/
def submit (e : Editor) : Editor :=
  { e with
    before := []
    after := []
    browsing := none
    history := if e.isEmpty then e.history else e.text :: e.history }

/-! ## Keys -/

/-- Whether a character is a control character. -/
def isControl (c : Char) : Bool := c.toNat < 0x20 || (0x7F ≤ c.toNat && c.toNat ≤ 0x9F)

/-- The characters of a text that can stand in a line. -/
def pasteable (text : String) : List Char := text.toList.filter fun c => !isControl c

/-- The line, the clipboard and the response after one key. -/
def press (key : Key) (m : Modifiers) (clipboard : String) (e : Editor) :
    Editor × String × Response :=
  match key with
  | .escape => (e, clipboard, .close)
  | .backspace =>
    if e.before.isEmpty then (e.restartBlink, clipboard, .nothing)
    else ((e.erase (e.stepLeft m)).stopBrowsing.restartBlink, clipboard, .nothing)
  | .left => ((e.moveLeft (e.stepLeft m)).restartBlink, clipboard, .nothing)
  | .right => ((e.moveRight (e.stepRight m)).restartBlink, clipboard, .nothing)
  | .up => (if e.canBrowse then e.older else e, clipboard, .nothing)
  | .down => (if e.canBrowse then e.newer else e, clipboard, .nothing)
  | .enter => (e.submit, clipboard, .submit e.text)
  | .char c =>
    if m.control then
      match c.toLower with
      | 'c' => (e, e.text, .nothing)
      | 'v' => (e.insert (pasteable clipboard), clipboard, .nothing)
      | _ => (e, clipboard, .nothing)
    else ((e.insert [Key.typed m c]).stopBrowsing.restartBlink, clipboard, .nothing)
  | _ => (e, clipboard, .nothing)

theorem press_char (c : Char) (clipboard : String) (e : Editor) :
    e.press (.char c) {} clipboard =
      ((e.insert [c]).stopBrowsing.restartBlink, clipboard, .nothing) := rfl

theorem press_enter (m : Modifiers) (clipboard : String) (e : Editor) :
    e.press .enter m clipboard = (e.submit, clipboard, .submit e.text) := rfl

/-- Only the enter key submits a line. -/
theorem response_press {key : Key} (h : key ≠ .enter) (m : Modifiers) (clipboard : String)
    (e : Editor) :
    (e.press key m clipboard).2.2 = .nothing ∨ (e.press key m clipboard).2.2 = .close := by
  cases key with
  | enter => exact absurd rfl h
  | escape => exact .inr rfl
  | backspace =>
    left
    rw [press]
    split <;> rfl
  | char c =>
    left
    rw [press]
    split
    · split <;> rfl
    · rfl
  | _ => exact .inl rfl

/-! ## The two halves of a line -/

theorem take_cursor (e : Editor) : e.chars.take e.cursor = e.before.reverse := by
  have hlength : e.cursor = e.before.reverse.length := List.length_reverse.symm
  rw [hlength, chars, List.take_left]

theorem drop_cursor (e : Editor) : e.chars.drop e.cursor = e.after := by
  have hlength : e.cursor = e.before.reverse.length := List.length_reverse.symm
  rw [hlength, chars, List.drop_left]

/-! ## The characters after a change -/

@[simp] theorem chars_insert (cs : List Char) (e : Editor) :
    (e.insert cs).chars = e.before.reverse ++ cs ++ e.after := by
  simp [chars, insert]

@[simp] theorem cursor_insert (cs : List Char) (e : Editor) :
    (e.insert cs).cursor = e.cursor + cs.length := by
  simp [cursor, insert, Nat.add_comm]

@[simp] theorem chars_moveLeft (n : Nat) (e : Editor) : (e.moveLeft n).chars = e.chars := by
  simp [chars, moveLeft, ← List.append_assoc, ← List.reverse_append, List.take_append_drop]

@[simp] theorem chars_moveRight (n : Nat) (e : Editor) : (e.moveRight n).chars = e.chars := by
  simp [chars, moveRight, List.take_append_drop]

end Editor

end DevConsole
