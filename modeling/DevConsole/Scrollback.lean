import DevConsole.Command.Environment

/-! # The scrollback

The output of the console: colored lines, and a view on them.  The view starts at a
vertical offset, counted in lines from the oldest, and shows at most `maxVisible` lines;
a horizontal offset says how far it is moved sideways.  Offsets are floating-point
numbers, since the wheel may move by fractions of a line.

Once there is more than a screenful, lines added while the offset is exactly that of the
newest screenful move the view along; otherwise it stays where the reader left it.
-/
namespace DevConsole

/-- The output of the console and the view on it. -/
structure Scrollback where
  /-- The lines, oldest first. -/
  lines : Array Line := #[]
  /-- The offset of the first line in view. -/
  scrollY : Binary32 := .zero
  /-- How far the view is moved to the right, in columns. -/
  scrollX : Binary32 := .zero
  /-- The number of lines in a full view. -/
  maxVisible : Nat
  /-- How often all lines were removed. -/
  generation : Nat := 0
  maxVisible_pos : 0 < maxVisible

namespace Scrollback

/-- No lines, under a view of at least one line. -/
def ofHeight (height : Nat) : Scrollback :=
  { maxVisible := max height 1, maxVisible_pos := by omega }

/-! ## The view -/

/-- The number of lines. -/
def size (s : Scrollback) : Nat := s.lines.size

/-- The offset at which the view ends with the newest line; below zero while there is
less than a screenful. -/
def newestOffset (s : Scrollback) : Binary32 := .ofNat s.size - .ofNat s.maxVisible

/-- Whether the view is exactly at the newest screenful. -/
def isPinned (s : Scrollback) : Bool := s.scrollY.equal s.newestOffset

/-- The offset of the newest line, zero when there is none. -/
def lastOffset (s : Scrollback) : Binary32 := .ofNat (s.size - 1)

/-! ## Changes -/

/-- Adds a text, one line for each piece between newlines. -/
def append (text : String) (color : Color) (s : Scrollback) : Scrollback :=
  let new := Line.ofText text color
  let scrollY := if s.isPinned then s.scrollY + .ofNat new.length else s.scrollY
  { s with lines := s.lines ++ new, scrollY := scrollY }

/-- Removes all lines, takes the view back to the start, and counts the removal. -/
def clear (s : Scrollback) : Scrollback :=
  { s with lines := #[], scrollY := .zero, scrollX := .zero, generation := s.generation + 1 }

/-- Moves the view up by `delta` lines, as far as there are lines. -/
def scrollVertical (delta : Binary32) (s : Scrollback) : Scrollback :=
  { s with scrollY := (s.scrollY - delta).clamp .zero s.lastOffset }

/-- Moves the view to the left by `delta` columns, as far as there are columns. -/
def scrollHorizontal (delta : Binary32) (s : Scrollback) : Scrollback :=
  { s with scrollX := (s.scrollX - delta).atLeastZero }

/-- Takes the view to the newest screenful and the first column. -/
def resetScroll (s : Scrollback) : Scrollback :=
  { s with scrollX := .zero, scrollY := s.newestOffset.clamp .zero s.lastOffset }

/-- The index of the first line in view. -/
def firstVisible (s : Scrollback) : Nat := s.scrollY.wholeUpTo s.size

/-- The lines in view, oldest first. -/
def visible (s : Scrollback) : List Line :=
  (s.lines.toList.drop s.firstVisible).take s.maxVisible

/-! ## The scrollback as a sink -/

/-- The notes on the lines of a text. -/
def echo (text : String) : List Note := (Text.pieces text).map fun piece => ⟨.trace, piece⟩

instance : Sink Scrollback where
  lines s := s.lines.toList
  append := append
  clear := clear
  echo := echo
  lines_append _ _ _ := by simp [append]
  lines_clear _ := rfl

@[simp] theorem toList_append (text : String) (color : Color) (s : Scrollback) :
    (append text color s).lines.toList = s.lines.toList ++ Line.ofText text color := by
  simp [append]

@[simp] theorem lines_scrollVertical (d : Binary32) (s : Scrollback) :
    (scrollVertical d s).lines = s.lines := by cases s; rfl

@[simp] theorem lines_scrollHorizontal (d : Binary32) (s : Scrollback) :
    (scrollHorizontal d s).lines = s.lines := by cases s; rfl

@[simp] theorem lines_resetScroll (s : Scrollback) : s.resetScroll.lines = s.lines := by
  cases s; rfl

@[simp] theorem generation_scrollVertical (d : Binary32) (s : Scrollback) :
    (scrollVertical d s).generation = s.generation := by cases s; rfl

@[simp] theorem generation_scrollHorizontal (d : Binary32) (s : Scrollback) :
    (scrollHorizontal d s).generation = s.generation := by cases s; rfl

@[simp] theorem generation_resetScroll (s : Scrollback) :
    s.resetScroll.generation = s.generation := by cases s; rfl

end Scrollback

end DevConsole
