import DevConsole.Binary32.Basic
import DevConsole.Key

/-! # Frames

What the keyboard and the wheel did in one frame: at most one key, the modifiers that were
held, and how far the wheel was turned.  Frames that are to come wait in a queue; once it
is empty, every frame is one in which nothing happens.

Typing a text takes one frame for each character, and submitting a line one more
(`length_ofLine`).
-/
namespace DevConsole

/-- What the keyboard and the wheel did in one frame. -/
structure Frame where
  /-- The key that was pressed, if there was one. -/
  key : Option Key := none
  /-- The modifiers that were held. -/
  modifiers : Modifiers := {}
  /-- How far the wheel was turned; away from the user is positive. -/
  wheel : Binary32 := .zero

namespace Frame

/-- The frame in which nothing happens. -/
def idle : Frame := {}

/-- The frame in which a key is pressed. -/
def press (key : Key) (modifiers : Modifiers) : Frame := { key := some key, modifiers }

/-- The frame in which the wheel is turned. -/
def turn (wheel : Binary32) (modifiers : Modifiers) : Frame := { wheel, modifiers }

/-- The frames in which the characters of a text are typed. -/
def ofText (text : String) : List Frame := text.toList.map fun c => press (.char c) {}

/-- The frames in which a line is typed and submitted. -/
def ofLine (line : String) : List Frame := ofText line ++ [press .enter {}]

/-- The next `n` frames of a queue, with nothing happening once it is empty. -/
def due (n : Nat) (queue : List Frame) : List Frame :=
  queue.take n ++ List.replicate (n - queue.length) idle

@[simp] theorem length_ofText (text : String) : (ofText text).length = text.length := by
  simp [ofText, String.length_toList]

@[simp] theorem length_ofLine (line : String) : (ofLine line).length = line.length + 1 := by
  simp [ofLine]

/-- As many frames as wait are the frames that wait. -/
@[simp] theorem due_length (queue : List Frame) : due queue.length queue = queue := by simp [due]

@[simp] theorem due_zero (queue : List Frame) : due 0 queue = [] := by simp [due]

theorem due_succ (n : Nat) (queue : List Frame) :
    due (n + 1) queue = queue.headD idle :: due n queue.tail := by
  cases queue with
  | nil => simp [due, List.replicate_succ]
  | cons frame frames => simp [due]

end Frame

end DevConsole
