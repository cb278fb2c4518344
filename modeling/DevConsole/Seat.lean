import DevConsole.Console

/-! # A console with somebody at it

Frames that are to come wait in a queue, and the console takes one of them in every frame;
once none are left, nothing happens in a frame.  So some frames at a seat are as many frames
of the console with what is due (`console_ticks`).
-/
namespace DevConsole

/-- A console, the clipboard, and the frames that wait for the console. -/
structure Seat (Host : Type) where
  /-- The console. -/
  console : Console Host
  /-- The clipboard. -/
  clipboard : String := ""
  /-- The frames that are to come, the next one first. -/
  queue : List Frame := []

namespace Seat

variable {Host : Type}

/-- The number of frames that wait. -/
def pending (s : Seat Host) : Nat := s.queue.length

/-- Lets the frames wait in which a line is typed and submitted. -/
def pushLine (line : String) (s : Seat Host) : Seat Host :=
  { s with queue := s.queue ++ Frame.ofLine line }

/-- One frame of `dt` seconds: the next one that waits, or one in which nothing happens. -/
def tick (dt : Binary32) (s : Seat Host) : Seat Host :=
  let t := s.console.tick (s.queue.headD .idle) s.clipboard dt
  ⟨t.console, t.clipboard, s.queue.tail⟩

/-- Some frames of `dt` seconds each. -/
def ticks (dt : Binary32) : Nat → Seat Host → Seat Host
  | 0, s => s
  | n + 1, s => ticks dt n (s.tick dt)

theorem ticks_succ (dt : Binary32) (n : Nat) (s : Seat Host) :
    ticks dt (n + 1) s = ticks dt n (s.tick dt) := rfl

/-- Every frame takes one of those that wait. -/
theorem pending_ticks (dt : Binary32) (n : Nat) (s : Seat Host) :
    (ticks dt n s).pending = s.pending - n := by
  induction n generalizing s with
  | zero => rfl
  | succ n ih =>
    rw [ticks_succ, ih, pending, tick, List.length_tail, pending]
    omega

/-- Frames at a seat are frames of the console. -/
theorem console_ticks (dt : Binary32) (n : Nat) (s : Seat Host) :
    (ticks dt n s).console = (s.console.ticks dt (Frame.due n s.queue) s.clipboard).console := by
  induction n generalizing s with
  | zero => rw [Frame.due_zero]; rfl
  | succ n ih =>
    rw [ticks_succ, ih, Frame.due_succ, Console.ticks]
    rfl

end Seat

end DevConsole
