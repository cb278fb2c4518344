import DevConsole.Command.Arguments
import DevConsole.Command.Registry

/-! # A game world

A small world for the console to act on: a gravity, a number of enemies, a difficulty and
the time that has passed.  Its commands change and tell them.  Enemies are counted in 32
bits; a command that would go beyond that, or take a number of enemies away, fails and
changes nothing.
-/
namespace DevConsole

/-- A game world. -/
structure World where
  /-- The downward acceleration. -/
  gravity : Binary32 := .ofFraction 981 100
  /-- The number of living enemies. -/
  enemies : Nat := 0
  /-- The name of the difficulty. -/
  difficulty : String := "normal"
  /-- The seconds that have passed. -/
  elapsed : Binary32 := .zero

namespace World

/-! ## What the world does -/

/-- The greatest number of enemies. -/
def enemyLimit : Nat := UInt32.size - 1

/-- Lets `dt` seconds pass. -/
def step (dt : Binary32) (w : World) : World := { w with elapsed := w.elapsed + dt }

/-- Why a command of the world gave up. -/
inductive Fault where
  | negativeCount
  | tooManyEnemies
  | countTooLarge
deriving DecidableEq

/-- The wording of a fault. -/
def Fault.message : Fault → String
  | negativeCount => "count must not be negative"
  | tooManyEnemies => "too many enemies"
  | countTooLarge => "enemy count does not fit in an Int"

/-- The number of enemies with as many more as a count asks for. -/
def spawned (enemies : Nat) (count : Int32) : Except Fault Nat :=
  if count.toInt < 0 then .error .negativeCount
  else if enemyLimit < enemies + count.toInt.toNat then .error .tooManyEnemies
  else .ok (enemies + count.toInt.toNat)

/-- The number of enemies as a value. -/
def enemyCount (enemies : Nat) : Except Fault Value :=
  if enemies ≤ Int32.maxValue.toInt then .ok (.int (Int32.ofNat enemies)) else .error .countTooLarge

/-! ## Its commands -/

variable {Out : Type} [Sink Out]

/-- Goes on with the value, or gives up with what is wrong. -/
def check {α : Type} (x : Except Fault α) : Action World Out α :=
  Action.ofExcept (x.mapError fun fault => .command (.other fault.message))

/-- Changes the world. -/
def update (f : World → World) : Action World Out Unit :=
  Action.modify fun env => { env with host := f env.host }

/-- Adds enemies. -/
def spawnEnemies : Command World Out where
  signature :=
    { name := "spawn_enemies"
      parameters := [{ name := "count", kind := .int }]
      summary := some "Spawns enemies at random positions." }
  body _ arguments := do
    let count ← Action.ofExcept (Arguments.int arguments 0)
    let env ← Action.get
    let total ← check (spawned env.host.enemies count)
    update fun w => { w with enemies := total }
    Action.print ("Spawned " ++ Numeral.ofInt32 count ++ " enemies (" ++ Numeral.ofNat total ++
      " total)")
    pure none

/-- Tells the number of enemies. -/
def countEnemies : Command World Out where
  signature :=
    { name := "enemies"
      returns := some .int
      summary := some "Returns the number of living enemies." }
  body _ _ := do
    let env ← Action.get
    let count ← check (enemyCount env.host.enemies)
    pure (some count)

/-- Sets the gravity. -/
def setGravity : Command World Out where
  signature :=
    { name := "set_gravity"
      parameters := [{ name := "value", kind := .float }]
      summary := some "Sets the downward acceleration in units per second squared." }
  body _ arguments := do
    let gravity ← Action.ofExcept (Arguments.float arguments 0)
    update fun w => { w with gravity }
    pure none

/-- Tells the gravity. -/
def getGravity : Command World Out where
  signature :=
    { name := "gravity"
      returns := some .float
      summary := some "Returns the current gravity." }
  body _ _ := do
    let env ← Action.get
    pure (some (.float env.host.gravity))

/-- Sets the difficulty, in lower case.  The texts that the constraint admits consist of ASCII
letters and of the long s, which is a lower-case letter already, so ASCII case is all there
is to lower: the full mapping has the same result (`lowerBy_of_isChoice`). -/
def setDifficulty : Command World Out where
  signature :=
    { name := "difficulty"
      parameters :=
        [{ name := "level", kind := .string, constraint := .fixed ["easy", "normal", "hard"] true }]
      summary := some "Sets the game difficulty." }
  body _ arguments := do
    let level ← Action.ofExcept (Arguments.string arguments 0)
    let difficulty := Text.lowerAscii level
    Action.print ("Difficulty set to " ++ difficulty)
    update fun w => { w with difficulty }
    pure none

/-- The commands of the world, in the order of their registration. -/
def commands : List (Command World Out) :=
  [spawnEnemies, countEnemies, setGravity, getGravity, setDifficulty]

end World

end DevConsole
