import DevConsole.Color
import DevConsole.Failure
import DevConsole.Key

/-! # The configuration of a console

Every setting has a default.  A configuration that was read from a document is checked
once: there must be room for a line, the open key must be a key or nothing, the blink
period must not be zero or less, and the background must be a color.  The checks are made in
this order, and the first that fails is the fault.
-/
namespace DevConsole

/-- The settings of a console. -/
structure Config where
  /-- Whether the console can be opened at all. -/
  enabled : Bool := true
  /-- Whether an open console stops the host. -/
  stopsExecution : Bool := true
  /-- Whether recent output shows while the console is closed. -/
  uiVisible : Bool := true
  /-- The name of the key that opens and closes the console. -/
  openKeyName : String := "grave"
  /-- The number of lines in view. -/
  maxLinesOnScreen : Nat := 23
  /-- The path of the directory of scripts. -/
  scriptPath : String := "./game/exec"
  /-- The lines that the wheel moves the view by. -/
  wheelStep : Binary32 := .ofNat 2
  /-- How many times further it moves while control is held. -/
  wheelFastMultiplier : Binary32 := .ofNat 4
  /-- The seconds in which the cursor shows and hides once. -/
  blinkPeriod : Binary32 := .ofNat 1
  /-- The background color in hexadecimal. -/
  background : String := "#141414"

namespace Config

/-- Whether the name of the open key says that there is none. -/
def hasNoOpenKey (c : Config) : Bool :=
  Text.sameIgnoringAsciiCase c.openKeyName "none" || c.openKeyName.isEmpty

/-- The key that opens and closes the console, if there is one. -/
def openKey (c : Config) : Option Key :=
  if c.hasNoOpenKey then none else Key.ofName? c.openKeyName

/-- The background color; a dark gray where the setting is no color. -/
def backgroundColor (c : Config) : Color :=
  (Color.ofHex? c.background).getD (Color.solid 20 20 20)

/-- The first fault of a configuration. -/
def fault? (c : Config) : Option ConfigFault :=
  if c.maxLinesOnScreen = 0 then some .noVisibleLines
  else if !c.hasNoOpenKey && (Key.ofName? c.openKeyName).isNone then
    some (.unknownOpenKey c.openKeyName)
  else if c.blinkPeriod.le .zero then some .blinkPeriodNotPositive
  else if (Color.ofHex? c.background).isNone then some (.invalidBackground c.background)
  else none

/-- The configuration, if it has no fault. -/
def validate (c : Config) : Except Failure Config :=
  match c.fault? with
  | some fault => .error (.config fault)
  | none => .ok c

end Config

end DevConsole
