import DevConsole.Config
import DevConsole.Toml.Document

/-! # Configuration files

A configuration file is a TOML document.  Keys that are no settings are ignored; a
setting must have a value of its type, where a setting that is a floating-point number
also takes a whole one.  Floating-point numbers are read in 64 bits and then rounded to
32.
-/
namespace DevConsole

/-- What is found at the path of a configuration file. -/
inductive ConfigFile where
  | missing
  | directory
  | content (bytes : ByteArray)

namespace ConfigFile

/-- The truth value of a node. -/
def bool? : Toml.Node → Option Bool
  | .boolean b => some b
  | _ => none

/-- The text of a node. -/
def string? : Toml.Node → Option String
  | .string s => some s
  | _ => none

/-- The natural number of a node. -/
def nat? : Toml.Node → Option Nat
  | .integer z => if 0 ≤ z then some z.toNat else none
  | _ => none

/-- The floating-point number of a node. -/
def float? : Toml.Node → Option Binary32
  | .float .nan => some .nan
  | .float (.infinite negative) => some (.infinite negative)
  | .float (.decimal d) => some (.ofDecimalTwice d)
  | .integer z => some (.ofUnits false (z * Binary32.unitsPerOne))
  | _ => none

/-- The value of a setting: its default where the document does not have the key. -/
def setting {α : Type} (entries : Toml.Entries) (read : Toml.Node → Option α) (key : String)
    (default : α) : Option α :=
  match entries.lookup key with
  | none => some default
  | some node => read node

/-- The settings of a document. -/
def settings? (entries : Toml.Entries) : Option Config := do
  let base : Config := {}
  return {
    enabled := ← setting entries bool? "enabled" base.enabled
    stopsExecution := ← setting entries bool? "stops_execution" base.stopsExecution
    uiVisible := ← setting entries bool? "ui_visible" base.uiVisible
    openKeyName := ← setting entries string? "open_key" base.openKeyName
    maxLinesOnScreen := ← setting entries nat? "max_lines_on_screen" base.maxLinesOnScreen
    scriptPath := ← setting entries string? "exec_dir" base.scriptPath
    wheelStep := ← setting entries float? "wheel_step" base.wheelStep
    wheelFastMultiplier :=
      ← setting entries float? "wheel_fast_multiplier" base.wheelFastMultiplier
    blinkPeriod := ← setting entries float? "blink_period" base.blinkPeriod
    background := ← setting entries string? "background" base.background }

end ConfigFile

/-- The configuration that a document describes. -/
def Config.ofToml (text : String) : Except Failure Config :=
  match (Toml.read? text).bind ConfigFile.settings? with
  | none => .error .notToml
  | some config => config.validate

/-- A document whose configuration is seen to have a property describes one that has it. -/
theorem Config.exists_of_any (text : String) (p : Config → Bool)
    (h : (Config.ofToml text).toOption.any p = true) :
    ∃ config, Config.ofToml text = .ok config ∧ p config = true := by
  cases hread : Config.ofToml text with
  | error failure =>
    rw [hread] at h
    cases h
  | ok config =>
    rw [hread] at h
    exact ⟨config, rfl, h⟩

/-- The configuration in a file. -/
def ConfigFile.load : ConfigFile → Except Failure Config
  | missing => .error (.file .notFound)
  | directory => .error (.file .isDirectory)
  | content bytes =>
    match String.fromUTF8? bytes with
    | none => .error (.file .notText)
    | some text => Config.ofToml text

end DevConsole
