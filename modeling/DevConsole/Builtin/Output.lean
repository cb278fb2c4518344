import DevConsole.Command.Arguments
import DevConsole.Command.Registry
import DevConsole.Key

/-! # Output, tooltip, overlays and requests

The commands that print and clear, set the tooltip, switch the debug overlays, pass a
request on to the host, and tell the code of a key.
-/
namespace DevConsole.Builtin

variable {Host Out : Type} [Sink Out]

/-- Tells the code of a key, zero for a name that no key has. -/
def getKeycode : Command Host Out where
  signature :=
    { name := "get_keycode"
      parameters := [{ name := "name", kind := .string }]
      returns := some .int
      summary := some "Gets the keycode of the specified key name." }
  body _ arguments := do
    let name ← Action.ofExcept (Arguments.string arguments 0)
    pure (some (.int (Int32.ofNat ((Key.ofName? name).elim 0 Key.code))))

/-- Prints a text. -/
def print : Command Host Out where
  signature :=
    { name := "print"
      parameters := [{ name := "message", kind := .string }]
      summary := some "Prints a string out to the console." }
  body _ arguments := do
    let message ← Action.ofExcept (Arguments.string arguments 0)
    Action.print message
    pure none

/-- Prints a text in a color. -/
def printColored : Command Host Out where
  signature :=
    { name := "print"
      parameters :=
        [{ name := "message", kind := .string },
         { name := "color", kind := .string, constraint := .dynamic .colors true }]
      summary := some "Prints a string with the specified color out to the console." }
  body _ arguments := do
    let message ← Action.ofExcept (Arguments.string arguments 0)
    let name ← Action.ofExcept (Arguments.string arguments 1)
    match Color.ofName? name with
    | none => .fail (.command (.unknownColor name))
    | some color => Action.append message color
    pure none

/-- Prints a blank line. -/
def printBlank : Command Host Out where
  signature := { name := "print", summary := some "Prints a blank line out to the console." }
  body _ _ := do
    Action.print ""
    pure none

/-- Shows a text at the bottom of the screen for some seconds. -/
def setTooltip : Command Host Out where
  signature :=
    { name := "set_tooltip"
      parameters := [{ name := "text", kind := .string }, { name := "time", kind := .float }]
      summary := some ("Sets the tooltip at the bottom of the screen.\n" ++
        "Note: \"time\" is measured in seconds.") }
  body _ arguments := do
    let text ← Action.ofExcept (Arguments.string arguments 0)
    let remaining ← Action.ofExcept (Arguments.float arguments 1)
    Action.modify fun env => { env with tooltip := some ⟨text, remaining⟩ }
    pure none

/-- Asks the host to load its resources again. -/
def reloadResources : Command Host Out where
  signature := { name := "reload_resources", summary := some "Clears all resource caches." }
  body _ _ := do
    Action.note .info "Resource reload requested"
    Action.request .reloadResources
    Action.print "All Caches cleared and resources reloaded!"
    pure none

/-- Asks the host to stop. -/
def quit : Command Host Out where
  signature := { name := "quit", summary := some "Closes the game." }
  body _ _ := do
    Action.note .info "Quit requested"
    Action.request .quit
    pure none

/-- Switches the drawing of colliders. -/
def setDrawColliders : Command Host Out where
  signature :=
    { name := "draw_colliders"
      parameters := [{ name := "value", kind := .bool }]
      summary := some "Sets if to draw the colliders in the game." }
  body _ arguments := do
    let colliders ← Action.ofExcept (Arguments.bool arguments 0)
    Action.modify fun env => { env with overlays := { env.overlays with colliders } }
    pure none

/-- Tells whether colliders are drawn. -/
def getDrawColliders : Command Host Out where
  signature :=
    { name := "draw_colliders"
      returns := some .bool
      summary := some "Returns if colliders are to be drawn." }
  body _ _ := do
    let env ← Action.get
    pure (some (.bool env.overlays.colliders))

/-- Switches the drawing of the frame rate. -/
def setDrawFps : Command Host Out where
  signature :=
    { name := "draw_fps"
      parameters := [{ name := "value", kind := .bool }]
      summary := some "Sets if to draw the current fps in the game." }
  body _ arguments := do
    let fps ← Action.ofExcept (Arguments.bool arguments 0)
    Action.modify fun env => { env with overlays := { env.overlays with fps } }
    pure none

/-- Tells whether the frame rate is drawn. -/
def getDrawFps : Command Host Out where
  signature :=
    { name := "draw_fps"
      returns := some .bool
      summary := some "Returns if fps is to be drawn." }
  body _ _ := do
    let env ← Action.get
    pure (some (.bool env.overlays.fps))

/-- Removes all output, and says so. -/
def clearConsole : Command Host Out where
  signature := { name := "clear_console", summary := some "Clears all text from the console." }
  body _ _ := do
    Action.clear
    Action.print "Console Cleared!"
    pure none

end DevConsole.Builtin
