import DevConsole.Builtin.Help
import DevConsole.Builtin.Output
import DevConsole.Builtin.Scripts

/-! # The built-in commands

The commands that every console has, in the order of their registration.  That order is
the order in which overloads are tried: `print` with one argument comes before `print`
with two and `print` with none.
-/
namespace DevConsole.Builtin

variable {Host Out : Type} [Sink Out]

/-- The built-in commands, in the order of their registration. -/
def all : List (Command Host Out) :=
  [getKeycode, exec, print, printColored, printBlank, setTooltip, help, generalHelp, listCommands,
   reloadResources, quit, setDrawColliders, getDrawColliders, setDrawFps, getDrawFps, clearConsole]

/-- Every built-in command has an accepted signature. -/
theorem accepted_all : ∀ c ∈ (all : List (Command Host Out)), c.signature.Accepted := by
  intro c hc
  simp only [all, List.mem_cons, List.not_mem_nil, or_false] at hc
  rcases hc with rfl | rfl | rfl | rfl | rfl | rfl | rfl | rfl | rfl | rfl | rfl | rfl | rfl | rfl |
    rfl | rfl <;>
    simp [Signature.Accepted, Signature.isPlain, getKeycode, exec, print, printColored, printBlank,
      setTooltip, help, generalHelp, listCommands, reloadResources, quit, setDrawColliders,
      getDrawColliders, setDrawFps, getDrawFps, clearConsole]

/-- The registry of the built-in commands. -/
def registry : Registry Host Out := ⟨all, accepted_all⟩

/-- The notes that their registration takes. -/
def registrationNotes (Host Out : Type) [Sink Out] : List Note :=
  ((Registry.empty : Registry Host Out).registerAll all).2.2

end DevConsole.Builtin
