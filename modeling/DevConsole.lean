import DevConsole.Command.Description
import DevConsole.Main
import DevConsole.Seat
import DevConsole.Proofs.Overload
import DevConsole.Proofs.QuotedArguments
import DevConsole.Proofs.ScriptDepth
import DevConsole.Proofs.Typing
import DevConsole.Proofs.Choices
import DevConsole.Proofs.Registration
import DevConsole.Proofs.DepthRestored
import DevConsole.Proofs.RegistrationOrder
import DevConsole.Proofs.ScriptLines
import DevConsole.Proofs.Kinds
import DevConsole.Proofs.ColorNames
import DevConsole.Proofs.HistoryKeys
import DevConsole.Proofs.WholeNumbers
import DevConsole.Proofs.NewestLine
import DevConsole.Proofs.Operations
import DevConsole.Proofs.Replay
import DevConsole.Proofs.Difficulty
import DevConsole.Proofs.TypedLines
import DevConsole.Proofs.PrintedOnce
import DevConsole.Proofs.SessionStream
import DevConsole.Proofs.IndexedLine
import DevConsole.Proofs.QuietFrames
import DevConsole.Proofs.ViewBounds
import DevConsole.Proofs.HelpHint
import DevConsole.Proofs.Shadowing
import DevConsole.Proofs.TokenSegments
import DevConsole.Proofs.TokenImage
import DevConsole.Proofs.BatchLines
import DevConsole.Proofs.NameIdentity
import DevConsole.Proofs.EnemyCount
import DevConsole.Proofs.ReaderView
import DevConsole.Proofs.WordSteps
import DevConsole.Proofs.HistoryWalk
import DevConsole.Proofs.EditsAtCursor
import DevConsole.Proofs.ScriptLookup
import DevConsole.Proofs.SignedNumerals
import DevConsole.Proofs.ListedNames
import DevConsole.Proofs.HexColors
import DevConsole.Proofs.PendingRequests
import DevConsole.Proofs.WheelScroll
