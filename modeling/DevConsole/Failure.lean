import DevConsole.Command.Value

/-! # Failures

Why a command line, a registration or a configuration was refused.  Each failure is a
cause with its data; `Failure.message` is the one place that words it.
-/
namespace DevConsole

/-- Why a file could not be read or a directory not be made. -/
inductive FileFailure where
  | notFound
  | alreadyExists
  | isDirectory
  | notText
  | denied
deriving DecidableEq

/-- What the system says about a file failure. -/
def FileFailure.message : FileFailure → String
  | notFound => "No such file or directory (os error 2)"
  | alreadyExists => "File exists (os error 17)"
  | isDirectory => "Is a directory (os error 21)"
  | notText => "stream did not contain valid UTF-8"
  | denied => "Permission denied (os error 13)"

/-- What is wrong with a configuration. -/
inductive ConfigFault where
  | noVisibleLines
  | unknownOpenKey (name : String)
  | blinkPeriodNotPositive
  | invalidBackground (color : String)
deriving DecidableEq

/-- The wording of a configuration fault. -/
def ConfigFault.message : ConfigFault → String
  | noVisibleLines => "max_lines_on_screen must be at least 1"
  | unknownOpenKey name => "unknown open_key: " ++ name
  | blinkPeriodNotPositive => "blink_period must be positive"
  | invalidBackground color => "invalid background color: " ++ color

/-- Why the body of a command gave up. -/
inductive CommandFault where
  | missingArgument (index : Nat)
  | wrongKind (index : Nat) (expected actual : Kind)
  | unknownColor (name : String)
  | scriptNotFound (name : String)
  | scriptsTooDeep (limit : Nat)
  | other (text : String)
deriving DecidableEq

/-- The wording of a command fault; arguments are counted from one. -/
def CommandFault.message : CommandFault → String
  | missingArgument index => "missing argument " ++ Numeral.ofNat (index + 1)
  | wrongKind index expected actual =>
    "argument " ++ Numeral.ofNat (index + 1) ++ " should be " ++ expected.name ++ ", got " ++
      actual.name
  | unknownColor name => "Unknown color: " ++ name
  | scriptNotFound name => "File \"" ++ name ++ ".exec\" not found!"
  | scriptsTooDeep limit => "exec nested deeper than " ++ Numeral.ofNat limit ++ " files"
  | other text => text

/-- Why a line, a registration or a configuration was refused. -/
inductive Failure where
  | commandNotFound (name : String)
  | noMatchingOverload (name : String)
  | unsupportedParameter (command parameter : String) (kind : Kind)
  | command (fault : CommandFault)
  | batch (line : Nat) (cause : Failure)
  | config (fault : ConfigFault)
  | file (fault : FileFailure)
  | notToml
  | nestedTooDeeply (limit : Nat)
deriving DecidableEq

/-- The wording of a failure. -/
def Failure.message : Failure → String
  | commandNotFound name => "Command not found: " ++ name
  | noMatchingOverload name =>
    "No overload of " ++ name ++ " exists with the specified parameters. Type \"help " ++ name ++
      "\" for usage."
  | unsupportedParameter owner parameter kind =>
    "Parameter " ++ parameter ++ " of " ++ owner ++ " has an unsupported type: " ++ kind.name ++
      " does not accept value constraints"
  | .command fault => fault.message
  | batch line cause => "At line " ++ Numeral.ofNat line ++ ": " ++ cause.message
  | config fault => "config error: " ++ fault.message
  | file fault => "I/O error: " ++ fault.message
  | notToml => "TOML parse error"
  | nestedTooDeeply limit => "lines nested deeper than " ++ Numeral.ofNat limit

/-- The layers of batches around a failure. -/
def Failure.layers : Failure → Nat
  | batch _ cause => cause.layers + 1
  | _ => 0

end DevConsole
