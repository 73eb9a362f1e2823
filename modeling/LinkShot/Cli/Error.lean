import LinkShot.Cli.Switch

/-! What is wrong with a command line. -/
namespace LinkShot.Cli

inductive Error where
  | unknown (argument : String)
  | unexpectedValue (value : String) (switch : Switch)
  | missingValue (switch : Switch)
  | invalidValue (value : String) (switch : Switch)
  | repeated (switch : Switch)
  | missingRun
  deriving DecidableEq, Repr

def Error.message : Error → String
  | .unknown argument => "unexpected argument '" ++ argument ++ "' found"
  | .unexpectedValue value switch =>
    "unexpected value '" ++ value ++ "' for '" ++ switch.text ++ "' found; no more were accepted"
  | .missingValue switch => "a value is required for '" ++ switch.text ++ "' but none was supplied"
  | .invalidValue value switch => "invalid value '" ++ value ++ "' for '" ++ switch.text ++ "'"
  | .repeated switch => "the argument '" ++ switch.text ++ "' cannot be used multiple times"
  | .missingRun => "the following required arguments were not provided:"

end LinkShot.Cli
