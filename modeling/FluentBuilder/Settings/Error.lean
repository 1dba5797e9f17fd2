import FluentBuilder.Text

namespace FluentBuilder

inductive SetupError where
  | file (detail : Text)
  /-- The settings file is not TOML, or a value in it has the wrong type. -/
  | malformed
  | invalidValue (key value : Text)
  | variableNotSet (name : Text)
  /-- The settings file that was asked for is not there. -/
  | invalidPath (path : Text)
  /-- A settings file is already there and was not to be replaced. -/
  | alreadyExists (path : Text)
deriving DecidableEq, Repr

def SetupError.message : SetupError → Text
  | .file detail => "IO error: ".toList ++ detail
  | .malformed => "Configuration error".toList
  | .invalidValue key value =>
    "Invalid configuration value: ".toList ++ key ++ " = ".toList ++ value
  | .variableNotSet name => "Environment variable not set: ".toList ++ name
  | .invalidPath path => "Invalid path: ".toList ++ path
  | .alreadyExists path =>
    "Configuration error: ".toList ++ path ++ " already exists. Use --force to overwrite.".toList

end FluentBuilder
