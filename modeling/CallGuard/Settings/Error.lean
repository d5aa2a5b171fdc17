/-!
# Errors in the configuration

Why no settings could be loaded.
-/

namespace CallGuard

namespace Settings

/-- A format of configuration documents. -/
inductive DocumentFormat where
  | toml
  | json
deriving DecidableEq

/-- The name of a format. -/
def DocumentFormat.name : DocumentFormat → String
  | .toml => "TOML"
  | .json => "JSON"

/-- Why no settings could be loaded. -/
inductive Error where
  /-- There is nothing at a path. -/
  | fileNotFound (path : String)
  /-- What is at a path is no text. -/
  | unreadable (path : String)
  /-- A document does not have the form that its format and the settings ask for. -/
  | malformed (format : DocumentFormat)
  /-- There is no such format, or a file is in none. -/
  | unsupportedFormat (format : String)
  /-- The loaded settings have a field with a value that cannot be used. -/
  | invalidValue (field reason : String)
  /-- A variable of the environment has a value that cannot be read. -/
  | invalidVariable (name reason : String)
deriving DecidableEq

/-- The error in words. -/
def Error.message : Error → String
  | .fileNotFound path => "configuration file not found: " ++ path
  | .unreadable path => "failed to read configuration file: " ++ path
  | .malformed format => "failed to parse " ++ format.name ++ " configuration"
  | .unsupportedFormat format => "unsupported configuration format: " ++ format
  | .invalidValue field reason => "invalid configuration value for " ++ field ++ ": " ++ reason
  | .invalidVariable name reason =>
    "failed to parse environment variable " ++ name ++ ": " ++ reason

end Settings

end CallGuard
