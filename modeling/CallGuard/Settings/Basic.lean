import CallGuard.Advice.Dispatch
import CallGuard.Text.Quoted
import CallGuard.Text.Record

/-!
# Settings

What can be configured, with the values that hold unless something else is said. `LogOptions` is
what a logger needs to know of the settings.
-/

namespace CallGuard

/-- How errors are handled. -/
structure HandlerSettings where
  /-- Errors are handled at all. -/
  enabled : Bool
  /-- Errors that no handler maps are logged. -/
  logUnmapped : Bool
  /-- The message of the status for a handler method that fails. -/
  failureDescription : String
deriving DecidableEq

/-- The form of log lines. -/
inductive LogFormat where
  | json
  | pretty
deriving DecidableEq

/-- What is logged, and how. -/
structure LogSettings where
  /-- There is a log. -/
  enabled : Bool
  /-- The filter that log events have to pass. -/
  level : String
  /-- The form of log lines. -/
  format : LogFormat
  /-- Lines may hold escape sequences for colours. -/
  ansiEnabled : Bool
  /-- Lines tell where in the program they come from. -/
  includeLocation : Bool
deriving DecidableEq

/-- What is counted. -/
structure MetricsSettings where
  /-- Errors are counted. -/
  enabled : Bool
deriving DecidableEq

/-- All that can be configured. -/
structure Settings where
  handler : HandlerSettings
  logging : LogSettings
  metrics : MetricsSettings
deriving DecidableEq

/-- What a logger needs to know. -/
structure LogOptions where
  enabled : Bool
  /-- The filter that log events have to pass. -/
  level : String
  /-- Lines are written as JSON. -/
  jsonFormat : Bool
  /-- Lines tell file and line of the program they come from. -/
  fileLineInfo : Bool
  /-- Lines tell the target of the event. -/
  includeTarget : Bool
  ansiEnabled : Bool
deriving DecidableEq

/-- The format of log lines with a name. -/
def LogFormat.ofName? (name : String) : Option LogFormat :=
  match name with
  | "json" => some .json
  | "pretty" => some .pretty
  | _ => none

namespace HandlerSettings

/-- The values that hold unless something else is said. -/
def default : HandlerSettings where
  enabled := true
  logUnmapped := true
  failureDescription := Dispatcher.defaultFailureDescription

/-- The text that shows the settings for inspection. -/
def inspect (s : HandlerSettings) : String :=
  Text.recordText "ExceptionHandlerConfig"
    [("enabled", toString s.enabled), ("log_unmapped", toString s.logUnmapped),
      ("handler_failure_description", Text.quote s.failureDescription)]

end HandlerSettings

namespace LogSettings

/-- The values that hold unless something else is said. -/
def default : LogSettings where
  enabled := true
  level := "info"
  format := .json
  ansiEnabled := false
  includeLocation := false

/-- What a logger needs to know of the settings. -/
def options (s : LogSettings) : LogOptions where
  enabled := s.enabled
  level := s.level
  jsonFormat := s.format = .json
  fileLineInfo := s.includeLocation
  includeTarget := true
  ansiEnabled := s.ansiEnabled

/-- The text that shows the settings for inspection. -/
def inspect (s : LogSettings) : String :=
  Text.recordText "LoggingConfig"
    [("enabled", toString s.enabled), ("level", Text.quote s.level),
      ("format", match s.format with
        | .json => "Json"
        | .pretty => "Pretty"),
      ("ansi_enabled", toString s.ansiEnabled), ("include_location", toString s.includeLocation)]

end LogSettings

namespace LogOptions

/-- For use while developing: everything from debug events on, in colours, with locations. -/
def development : LogOptions where
  enabled := true
  level := "debug"
  jsonFormat := false
  fileLineInfo := true
  includeTarget := true
  ansiEnabled := true

/-- For use in production: everything from informative events on, as JSON. -/
def production : LogOptions where
  enabled := true
  level := "info"
  jsonFormat := true
  fileLineInfo := false
  includeTarget := true
  ansiEnabled := false

end LogOptions

namespace Settings

/-- The values that hold unless something else is said. -/
def default : Settings where
  handler := .default
  logging := .default
  metrics := ⟨false⟩

/-- The default values without any handling of errors. -/
def disabled : Settings :=
  { default with handler := { HandlerSettings.default with enabled := false } }

/-- The text that shows the settings for inspection. -/
def inspect (s : Settings) : String :=
  Text.recordText "AegisConfig"
    [("exception_handler", s.handler.inspect), ("logging", s.logging.inspect),
      ("metrics", Text.recordText "MetricsConfig" [("enabled", toString s.metrics.enabled)])]

end Settings

end CallGuard
