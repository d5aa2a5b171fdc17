import CallGuard.Filter.Basic

/-!
# Errors of telemetry

A log or metrics cannot be set up. `Filter.create` reads a log filter and gives such an error for a
text that is none.
-/

namespace CallGuard

namespace Telemetry

/-- What could not be set up, and why. -/
inductive Error where
  | logging (reason : String)
  | metrics (reason : String)
deriving DecidableEq

/-- The error in words. -/
def Error.message : Error → String
  | .logging reason => "Failed to initialize logging: " ++ reason
  | .metrics reason => "Failed to initialize metrics: " ++ reason

end Telemetry

/-- The log filter that a text describes. -/
def Filter.create (text : String) : Except Telemetry.Error Filter :=
  match Filter.parse text with
  | .ok f => .ok f
  | .error e => .error (.logging ("Invalid log level: " ++ e.message))

end CallGuard
