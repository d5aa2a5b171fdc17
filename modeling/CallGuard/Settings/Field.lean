import CallGuard.Settings.Basic

/-!
# The fields of the settings

Each setting that can be made on its own is a `Field` of a `Section`. `Settings.get` reads a field,
`Settings.set` changes it and leaves the others alone, and `Settings.ofFields` puts settings
together from the values of all fields. Settings are determined by their fields
(`Settings.ext_get`).
-/

namespace CallGuard

namespace Settings

/-- A part of the settings. -/
inductive Section where
  | handler
  | logging
  | metrics
deriving DecidableEq

/-- One setting. -/
inductive Field where
  | handlerEnabled
  | logUnmapped
  | failureDescription
  | loggingEnabled
  | level
  | format
  | ansiEnabled
  | includeLocation
  | metricsEnabled
deriving DecidableEq

namespace Section

/-- The sections in their order. -/
def all : List Section :=
  [handler, logging, metrics]

/-- The name of a section. -/
def name : Section → String
  | handler => "exception_handler"
  | logging => "logging"
  | metrics => "metrics"

/-- The fields of a section in their order. -/
def fields : Section → List Field
  | handler => [.handlerEnabled, .logUnmapped, .failureDescription]
  | logging => [.loggingEnabled, .level, .format, .ansiEnabled, .includeLocation]
  | metrics => [.metricsEnabled]

end Section

namespace Field

/-- What a field is set to. -/
abbrev Value : Field → Type
  | failureDescription => String
  | level => String
  | format => LogFormat
  | _ => Bool

/-- All fields, section by section. -/
def all : List Field :=
  Section.all.flatMap Section.fields

/-- The section of a field. -/
def parent : Field → Section
  | handlerEnabled | logUnmapped | failureDescription => .handler
  | loggingEnabled | level | format | ansiEnabled | includeLocation => .logging
  | metricsEnabled => .metrics

/-- The name of a field in its section. -/
def name : Field → String
  | handlerEnabled => "enabled"
  | logUnmapped => "log_unmapped"
  | failureDescription => "handler_failure_description"
  | loggingEnabled => "enabled"
  | level => "level"
  | format => "format"
  | ansiEnabled => "ansi_enabled"
  | includeLocation => "include_location"
  | metricsEnabled => "enabled"

/-- The name of a field with that of its section before it. -/
def path (f : Field) : String :=
  f.parent.name ++ "." ++ f.name

theorem mem_all (f : Field) : f ∈ all := by
  cases f <;> decide

end Field

/-- The value of a field. -/
def get (s : Settings) : (f : Field) → f.Value
  | .handlerEnabled => s.handler.enabled
  | .logUnmapped => s.handler.logUnmapped
  | .failureDescription => s.handler.failureDescription
  | .loggingEnabled => s.logging.enabled
  | .level => s.logging.level
  | .format => s.logging.format
  | .ansiEnabled => s.logging.ansiEnabled
  | .includeLocation => s.logging.includeLocation
  | .metricsEnabled => s.metrics.enabled

/-- The settings with these values of the fields. -/
def ofFields (values : (f : Field) → f.Value) : Settings where
  handler := {
    enabled := values .handlerEnabled
    logUnmapped := values .logUnmapped
    failureDescription := values .failureDescription }
  logging := {
    enabled := values .loggingEnabled
    level := values .level
    format := values .format
    ansiEnabled := values .ansiEnabled
    includeLocation := values .includeLocation }
  metrics := { enabled := values .metricsEnabled }

@[simp] theorem get_ofFields (values : (f : Field) → f.Value) (f : Field) :
    (ofFields values).get f = values f := by
  cases f <;> rfl

theorem ext_get {s t : Settings} (h : ∀ f, s.get f = t.get f) : s = t := by
  have key : ∀ s : Settings, ofFields s.get = s := fun _ => rfl
  rw [← key s, ← key t, funext h]

/-- The settings with a field changed. -/
def set (s : Settings) (f : Field) (v : f.Value) : Settings :=
  ofFields fun g => if h : g = f then h ▸ v else s.get g

@[simp] theorem get_set_self (s : Settings) (f : Field) (v : f.Value) :
    (s.set f v).get f = v := by
  simp [set]

theorem get_set_of_ne (s : Settings) {f g : Field} (v : f.Value) (h : g ≠ f) :
    (s.set f v).get g = s.get g := by
  simp [set, h]

end Settings

end CallGuard
