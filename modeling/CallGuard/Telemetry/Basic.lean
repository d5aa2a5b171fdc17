import CallGuard.Filter.Basic
import CallGuard.Metrics
import CallGuard.Observer
import CallGuard.Settings.Basic
import CallGuard.Telemetry.Error

/-!
# Telemetry

A program has at most one log and at most one recorder of metrics, and neither is ever replaced. A
log is set up from `LogOptions` (`Telemetry.setUpLog`), and the recorder of this library by
`Telemetry.setUpMetrics`, which does nothing when that is the recorder already. Log events that pass
the filter of the log are printed; increments of counters count from the moment on in which the
recorder is there.
-/

namespace CallGuard

/-- A log that was set up. -/
structure Log where
  filter : Filter
  options : LogOptions

/-- Who records metrics. -/
inductive Recorder where
  /-- The recorder of this library. -/
  | own
  | foreign
deriving DecidableEq

/-- A line that a log printed. -/
structure LogLine where
  event : LogEvent
  /-- Where the event comes from, if the line tells it. -/
  target : Option String
  /-- The line tells where in the program it comes from. -/
  located : Bool

/-- The telemetry of a program. -/
structure Telemetry where
  log : Option Log
  recorder : Option Recorder
  /-- The lines that were printed, oldest first. -/
  printed : List LogLine
  /-- The increments that were recorded, oldest first. -/
  recorded : List Entry

namespace Telemetry

/-- Nothing is set up. -/
def initial : Telemetry := ⟨none, none, [], []⟩

variable (t : Telemetry)

/-- Sets up a log, unless the options say that there is none. -/
def setUpLog (options : LogOptions) : Except Error Telemetry :=
  if !options.enabled then .ok t
  else match Filter.create options.level with
    | .error e => .error e
    | .ok filter =>
      if t.log.isSome then .error (.logging "a log has already been set up")
      else .ok { t with log := some ⟨filter, options⟩ }

/-- Sets up the recorder of this library. -/
def setUpMetrics : Except Error Telemetry :=
  match t.recorder with
  | some .own => .ok t
  | some .foreign => .error (.metrics "a recorder has already been set up")
  | none => .ok { t with recorder := some .own }

/-- Sets up what settings ask for: first the log, then metrics. An error leaves what was set up
before it. -/
def setUp (s : Settings) : Except Error Unit × Telemetry :=
  match t.setUpLog s.logging.options with
  | .error e => (.error e, t)
  | .ok t =>
    if !s.metrics.enabled then (.ok (), t)
    else match t.setUpMetrics with
      | .error e => (.error e, t)
      | .ok t => (.ok (), t)

/-- Sets up a foreign recorder, and tells whether that was possible. -/
def setUpForeign : Bool × Telemetry :=
  match t.recorder with
  | some _ => (false, t)
  | none => (true, { t with recorder := some .foreign })

/-- The names of the fields of a log event, its message among them. -/
def fieldNames (e : LogEvent) : List String :=
  "message" :: e.fields.map (·.1)

/-- The line that a log prints for an event of an observer, if its filter lets it pass. -/
def line? (l : Log) (e : LogEvent) : Option LogLine :=
  if l.filter.allows Observer.logTarget e.level (fieldNames e) then
    some {
      event := e
      target := if l.options.includeTarget then some Observer.logTarget else none
      located := l.options.fileLineInfo }
  else none

/-- What becomes of an entry that an observer writes. -/
def take : Entry → Telemetry
  | .logged e => { t with printed := t.printed ++ (t.log.bind (line? · e)).toList }
  | .counted s =>
    if t.recorder = some .own then { t with recorded := t.recorded ++ [.counted s] } else t
  | _ => t

/-- Tells the log and the metrics of something. -/
def notify (n : Notification) : Telemetry :=
  (Observer.all [.tracing true, .metrics] n).foldl take t

/-- The lines that the recorder of this library shows. -/
def render : Option (List String) :=
  if t.recorder = some .own then some (Metrics.lines true t.recorded) else none

end Telemetry

end CallGuard
