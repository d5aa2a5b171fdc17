import CallGuard.Interceptor.Basic
import CallGuard.Settings.Basic

/-!
# Setting up the handling of errors

`Setup.build` joins settings, advices, further handlers and observers into a fallback. The methods
of the advices are asked first, if there are any, then the further handlers in order. Nothing is
built when the settings say so. `Interceptor.guarding` makes an interceptor of the fallback.
-/

namespace CallGuard

/-- What the handling of errors is built from. -/
structure Setup where
  handler : HandlerSettings
  /-- Errors are counted. -/
  metrics : Bool
  /-- The hierarchy of the kinds that the advices map. -/
  hierarchy : Hierarchy
  /-- The advices, in the order in which they are registered. -/
  advices : List Advice
  /-- The handlers that are asked after the advices, in order. -/
  handlers : List Handler
  /-- The observers besides the built-in ones. -/
  observers : List Observer

namespace Setup

/-- A setup with these settings and nothing else. -/
def ofSettings (s : Settings) : Setup where
  handler := s.handler
  metrics := s.metrics.enabled
  hierarchy := .empty
  advices := []
  handlers := []
  observers := []

variable (s : Setup)

/-- The log, the counters if asked for, and the further observers, in this order. -/
def observer : Observer :=
  .all (.tracing s.handler.logUnmapped :: (if s.metrics then [.metrics] else []) ++ s.observers)

/-- The handlers that are asked in order, given the methods of the advices. -/
def chain (r : Registry) : List Handler :=
  (if r.isEmpty then []
    else [Dispatcher.handle ⟨r, s.observer, s.handler.failureDescription⟩]) ++ s.handlers

/-- The fallback that handles errors, if they are handled at all. An error comes with the position
of the advice it is about. -/
def build : Recorded (Except (Nat × Registry.Error) (Option Fallback)) := do
  if !s.handler.enabled then
    Recorded.log .debug "Exception handling disabled by configuration" []
    return .ok none
  match ← Registry.registerAll (.empty s.hierarchy) 0 s.advices with
  | .error e => return .error e
  | .ok r =>
    Recorded.log .debug "Exception handling configured" [("handlers", .count (s.chain r).length)]
    return .ok (some ⟨.first (s.chain r), s.observer⟩)

/-- The text that shows a setup for inspection. -/
def inspect : String :=
  Text.partialRecordText "ExceptionHandling"
    [("config", s.handler.inspect), ("metrics", toString s.metrics),
      ("advice_count", toString s.advices.length), ("handler_count", toString s.handlers.length)]

end Setup

end CallGuard
