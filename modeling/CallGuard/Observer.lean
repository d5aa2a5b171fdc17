import CallGuard.Journal

/-!
# Observers

An observer is told how errors come to their statuses and turns each notification into the entries
that it leaves in the journal.

* `Observer.tracing` writes log events, for unmapped errors only if asked to;
* `Observer.metrics` counts;
* `Observer.recording` keeps the notifications themselves;
* `Observer.all` passes each notification to several observers in turn.

That a hook does not come back is no matter of the observer here. Where a dispatcher calls it, its
panic is one of the handler (`Reply.panicked`); where a fallback does, see `FragileFallback.panics`.
-/

namespace CallGuard

/-- What is left in the journal for each notification. The hooks come back. -/
def Observer : Type :=
  Notification → List Entry

namespace Observer

/-- The target under which observers write their log events. -/
def logTarget : String := "aegis_core::observer"

/-- Leaves nothing. -/
def silent : Observer :=
  fun _ => []

/-- Writes a log event for each notification, for unmapped errors only with `logUnmapped`. -/
def tracing (logUnmapped : Bool) : Observer
  | .dispatched f v =>
    [.log .debug "Exception mapped to status"
      [("error_type", .text f.kind.name), ("code", .text v.code.name)]]
  | .unmapped f =>
    if logUnmapped then
      [.log .error "Unknown exception" [("error_type", .text f.kind.name), ("error", .text f.text)]]
    else []
  | .handlerFailed f =>
    [.log .error "Exception thrown during invocation of exception handler method"
      [("error_type", .text f.kind.name), ("error", .text f.text),
        ("suppressed", .count f.suppressed.length)]]
  | .derived f v =>
    [.log .trace "Status derived from unmapped exception"
      [("error_type", .text f.kind.name), ("code", .text v.code.name)]]

/-- Counts how errors came to their statuses and with which codes, and the unmapped ones by kind. -/
def metrics : Observer
  | .dispatched _ v => [.counted (.resolved .mapped), .counted (.coded v.code)]
  | .unmapped f => [.counted (.unmapped f.kind)]
  | .handlerFailed _ => [.counted (.resolved .handlerFailure), .counted (.coded .internal)]
  | .derived _ v => [.counted (.resolved .fallback), .counted (.coded v.code)]

/-- Keeps each notification under the number of the observer. -/
def recording (observer : Nat) : Observer :=
  fun n => [.observed observer n]

/-- Passes each notification to all of them, in order. -/
def all (observers : List Observer) : Observer :=
  fun n => observers.flatMap fun o => o n

/-- The text that shows a tracing observer for inspection. -/
def inspectTracing (logUnmapped : Bool) : String :=
  Text.recordText "TracingObserver" [("log_unmapped", toString logUnmapped)]

/-- The text that shows a number of joined observers for inspection. -/
def inspectAll (count : Nat) : String :=
  Text.recordText "CompositeObserver" [("observer_count", toString count)]

end Observer

end CallGuard
