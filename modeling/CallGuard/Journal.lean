import CallGuard.Call.Event
import CallGuard.Fault.Basic

/-!
# The journal

What happens while calls are served is written into a journal, one `Entry` after the other:

* `LogEvent`s, as a logger gets them;
* increments of counters, each naming its `Series`;
* the `Notification`s that an observer with a number was given;
* what test doubles see: the fault a handler is asked about, the event a listener hears, the headers
  an interceptor gets and the result of a close it makes.

Loggers, counters and recordings are views of the journal.
-/

namespace CallGuard

/-- How much a log event matters. -/
inductive Level where
  | trace
  | debug
  | info
  | warn
  | error
deriving DecidableEq

/-- The name of a level. -/
def Level.name : Level → String
  | trace => "TRACE"
  | debug => "DEBUG"
  | info => "INFO"
  | warn => "WARN"
  | error => "ERROR"

/-- The value of a field of a log event. -/
inductive LogValue where
  | text (value : String)
  | count (value : Nat)
  | flag (value : Bool)

/-- One event for the log. -/
structure LogEvent where
  level : Level
  /-- What happened, in words. -/
  message : String
  /-- The further fields by name. -/
  fields : List (String × LogValue)

/-- How an error came to its status. -/
inductive Resolution where
  /-- A handler method mapped it. -/
  | mapped
  /-- The handler method failed. -/
  | handlerFailure
  /-- The status was derived. -/
  | fallback
deriving DecidableEq

/-- What a counter counts. -/
inductive Series where
  /-- Errors that came to a status in one way. -/
  | resolved (resolution : Resolution)
  /-- Errors whose status has one code. -/
  | coded (code : Code)
  /-- Errors of one kind that no handler mapped. -/
  | unmapped (kind : Kind)
deriving DecidableEq

/-- What an observer is told about the way of an error to its status. -/
inductive Notification where
  /-- A handler method mapped the fault to the verdict. -/
  | dispatched (fault : Fault) (verdict : Verdict)
  /-- No handler mapped the fault. -/
  | unmapped (fault : Fault)
  /-- A handler method failed with the fault. -/
  | handlerFailed (failure : Fault)
  /-- The verdict was derived from the fault. -/
  | derived (fault : Fault) (verdict : Verdict)

/-- Something that happened. -/
inductive Entry where
  | logged (event : LogEvent)
  | counted (series : Series)
  | observed (observer : Nat) (notification : Notification)
  /-- The handler with a number was asked about a fault. -/
  | asked (handler : Nat) (fault : Fault)
  /-- A listener heard an event. -/
  | heard (event : Event)
  /-- The interceptor of that name got a call with these headers. -/
  | entered (interceptor : String) (headers : Metadata)
  /-- The interceptor of that name closed the call, with this result. -/
  | closedBy (interceptor : String) (result : Except CallError Unit)

/-- The entry for a log event. -/
def Entry.log (level : Level) (message : String) (fields : List (String × LogValue)) : Entry :=
  .logged ⟨level, message, fields⟩

end CallGuard
