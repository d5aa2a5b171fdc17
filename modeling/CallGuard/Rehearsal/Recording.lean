import CallGuard.Journal

/-!
# Recordings

What those who take part in a call wrote down, read off the journal.
-/

namespace CallGuard

/-- The log events in a journal. -/
def logEvents (journal : List Entry) : List LogEvent :=
  journal.filterMap fun
    | .logged e => some e
    | _ => none

/-- The notifications that the observer with a number was given. -/
def notifications (observer : Nat) (journal : List Entry) : List Notification :=
  journal.filterMap fun
    | .observed o n => if o = observer then some n else none
    | _ => none

/-- The faults that the handler with a number was asked about. -/
def askedFaults (handler : Nat) (journal : List Entry) : List Fault :=
  journal.filterMap fun
    | .asked h f => if h = handler then some f else none
    | _ => none

/-- The events that a listener heard. -/
def heardEvents (journal : List Entry) : List Event :=
  journal.filterMap fun
    | .heard e => some e
    | _ => none

/-- The messages that a listener was given. -/
def heardMessages (journal : List Entry) : List String :=
  (heardEvents journal).filterMap fun
    | .message body => some body
    | _ => none

/-- What an interceptor noted: the headers it got, or the result of a close. -/
inductive Probe where
  | headers (interceptor : String) (m : Metadata)
  | closed (interceptor : String) (r : Except CallError Unit)

/-- What interceptors noted. -/
def probes (journal : List Entry) : List Probe :=
  journal.filterMap fun
    | .entered i m => some (.headers i m)
    | .closedBy i r => some (.closed i r)
    | _ => none

end CallGuard
