import CallGuard.Call.Basic

/-!
# Operations on calls

All operations on a guarded call but one go straight through to the transport. The exception is
`Call.close`: a status of unknown code that has a source is an error that escaped from the service
(`Status.escapedCause`). The guarded call resolves the error as if it had been raised, and closes
the call below with the result. Everything else goes on as it is, once.
-/

namespace CallGuard

/-- The fault that escaped with a status: its source, if the code is unknown. -/
def Status.escapedCause (s : Status) : Recorded (Option Fault) :=
  if s.code = .unknown then
    match s.source with
    | none => pure none
    | some (.fault f) => pure (some f)
    | some (.verdict v) => some <$> Fault.ofVerdict v
    | some c => some <$> Fault.new Kind.any c.text
  else pure none

namespace Call

/-- Closes the call below a guarded call, unless that happened before. `next` closes the call
below. -/
def closeOnce (slot : Nat) (next : Status → Metadata → Run CallResult) (s : Status)
    (trailers : Metadata) : Run CallResult := do
  if ← Run.onState slot CallState.markClosed then next s trailers
  else return .error .alreadyClosed

/-- Closes the call below a guarded call with what an error was resolved to. The trailers that were
there before stay, where the verdict has none of the same key. -/
def closeResolved (slot : Nat) (next : Status → Metadata → Run CallResult) (v : Verdict)
    (trailers : Metadata) : Run CallResult :=
  closeOnce slot next v.status (trailers.merge v.trailers)

/-- Closes a guarded call. -/
def closeGuarded (slot : Nat) (fallback : FragileFallback)
    (next : Status → Metadata → Run CallResult) (s : Status) (trailers : Metadata) :
    Run CallResult := do
  match ← Run.recorded s.escapedCause with
  | none => closeOnce slot next s trailers
  | some cause =>
    if ← Run.onState slot CallState.tryError then
      closeResolved slot next (← fallback.consult cause) trailers
    else if (← Run.read fun w => (w.states slot).phase) = .errored then
      Run.log .debug "Dropping escaped close while another error is being handled"
        [("error_type", .text cause.kind.name)]
      return .ok ()
    else closeOnce slot next s trailers

/-- Attempts to close the transport, which may panic after that. -/
def closeTransport (panics : Nat → Option Payload) (s : Status) (trailers : Metadata) :
    Run CallResult := do
  let attempts ← Run.read (·.transport.attempts)
  let r ← Run.onTransport (·.close s trailers)
  match panics attempts with
  | none => return r
  | some p => Run.raise (.panicked p)

/-- Closes a call with a status and trailers. -/
def close : Call → Status → Metadata → Run CallResult
  | transport panics, s, trailers => closeTransport panics s trailers
  | guarded slot fallback inner, s, trailers =>
    closeGuarded slot fallback inner.close s trailers

/-- Sends headers. -/
def sendHeaders : Call → Metadata → Run CallResult
  | transport _, m => Run.onTransport (·.sendHeaders m)
  | guarded _ _ inner, m => inner.sendHeaders m

/-- Sends a message. -/
def sendMessage : Call → String → Run CallResult
  | transport _, body => Run.onTransport (·.sendMessage body)
  | guarded _ _ inner, body => inner.sendMessage body

/-- The client gave the call up. -/
def isCancelled : Call → Run Bool
  | transport _ => Run.read (·.transport.cancelled)
  | guarded _ _ inner => inner.isCancelled

/-- The call can take more messages, which the transport always can. -/
def isReady : Call → Run Bool
  | transport _ => pure true
  | guarded _ _ inner => inner.isReady

/-- The method that is called. -/
def descriptor : Call → Run Descriptor
  | transport _ => Run.read (·.transport.descriptor)
  | guarded _ _ inner => inner.descriptor

end Call

end CallGuard
