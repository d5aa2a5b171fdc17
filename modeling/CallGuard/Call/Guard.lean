import CallGuard.Call.Close

/-!
# Guarded calls and guarded listeners

A `GuardedCall` stands between a service and the call it serves. The first error that is raised
while the call is active is resolved by a fallback, and the call is closed with the result
(`GuardedCall.handleFailure`); later errors are dropped. It fails only if that close does.

`GuardedCall.listener` puts the guard around a listener: failures and panics of the listener are
errors of the call, and after an error the listener hears of nothing more but the end of the call.
-/

namespace CallGuard

/-- What is told of the events of a call. -/
def Listener : Type :=
  Event → Run Unit

/-- A listener that does nothing. -/
def Listener.silent : Listener :=
  fun _ => pure ()

/-- A call that was put under guard. -/
structure GuardedCall where
  /-- Where the state of the call stands. -/
  slot : Nat
  /-- Resolves the errors of the call. -/
  fallback : FragileFallback
  /-- The call below. -/
  inner : Call

namespace GuardedCall

/-- Puts a call under guard. -/
def start (fallback : FragileFallback) (inner : Call) : Run GuardedCall := do
  return ⟨← Run.takeSlot, fallback, inner⟩

variable (g : GuardedCall)

/-- The call as a service sees it. -/
def asCall : Call :=
  .guarded g.slot g.fallback g.inner

/-- The state of the call. -/
def state : Run CallState :=
  Run.read fun w => w.states g.slot

/-- Handles an error that was raised while the call was served. -/
def handleFailure (f : Fault) : Run Unit := do
  if ← Run.onState g.slot CallState.tryError then
    let v ← g.fallback.consult f
    match ← Call.closeResolved g.slot g.inner.close v .empty with
    | .ok () => return
    | .error e =>
      Run.fail (← Run.recorded
        (Fault.make Kind.illegalState (some "Failed to close the call") (some (.call e))))
  else
    Run.log .debug "Ignoring error for call already handling an error or closed"
      [("error_type", .text f.kind.name), ("closed", .flag (← g.state).closed)]

/-- The listener under guard. -/
def listener (delegate : Listener) : Listener := fun e => do
  if !e.isTerminal && (← g.state).errored then return
  else
    match ← Run.catchFault (delegate e) with
    | .ok () => return
    | .error f => g.handleFailure f

/-- The text that shows a guarded call for inspection. -/
def inspect (d : Descriptor) (s : CallState) : String :=
  Text.partialRecordText "ExceptionHandledCall"
    [("method", d.inspect), ("state", s.phase.name)]

/-- The text that shows a guarded listener for inspection. -/
def inspectListener (d : Descriptor) (s : CallState) : String :=
  Text.partialRecordText "ExceptionHandlerListener" [("call", inspect d s)]

end GuardedCall

end CallGuard
