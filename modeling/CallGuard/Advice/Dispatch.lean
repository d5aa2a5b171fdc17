import CallGuard.Advice.Resolve
import CallGuard.Fault.Derive
import CallGuard.Handler
import CallGuard.Observer

/-!
# Dispatching faults to handler methods

A `Dispatcher` handles a fault by the method its registry resolves for the kind of the fault.

* Without such a method, or when the method has no answer, it declines.
* An answer becomes a verdict (`Answer.toVerdict`), of which the observer is told.
* A method that fails or panics comes to an internal status with a fixed description. Its source is
  the failure, which keeps the handled fault as suppressed unless it is that fault itself.
-/

namespace CallGuard

/-- The verdict that an answer stands for. For another fault it is the status derived from it,
without trailers. -/
def Answer.toVerdict : Answer → Verdict
  | .status s => .ofStatus s
  | .verdict v => v
  | .fault f => .ofStatus f.derive.status

/-- Handles faults by the methods of a registry. -/
structure Dispatcher where
  /-- The methods. -/
  registry : Registry
  /-- What is told of answers and failures. -/
  observer : Observer
  /-- The message of the status for a method that fails. -/
  failureDescription : String

namespace Dispatcher

/-- The description of failures unless another one is set. -/
def defaultFailureDescription : String := "server error while handling exception"

variable (d : Dispatcher)

/-- What the method that is responsible for the fault makes of it; no answer without such a
method. -/
def invoke (f : Fault) : Recorded (Outcome (Option Answer)) :=
  match d.registry.resolve? f.kind with
  | none => pure (.done none)
  | some b => do
    Recorded.log .trace "Invoking exception handler method"
      [("error_type", .text f.kind.name), ("method", .text b.qualifiedName)]
    b.method.run (b.bind d.registry.hierarchy f)

/-- The verdict for a method that failed on `f`. -/
def failureVerdict (f failure : Fault) : Recorded Verdict := do
  let failure ← if failure.isSame f then pure failure else failure.withSuppressed (.fault f)
  Recorded.write (d.observer (.handlerFailed failure))
  return .ofStatus
    { Status.plain .internal d.failureDescription with source := some (.fault failure) }

/-- Handles a fault. -/
def handle : Handler := fun f => do
  Recorded.log .debug "Exception caught during call execution"
    [("error_type", .text f.kind.name), ("error", .text f.text)]
  match ← d.invoke f with
  | .done none => return .declined
  | .done (some answer) =>
    Recorded.write (d.observer (.dispatched f answer.toVerdict))
    return .answered answer.toVerdict
  | .failed failure => return .answered (← d.failureVerdict f failure)
  | .panicked payload => return .answered (← d.failureVerdict f (← Fault.ofPanic payload))

/-- The text that shows a dispatcher for inspection. -/
def inspect : String :=
  Text.partialRecordText "AdviceExceptionHandler"
    [("resolver", d.registry.inspectResolver),
      ("failure_description", Text.quote d.failureDescription)]

end Dispatcher

end CallGuard
