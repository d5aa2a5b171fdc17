import CallGuard.Fault.Derive
import CallGuard.Handler
import CallGuard.Observer

/-!
# A handler that always has an answer

A `Fallback` asks its handler and derives a verdict from the fault when the handler declines or
panics. The observer is told of a fault that was declined, and of every derived verdict.

The hooks of an observer are trusted to come back. A `FragileFallback` does not rely on that: a hook
of its observer may panic, and then there is no verdict. What is asked and told, and in which order,
is the same for both (`Fallback.settleTelling`).
-/

namespace CallGuard

/-- A handler with an observer for what the handler leaves open. -/
structure Fallback where
  /-- Asked first. -/
  handler : Handler
  /-- What is told of derived verdicts. -/
  observer : Observer

namespace Fallback

section

variable {m : Type → Type} [Monad m] [MonadLiftT Recorded m] (tell : Notification → m Unit)

/-- The verdict derived from a fault, of which the observer is told. -/
def deriveTelling (f : Fault) : m Verdict := do
  tell (.derived f f.derive)
  return f.derive

/-- What to close a call with for a fault to which the handler gave a reply. -/
def settleTelling (f : Fault) : Reply → m Verdict
  | .answered v => pure v
  | .declined => do
    tell (.unmapped f)
    deriveTelling tell f
  | .panicked payload => do
    let panic ← liftM (Fault.ofPanic payload)
    liftM (Recorded.log .trace "Handler unable to handle exception"
      [("error", .text f.text), ("panic", .text panic.text)])
    deriveTelling tell f

end

variable (b : Fallback)

/-- Tells the observer, which comes back. -/
def tell (n : Notification) : Recorded Unit :=
  Recorded.write (b.observer n)

/-- The verdict derived from the fault. -/
def derive (f : Fault) : Recorded Verdict :=
  deriveTelling b.tell f

/-- What the fallback makes of what its handler says. -/
def settle (f : Fault) (reply : Reply) : Recorded Verdict :=
  settleTelling b.tell f reply

/-- What to close a call with for a fault. -/
def resolve (f : Fault) : Recorded Verdict := do
  b.settle f (← b.handler f)

theorem resolve_eq (f : Fault) : b.resolve f = b.handler f >>= b.settle f := rfl

theorem derive_eq (f : Fault) :
    b.derive f = b.tell (.derived f f.derive) >>= fun _ => pure f.derive := rfl

theorem settle_declined (f : Fault) :
    b.settle f .declined = b.tell (.unmapped f) >>= fun _ => b.derive f := rfl

theorem settle_panicked (f : Fault) (p : Payload) :
    b.settle f (.panicked p) = Fault.ofPanic p >>= fun panic =>
      Recorded.log .trace "Handler unable to handle exception"
        [("error", .text f.text), ("panic", .text panic.text)] >>= fun _ => b.derive f := rfl

/-- The fallback as a handler, which never declines. -/
def asHandler : Handler := fun f => do
  return .answered (← b.resolve f)

/-- The text that shows a fallback for inspection. -/
def inspect : String :=
  Text.partialRecordText "FallbackHandler" []

end Fallback

/-- A fallback with an observer whose hooks may panic. -/
structure FragileFallback extends Fallback where
  /-- What the hook for a notification panics with, once it has left its entries. -/
  panics : Notification → Option Payload

/-- The fallback as one that might be fragile but is not. -/
def Fallback.steady (b : Fallback) : FragileFallback :=
  { b with panics := fun _ => none }

instance : Coe Fallback FragileFallback := ⟨Fallback.steady⟩

/-- The hooks of the observer come back. -/
def FragileFallback.Steady (b : FragileFallback) : Prop :=
  ∀ n, b.panics n = none

theorem Fallback.steady_steady (b : Fallback) : b.steady.Steady :=
  fun _ => rfl

theorem FragileFallback.not_steady {b : FragileFallback} {n : Notification} {p : Payload}
    (h : b.panics n = some p) : ¬b.Steady := by
  intro hb
  cases (hb n).symm.trans h

end CallGuard
