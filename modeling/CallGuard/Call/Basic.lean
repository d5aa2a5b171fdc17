import CallGuard.Call.State
import CallGuard.Call.Transport
import CallGuard.Fallback

/-!
# Calls and the world they live in

A `Call` is the transport itself or a guarded call over another call. The states of guarded calls
are not part of a `Call`: they stand in the `World`, in the slot that the call names, so that all
who hold the call see the same state. Neither the transport nor the fallback of a guarded call is
trusted to come back: a close of the transport and a hook of an observer may panic.

A computation of type `Run α` works on the world and ends with a value, a failure or a panic. What
it did to the world stays done in each case, and `Run.attempt` makes the way it ended into a value.
-/

namespace CallGuard

/-- A call as a service sees it. -/
inductive Call where
  /-- The transport, unguarded, with what an attempt to close it panics with once it was made, by
  the number of attempts before it. Every attempt comes back if nothing else is said. -/
  | transport (panics : Nat → Option Payload := fun _ => none)
  /-- A guarded call: the slot of its state, the fallback that resolves its errors, and the call
  below it. -/
  | guarded (slot : Nat) (fallback : FragileFallback) (inner : Call)

/-- All that changes while a call is served. -/
structure World where
  /-- The first label not in use. -/
  nextLabel : Label
  /-- What happened so far, oldest first. -/
  journal : List Entry
  /-- The transport under all calls. -/
  transport : Transport
  /-- The first slot without a guarded call. -/
  nextSlot : Nat
  /-- The states of the guarded calls. -/
  states : Nat → CallState
  /-- The calls that services were started with, oldest first. -/
  started : List Call

/-- A world in which nothing has happened, with labels from `n` on. -/
def World.fresh (n : Label) (t : Transport) : World :=
  { nextLabel := n, journal := [], transport := t, nextSlot := 0, states := fun _ => .fresh,
    started := [] }

/-- A computation on the world. -/
def Run (α : Type) : Type :=
  World → Outcome α × World

namespace Run

variable {α β : Type}

/-- Goes on with the value of an ended computation, if it has one. -/
def andThen (f : α → Run β) : Outcome α × World → Outcome β × World
  | (.done a, w) => f a w
  | (.failed e, w) => (.failed e, w)
  | (.panicked p, w) => (.panicked p, w)

instance : Monad Run where
  pure a := fun w => (.done a, w)
  bind x f := fun w => andThen f (x w)

@[simp] theorem pure_apply (a : α) (w : World) : (pure a : Run α) w = (.done a, w) := rfl

theorem bind_apply (x : Run α) (f : α → Run β) (w : World) : (x >>= f) w = andThen f (x w) := rfl

@[simp] theorem andThen_done (f : α → Run β) (a : α) (w : World) :
    andThen f (.done a, w) = f a w := rfl

@[simp] theorem andThen_failed (f : α → Run β) (e : Fault) (w : World) :
    andThen f (.failed e, w) = (.failed e, w) := rfl

@[simp] theorem andThen_panicked (f : α → Run β) (p : Payload) (w : World) :
    andThen f (.panicked p, w) = (.panicked p, w) := rfl

instance : LawfulMonad Run := by
  refine LawfulMonad.mk' _ (fun x => ?_) (fun _ _ => rfl) (fun x f g => ?_) <;> funext w
  · change andThen (fun a => pure a) (x w) = x w
    rcases x w with ⟨_ | _ | _, _⟩ <;> rfl
  · change andThen g (andThen f (x w)) = andThen (fun a => f a >>= g) (x w)
    rcases x w with ⟨_ | _ | _, _⟩ <;> rfl

/-- Ends as told. -/
def raise (o : Outcome α) : Run α :=
  fun w => (o, w)

/-- Fails with a fault. -/
def fail (f : Fault) : Run α :=
  raise (.failed f)

/-- The way a computation ends, as a value. -/
def attempt (x : Run α) : Run (Outcome α) :=
  fun w => (.done (x w).1, (x w).2)

/-- A recorded computation on the world: its labels are taken and its entries stand in the
journal. -/
def recorded (x : Recorded α) : Run α := fun w =>
  let t := x w.nextLabel
  (.done t.value,
    { w with nextLabel := w.nextLabel + t.minted, journal := w.journal ++ t.entries })

/-- Writes entries into the journal. -/
def write (es : List Entry) : Run Unit :=
  recorded (Recorded.write es)

/-- Writes a log event into the journal. -/
def log (level : Level) (message : String) (fields : List (String × LogValue)) : Run Unit :=
  recorded (Recorded.log level message fields)

/-- A value read from the world. -/
def read (f : World → α) : Run α :=
  fun w => (.done (f w), w)

/-- One step of the transport. -/
def onTransport (f : Transport → α × Transport) : Run α := fun w =>
  (.done (f w.transport).1, { w with transport := (f w.transport).2 })

/-- One step of the state in a slot. -/
def onState (slot : Nat) (f : CallState → α × CallState) : Run α := fun w =>
  (.done (f (w.states slot)).1,
    { w with states := fun n => if n = slot then (f (w.states slot)).2 else w.states n })

/-- Takes a slot for a new guarded call. -/
def takeSlot : Run Nat := fun w =>
  (.done w.nextSlot, { w with nextSlot := w.nextSlot + 1 })

/-- Notes that a service was started with a call. -/
def noteStart (c : Call) : Run Unit := fun w =>
  (.done (), { w with started := w.started ++ [c] })

/-- The fault of a computation that did not come back with a value; a panic becomes a fresh
fault. -/
def faultOf : Outcome α → Run (Except Fault α)
  | .done a => pure (.ok a)
  | .failed f => pure (.error f)
  | .panicked p => do
    return .error (← recorded (Fault.ofPanic p))

/-- A computation whose failures and panics both come back as faults. -/
def catchFault (x : Run α) : Run (Except Fault α) := do
  faultOf (← attempt x)

instance : MonadLift Recorded Run := ⟨recorded⟩

end Run

namespace FragileFallback

variable (b : FragileFallback)

/-- Tells the observer, which may panic. -/
def tell (n : Notification) : Run Unit := do
  Run.recorded (b.toFallback.tell n)
  match b.panics n with
  | none => return
  | some p => Run.raise (.panicked p)

/-- What to close a call with for a fault, if no hook of the observer panics. -/
def consult (f : Fault) : Run Verdict := do
  Fallback.settleTelling b.tell f (← Run.recorded (b.handler f))

end FragileFallback

end CallGuard
