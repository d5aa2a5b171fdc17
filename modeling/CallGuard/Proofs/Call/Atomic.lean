import CallGuard.Proofs.Call.Effects

/-!
# Atomic steps of the operations on a guarded call

Three operations change a guarded call over the transport: an error is raised, a service closes the
call, or the listener is told of an event about which its delegate does something (`Operation`).
`Operation.run` performs one of them as a whole.

An operation is also a sequence of atomic steps in program order. A `Point` tells how far an
operation has come, and `Point.step` makes the next step, which may be an `Act` that others can
notice: one access to the state of the call, one question to the fallback, or one close of the
transport.

* `Point.follow_start` : the steps of an operation, made one after the other, end after at most
  `Operation.length` of them, with what `Operation.run` comes to and in the world that it leaves.
-/

namespace CallGuard

/-! ### Operations -/

/-- The computation that comes to the same whatever labels are in use. -/
def Recorded.replay {α : Type} (t : Trace α) : Recorded α :=
  fun _ => t

/-- The listener that does the same about every event. -/
def Listener.doing (reaction : Trace (Outcome Unit)) : Listener :=
  fun _ => do Run.raise (← Run.recorded (.replay reaction))

/-- What is done with a guarded call. -/
inductive Operation where
  /-- An error is raised while the call is served. -/
  | fail (f : Fault)
  /-- A service closes the call. -/
  | close (s : Status) (trailers : Metadata)
  /-- The listener is told of an event, about which its delegate does something. -/
  | hear (e : Event) (reaction : Trace (Outcome Unit))

namespace Operation

/-- Performs an operation on the guarded call with its state in `slot`. Only a close has a result
that can tell of a failure. -/
def run (slot : Nat) (b : Fallback) : Operation → Run CallResult
  | fail f => do
    GuardedCall.handleFailure ⟨slot, b, .transport⟩ f
    return .ok ()
  | close s trailers => (GuardedCall.asCall ⟨slot, b, .transport⟩).close s trailers
  | hear e reaction => do
    GuardedCall.listener ⟨slot, b, .transport⟩ (.doing reaction) e
    return .ok ()

end Operation

/-! ### Points and steps -/

/-- Why a call is being closed. -/
inductive Reason where
  /-- An error was raised; whoever raised it learns only whether the close worked. -/
  | failure
  /-- A service asked for it, and gets the result. -/
  | service

/-- What the one who wanted the call closed is told about the result. -/
def Reason.report : Reason → CallResult → Recorded (Outcome CallResult)
  | failure, .error e => do
    return .failed (← Fault.make Kind.illegalState (some "Failed to close the call")
      (some (.call e)))
  | _, r => pure (.done r)

/-- What an operation does that others can notice. -/
inductive Act where
  /-- It tried to raise an error, and was the first to do so or not. -/
  | triedError (won : Bool)
  /-- It had the fallback resolve a fault. -/
  | resolved (cause : Fault) (v : Verdict)
  /-- It looked at the phase. -/
  | sawPhase (p : Phase)
  /-- It marked the call closed, and was the first to do so or not. -/
  | markedClosed (first : Bool)
  /-- It closed the transport. -/
  | closed (s : Status) (trailers : Metadata) (r : CallResult)

/-- How far an operation has come: what it does next, with all that it knows by then. -/
inductive Point where
  /-- The listener looks whether an error was raised. -/
  | checking (e : Event) (reaction : Trace (Outcome Unit))
  /-- The delegate hears the event. -/
  | hearing (reaction : Trace (Outcome Unit))
  /-- Tries to raise an error. -/
  | raising (f : Fault)
  /-- Drops an error that came too late. -/
  | dropping (f : Fault)
  /-- Looks for the cause of the status that a service closes with. -/
  | inspecting (s : Status) (trailers : Metadata)
  /-- Tries to raise the error that escaped with a status. -/
  | escaping (cause : Fault) (s : Status) (trailers : Metadata)
  /-- Looks at the phase, because that error came too late. -/
  | yielding (cause : Fault) (s : Status) (trailers : Metadata)
  /-- Has the fallback resolve the first error. -/
  | resolving (why : Reason) (cause : Fault) (trailers : Metadata)
  /-- Marks the call closed. -/
  | marking (why : Reason) (s : Status) (trailers : Metadata)
  /-- Closes the transport. -/
  | closing (why : Reason) (s : Status) (trailers : Metadata)
  | finished (o : Outcome CallResult)

/-- The fault that a delegate raises, if it does. -/
def raisedBy (reaction : Trace (Outcome Unit)) : Recorded (Option Fault) := do
  match ← Recorded.replay reaction with
  | .done () => return none
  | .failed f => return some f
  | .panicked p => some <$> Fault.ofPanic p

/-- A delegate that does something and is caught has raised what it raises. -/
theorem catchFault_doing (reaction : Trace (Outcome Unit)) (e : Event) (w : World) :
    (Listener.doing reaction e).catchFault w =
      (.done ((raisedBy reaction w.nextLabel).value.elim (.ok ()) .error),
        w.after (raisedBy reaction w.nextLabel)) := by
  rw [raisedBy, World.after_bind, Recorded.bind_value, Run.catchFault, Run.bind_apply,
    Run.attempt_apply, Run.andThen_done, Listener.doing, Run.bind_apply, Run.recorded_apply,
    Run.andThen_done, Run.raise_apply, Recorded.replay]
  rcases reaction with ⟨_ | _ | _, minted, entries⟩
  · simp [Run.faultOf, World.after]
  · simp [Run.faultOf, World.after]
  · rfl

namespace Point

variable (slot : Nat) (b : Fallback)

/-- The next step of an operation. -/
def step : Point → World → Option Act × Point × World
  | checking e reaction, w =>
    (none, if !e.isTerminal && (w.states slot).errored then finished (.done (.ok ()))
      else hearing reaction, w)
  | hearing reaction, w =>
    let t := raisedBy reaction w.nextLabel
    (none, t.value.elim (finished (.done (.ok ()))) raising, w.after t)
  | raising f, w =>
    let (won, s) := (w.states slot).tryError
    (some (.triedError won), if won then resolving .failure f .empty else dropping f,
      w.withState slot s)
  | dropping f, w =>
    let t := Recorded.log .debug "Ignoring error for call already handling an error or closed"
      [("error_type", .text f.kind.name), ("closed", .flag (w.states slot).closed)] w.nextLabel
    (none, finished (.done (.ok ())), w.after t)
  | inspecting s trailers, w =>
    let t := s.escapedCause w.nextLabel
    (none, t.value.elim (marking .service s trailers) (escaping · s trailers), w.after t)
  | escaping cause s trailers, w =>
    let (won, st) := (w.states slot).tryError
    (some (.triedError won),
      if won then resolving .service cause trailers else yielding cause s trailers,
      w.withState slot st)
  | yielding cause s trailers, w =>
    let p := (w.states slot).phase
    if p = .errored then
      let t := Recorded.log .debug "Dropping escaped close while another error is being handled"
        [("error_type", .text cause.kind.name)] w.nextLabel
      (some (.sawPhase p), finished (.done (.ok ())), w.after t)
    else (some (.sawPhase p), marking .service s trailers, w)
  | resolving why cause trailers, w =>
    let t := b.resolve cause w.nextLabel
    (some (.resolved cause t.value),
      marking why t.value.status (trailers.merge t.value.trailers), w.after t)
  | marking why s trailers, w =>
    let (first, st) := (w.states slot).markClosed
    let w := w.withState slot st
    let t := why.report (.error .alreadyClosed) w.nextLabel
    if first then (some (.markedClosed first), closing why s trailers, w)
    else (some (.markedClosed first), finished t.value, w.after t)
  | closing why s trailers, w =>
    let (r, u) := w.transport.close s trailers
    let w := w.withTransport u
    let t := why.report r w.nextLabel
    (some (.closed s trailers r), finished t.value, w.after t)
  | finished o, w => (none, finished o, w)

/-- What is done in a number of steps that are made one after the other, and where they lead. -/
def follow : Nat → Point → World → List Act × Point × World
  | 0, p, w => ([], p, w)
  | n + 1, p, w =>
    let (act, p, w) := p.step slot b w
    let (acts, end_) := follow n p w
    (act.toList ++ acts, end_)

end Point

namespace Operation

/-- The point at which an operation starts. -/
def start : Operation → Point
  | fail f => .raising f
  | close s trailers => .inspecting s trailers
  | hear e reaction => .checking e reaction

/-- The number of steps in which every operation ends. -/
def length : Nat := 6

/-- What an operation does when nothing comes between its steps. -/
def acts (slot : Nat) (b : Fallback) (op : Operation) (w : World) : List Act :=
  (op.start.follow slot b length w).1

end Operation

/-! ### Steps without interruption

What an operation still has to do from a point on is a computation of its own (`Point.rest`), and a
step takes a part off it (`Point.rest_step`). -/

/-- Does something and tells the one who wanted it what it came to. -/
def Reason.told (why : Reason) (x : Run CallResult) : Run CallResult := do
  Run.raise (← Run.recorded (why.report (← x)))

theorem Reason.told_service (x : Run CallResult) : Reason.service.told x = x := by
  funext w
  rw [told, Run.bind_apply]
  rcases x w with ⟨_ | _ | _, w'⟩
  · simp [Run.bind_apply, report, World.after]
  · rfl
  · rfl

theorem Reason.told_failure (x : Run CallResult) :
    Reason.failure.told x = (do
      match ← x with
      | .ok () => pure ()
      | .error e =>
        Run.fail (← Run.recorded
          (Fault.make Kind.illegalState (some "Failed to close the call") (some (.call e))))
      return .ok ()) := by
  funext w
  rw [told, Run.bind_apply, Run.bind_apply]
  rcases x w with ⟨(_ | _) | _ | _, w'⟩
  · rfl
  · simp [Run.bind_apply, report, World.after]
  · rfl
  · rfl

namespace Point

variable (slot : Nat) (b : Fallback)

/-- What to do about an error that escaped with a status when the call is not active any more. -/
def yield (cause : Fault) (s : Status) (trailers : Metadata) : Run CallResult := do
  if (← Run.read fun w => (w.states slot).phase) = .errored then
    Run.log .debug "Dropping escaped close while another error is being handled"
      [("error_type", .text cause.kind.name)]
    return .ok ()
  else Call.closeOnce slot Call.transport.close s trailers

/-- What to do about the first error. -/
def answer (cause : Fault) (trailers : Metadata) : Run CallResult := do
  Call.closeResolved slot Call.transport.close (← Run.recorded (b.resolve cause)) trailers

/-- All that an operation still has to do. -/
def rest : Point → Run CallResult
  | checking e reaction => (Operation.hear e reaction).run slot b
  | hearing reaction => do
    match ← Run.recorded (raisedBy reaction) with
    | none => return .ok ()
    | some f => (Operation.fail f).run slot b
  | raising f => (Operation.fail f).run slot b
  | dropping f => do
    Run.log .debug "Ignoring error for call already handling an error or closed"
      [("error_type", .text f.kind.name), ("closed", .flag (← Run.read (·.states slot)).closed)]
    return .ok ()
  | inspecting s trailers => (Operation.close s trailers).run slot b
  | escaping cause s trailers => do
    if ← Run.onState slot CallState.tryError then answer slot b cause trailers
    else yield slot cause s trailers
  | yielding cause s trailers => yield slot cause s trailers
  | resolving why cause trailers => why.told (answer slot b cause trailers)
  | marking why s trailers => why.told (Call.closeOnce slot Call.transport.close s trailers)
  | closing why s trailers => why.told (Call.transport.close s trailers)
  | finished o => Run.raise o

/-- A step takes a part off what is left to do. -/
theorem rest_step (p : Point) (w : World) :
    (p.step slot b w).2.1.rest slot b (p.step slot b w).2.2 = p.rest slot b w := by
  cases p with
  | checking e reaction =>
    by_cases h : e.isTerminal = false ∧ (w.states slot).errored = true
    · simp [rest, step, h, Operation.run, GuardedCall.listener, GuardedCall.state, Run.bind_apply]
    · -- what the delegate does is caught, and goes on to be raised or not
      have hc := catchFault_doing reaction e w
      cases hr : (raisedBy reaction w.nextLabel).value <;> rw [hr] at hc <;>
        simp [rest, step, h, hr, hc, Operation.run, GuardedCall.listener, GuardedCall.state,
          Run.bind_apply, Run.map_apply]
  | hearing reaction =>
    cases h : (raisedBy reaction w.nextLabel).value <;> simp [rest, step, h, Run.bind_apply]
  | raising f =>
    rcases h : (w.states slot).tryError with ⟨won, s⟩
    cases won with
    | true =>
      simp only [rest, step, h, ↓reduceIte, answer, Reason.told_failure, bind_pure_comp,
        Run.bind_apply, Fallback.consult_steady, Run.recorded_apply, World.withState_nextLabel,
        Run.andThen_done, Operation.run, GuardedCall.handleFailure, Run.onState_apply]
      -- both sides close the call now, and differ in how they go on from each of the results
      rcases Call.closeResolved slot Call.transport.close (b.resolve f w.nextLabel).value
        Metadata.empty ((w.withState slot s).after (b.resolve f w.nextLabel)) with
        ⟨(_ | _) | _ | _, w'⟩ <;> rfl
    | false =>
      simp [rest, step, h, Run.bind_apply, Run.map_apply, Operation.run,
        GuardedCall.handleFailure, GuardedCall.state]
  | dropping f => rfl
  | inspecting s trailers =>
    cases h : (s.escapedCause w.nextLabel).value with
    | none =>
      simp [rest, step, h, Run.bind_apply, Operation.run, GuardedCall.asCall, Call.close,
        Call.closeGuarded, Reason.told_service]
    | some c =>
      simp [rest, step, h, Run.bind_apply, Operation.run, GuardedCall.asCall, Call.close,
        Call.closeGuarded, yield, answer]
  | escaping cause s trailers =>
    rcases h : (w.states slot).tryError with ⟨won, st⟩
    cases won <;> simp [rest, step, h, Run.bind_apply, Reason.told_service]
  | yielding cause s trailers =>
    by_cases h : (w.states slot).phase = .errored
    · simp [rest, step, h, Run.bind_apply, Run.map_apply, yield, Run.log]
    · simp [rest, step, h, Run.bind_apply, yield, Reason.told_service]
  | resolving why cause trailers =>
    simp [rest, step, Run.bind_apply, Reason.told, answer, Call.closeResolved]
  | marking why s trailers =>
    rcases h : (w.states slot).markClosed with ⟨first, st⟩
    cases first <;> simp [rest, step, h, Run.bind_apply, Reason.told, Call.closeOnce]
  | closing why s trailers => rfl
  | finished o => rfl

/-- The number of steps in which an operation ends from a point on. -/
def rank : Point → Nat
  | checking .. => 6
  | hearing .. | inspecting .. => 5
  | raising .. | escaping .. => 4
  | yielding .. | resolving .. => 3
  | marking .. => 2
  | dropping .. | closing .. => 1
  | finished .. => 0

theorem rank_step (p : Point) (w : World) : (p.step slot b w).2.1.rank ≤ p.rank - 1 := by
  cases p with
  | checking e reaction => simp only [step]; split <;> simp [rank]
  | hearing reaction =>
    cases h : (raisedBy reaction w.nextLabel).value <;> simp [step, h, rank]
  | raising f => simp only [step]; split <;> simp [rank]
  | inspecting s trailers =>
    cases h : (s.escapedCause w.nextLabel).value <;> simp [step, h, rank]
  | escaping cause s trailers => simp only [step]; split <;> simp [rank]
  | yielding cause s trailers => simp only [step]; split <;> simp [rank]
  | marking why s trailers => simp only [step]; split <;> simp [rank]
  | _ => simp [step, rank]

/-- Steps without interruption do what was left to do. -/
theorem follow_eq_rest {n : Nat} {p : Point} (h : p.rank ≤ n) (w : World) :
    (p.follow slot b n w).2 = (.finished (p.rest slot b w).1, (p.rest slot b w).2) := by
  induction n generalizing p w with
  | zero =>
    cases p with
    | finished o => rfl
    | _ => simp [rank] at h
  | succ n ih =>
    have hr : (p.step slot b w).2.1.rank ≤ n := Nat.le_trans (rank_step slot b p w) (by omega)
    simpa only [follow, rest_step] using ih hr (p.step slot b w).2.2

end Point

/-- **An operation is the sequence of its steps.** Made one after the other they end, with what the
operation as a whole comes to and in the world that it leaves. -/
theorem Point.follow_start (slot : Nat) (b : Fallback) (op : Operation) (w : World) :
    (op.start.follow slot b Operation.length w).2 =
      (.finished (op.run slot b w).1, (op.run slot b w).2) := by
  cases op <;> exact follow_eq_rest slot b (by simp [Operation.start, Operation.length, rank]) w

end CallGuard
