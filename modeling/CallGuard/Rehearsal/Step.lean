import CallGuard.Interceptor.Chain
import CallGuard.Rehearsal.Script

/-!
# Rehearsing a call step by step

A rehearsal takes a call through a list of steps and reports, after each of them, what it came to
and what is new in the world since the step before: accepted closes, events that a listener heard,
notifications, and what interceptors noted.
-/

namespace CallGuard

/-- One step of a rehearsal. -/
inductive Step where
  /-- The listener is told of an event. -/
  | hear (e : Event)
  | close (s : Status) (trailers : Metadata)
  /-- Closes the call with what is derived from a fault. -/
  | closeDerived (f : Fault)
  | sendHeaders (m : Metadata)
  | sendMessage (body : String)
  | isCancelled
  | isReady
  | descriptor
  /-- The client gives the call up. -/
  | peerCancel
  /-- From now on every close of the transport fails. -/
  | failClose (e : CallError)
  /-- Looks at the trailers of the last close. -/
  | trailer (key : String)
  /-- The guarded call handles an error. -/
  | handleFailure (f : Fault)
  /-- The fallback resolves a fault. -/
  | resolve (f : Fault)
  /-- The fallback, as a handler, is asked about a fault. -/
  | handleException (f : Fault)
  | tryError
  | markClosed
  /-- A chain is started with the transport. -/
  | start (headers : Metadata)

/-- What a step came to. -/
inductive StepResult where
  | finished
  | called (r : CallResult)
  | flag (b : Bool)
  | described (d : Descriptor)
  | resolved (v : Verdict)
  | declined
  | text (t : Option String)
  | noListener
  | noCall
  | failed (f : Fault)
  | panicked (p : Payload)

/-- Those who take part in a rehearsal. -/
structure Stage where
  /-- The call that a service holds. -/
  call : Option Call
  listener : Option Listener
  /-- The guarded call to which steps of its own apply. -/
  guarded : Option GuardedCall
  /-- What a start starts. -/
  chain : Option Chain

/-- What was new after a step. -/
structure StepReport where
  result : StepResult
  /-- How often a close of the transport was attempted so far. -/
  attempts : Nat
  /-- The closes that the transport accepted. -/
  closed : List Verdict
  /-- What was written into the journal. -/
  entries : List Entry
  /-- The state of the guarded call. -/
  state : CallState

namespace Step

/-- Performs an operation on the call, if there is one. -/
def onCall (stage : Stage) (op : Call → Run StepResult) : Run StepResult :=
  match stage.call with
  | some c => op c
  | none => pure .noCall

/-- Performs an operation on the guarded call, if there is one. -/
def onGuarded (stage : Stage) (op : GuardedCall → Run StepResult) : Run StepResult :=
  match stage.guarded with
  | some g => op g
  | none => pure .noCall

/-- Performs a step. -/
def run (stage : Stage) : Step → Run StepResult
  | hear e =>
    match stage.listener with
    | some l => do
      l e
      return .finished
    | none => pure .noListener
  | close s trailers => onCall stage fun c => .called <$> c.close s trailers
  | closeDerived f => onCall stage fun c => .called <$> c.close f.derive.status f.derive.trailers
  | sendHeaders m => onCall stage fun c => .called <$> c.sendHeaders m
  | sendMessage body => onCall stage fun c => .called <$> c.sendMessage body
  | isCancelled => onCall stage fun c => .flag <$> c.isCancelled
  | isReady => onCall stage fun c => .flag <$> c.isReady
  | descriptor => onCall stage fun c => .described <$> c.descriptor
  | peerCancel => do
    Run.onTransport fun t => ((), { t with cancelled := true })
    return .finished
  | failClose e => do
    Run.onTransport fun t => ((), { t with closeFailure := fun _ => some e })
    return .finished
  | trailer key =>
    Run.read fun w => .text (w.transport.lastClose?.bind fun v => v.trailers.text? key)
  | handleFailure f => onGuarded stage fun g => do
    g.handleFailure f
    return .finished
  | resolve f => onGuarded stage fun g => do
    return .resolved (← Run.recorded (g.fallback.resolve f))
  | handleException f => onGuarded stage fun g => do
    match ← Run.recorded (g.fallback.asHandler f) with
    | .answered v => return .resolved v
    | .declined => return .declined
    | .panicked p => return .panicked p
  | tryError => onGuarded stage fun g => .flag <$> Run.onState g.slot CallState.tryError
  | markClosed => onGuarded stage fun g => .flag <$> Run.onState g.slot CallState.markClosed
  | start _ => pure .noCall

/-- The result of a step that may have failed or panicked. -/
def resultOf : Outcome StepResult → StepResult
  | .done r => r
  | .failed f => .failed f
  | .panicked p => .panicked p

/-- Performs a step and tells who takes part from then on: a start that succeeds brings in a new
listener, and each start of a service the call that it was started with. -/
def perform (stage : Stage) (step : Step) (w : World) : StepResult × Stage × World :=
  match step, stage.chain with
  | start headers, some chain =>
    let (o, w) := chain.start .transport headers w
    let stage := { stage with call := w.started.getLast? }
    match o with
    | .done l => (.finished, { stage with listener := some l }, w)
    | .failed f => (.failed f, stage, w)
    | .panicked p => (.panicked p, stage, w)
  | step, _ =>
    let (o, w) := step.run stage w
    (resultOf o, stage, w)

/-- What is new in the world after a step. -/
def report (result : StepResult) (stage : Stage) (before after : World) : StepReport where
  result
  attempts := after.transport.attempts
  closed := after.transport.closes.drop before.transport.closes.length
  entries := after.journal.drop before.journal.length
  state := (stage.guarded.map fun g => after.states g.slot).getD .fresh

end Step

/-- Takes the stage through the steps and reports on each of them. -/
def Stage.rehearse (stage : Stage) (w : World) : List Step → List StepReport × World
  | [] => ([], w)
  | step :: steps =>
    let (result, stage', w') := step.perform stage w
    let (reports, w'') := stage'.rehearse w' steps
    (Step.report result stage' w w' :: reports, w'')

end CallGuard
