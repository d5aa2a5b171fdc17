import CallGuard.Proofs.Call.Atomic

/-!
# Operations one after the other

What becomes of a guarded call on which any operations are performed one after the other. An
operation `Operation.Decides` when it closes the call or raises an error. Nothing happens to the
transport before the first operation that decides; that one closes it, once, as `Settles` tells, and
whatever comes later finds the call closed.

* `followAll_eq` : the steps of operations one after the other come to what the operations come to;
* `Point.follow_late` : on a closed call an operation neither resolves an error nor closes the
  transport, and what it comes to is fixed beforehand;
* `first_decision_closes` : the fallback is asked at most once and the transport is closed at most
  once in any sequence of operations, by the first one that decides.
-/

namespace CallGuard

/-! ### What can be seen from outside -/

namespace Act

/-- The fallback is asked. -/
def isResolve : Act → Bool
  | resolved .. => true
  | _ => false

/-- The transport is closed. -/
def isClose : Act → Bool
  | closed .. => true
  | _ => false

/-- The act is more than an access to the state of the call. -/
def isEffect (a : Act) : Bool :=
  a.isResolve || a.isClose

end Act

/-- The acts that are more than accesses to the state of the call. -/
def effects (acts : List Act) : List Act :=
  acts.filter Act.isEffect

/-- An error of unknown code that has a source has escaped from a service. -/
def Status.Escapes (s : Status) : Prop :=
  s.code = .unknown ∧ s.source ≠ none

instance (s : Status) : Decidable s.Escapes :=
  inferInstanceAs (Decidable (_ ∧ _))

theorem Status.escapedCause_eq_none_iff {s : Status} {n : Label} :
    (s.escapedCause n).value = none ↔ ¬s.Escapes := by
  by_cases hc : s.code = .unknown
  · rcases hs : s.source with _ | (_ | _ | _ | _ | _) <;>
      simp [escapedCause, Escapes, hc, hs, ← bind_pure_comp, Recorded.bind_value]
  · simp [escapedCause, Escapes, hc]

theorem Status.Escapes.of_escapedCause {s : Status} {n : Label} {cause : Fault}
    (h : (s.escapedCause n).value = some cause) : s.Escapes := by
  refine Decidable.of_not_not fun hs => ?_
  cases h.symm.trans (Status.escapedCause_eq_none_iff.2 hs)

namespace Operation

/-- The operation raises an error: `fail` the given one, a delegate the one that it fails with or
that its panic is turned into. -/
inductive Raises : Operation → Fault → Prop
  | fail (f : Fault) : Raises (.fail f) f
  | failed {e : Event} {reaction : Trace (Outcome Unit)} {f : Fault}
      (h : reaction.value = .failed f) : Raises (.hear e reaction) f
  | panicked {e : Event} {reaction : Trace (Outcome Unit)} {p : Payload} (n : Label)
      (h : reaction.value = .panicked p) : Raises (.hear e reaction) (Fault.ofPanic p n).value

/-- The error that the operation raises, unless it is a close. -/
def error? : Operation → Recorded (Option Fault)
  | fail f => pure (some f)
  | close .. => pure none
  | hear _ reaction => raisedBy reaction

/-- The operation closes the call or raises an error. -/
def Decides : Operation → Prop
  | fail _ | close .. => True
  | hear _ reaction => reaction.value ≠ .done ()

/-- What an operation comes to on a closed call. -/
def late : Operation → Outcome CallResult
  | close .. => .done (.error .alreadyClosed)
  | _ => .done (.ok ())

end Operation

/-- What an operation does to an active call when it decides and labels are in use below `n`. A
close that is not an escaped error goes through as it is. Every error is resolved first, and the
call is closed with the status and the trailers of the verdict; trailers that a service gave stay
where the verdict has none of their key. -/
inductive Settles (b : Fallback) (n : Label) : Operation → List Act → Prop
  | plain {s : Status} {trailers : Metadata} (r : CallResult) (h : ¬s.Escapes) :
      Settles b n (.close s trailers) [.closed s trailers r]
  | escaped {s : Status} {trailers : Metadata} {cause : Fault} {v : Verdict} (r : CallResult)
      (h : (s.escapedCause n).value = some cause)
      (hv : (b.resolve cause (n + (s.escapedCause n).minted)).value = v) :
      Settles b n (.close s trailers)
        [.resolved cause v, .closed v.status (trailers.merge v.trailers) r]
  | raised {op : Operation} {f : Fault} {v : Verdict} (r : CallResult)
      (h : (op.error? n).value = some f)
      (hv : (b.resolve f (n + (op.error? n).minted)).value = v) :
      Settles b n op [.resolved f v, .closed v.status v.trailers r]

/-! ### Sequences -/

section

variable (slot : Nat) (b : Fallback)

/-- Performs operations one after the other, whatever each of them comes to. -/
def runAll : List Operation → World → List (Outcome CallResult) × World
  | [], w => ([], w)
  | op :: ops, w =>
    let (o, w) := op.run slot b w
    let (os, w) := runAll ops w
    (o :: os, w)

/-- All that operations do when they are performed one after the other. -/
def actsAll : List Operation → World → List Act
  | [], _ => []
  | op :: ops, w => op.acts slot b w ++ actsAll ops (op.run slot b w).2

/-- Makes the steps of operations one after the other: what they do, where each of them ends, and
the world they leave. -/
def followAll : List Operation → World → List Act × List Point × World
  | [], w => ([], [], w)
  | op :: ops, w =>
    let (acts, p, w) := op.start.follow slot b Operation.length w
    let (acts', ps, w) := followAll ops w
    (acts ++ acts', p :: ps, w)

/-- Step by step, operations come to what they come to as a whole, and leave the same world. -/
theorem followAll_eq (ops : List Operation) (w : World) :
    followAll slot b ops w =
      (actsAll slot b ops w, (runAll slot b ops w).1.map .finished, (runAll slot b ops w).2) := by
  induction ops generalizing w with
  | nil => rfl
  | cons op ops ih =>
    -- both make the same steps of the first operation, and go on in the world that it leaves
    simp only [followAll, actsAll, runAll, Operation.acts, Point.follow_start, ih, List.map_cons]

theorem runAll_append (xs ys : List Operation) (w : World) :
    runAll slot b (xs ++ ys) w =
      ((runAll slot b xs w).1 ++ (runAll slot b ys (runAll slot b xs w).2).1,
        (runAll slot b ys (runAll slot b xs w).2).2) := by
  induction xs generalizing w with
  | nil => rfl
  | cons x xs ih => simp only [List.cons_append, runAll, ih]

theorem actsAll_append (xs ys : List Operation) (w : World) :
    actsAll slot b (xs ++ ys) w =
      actsAll slot b xs w ++ actsAll slot b ys (runAll slot b xs w).2 := by
  induction xs generalizing w with
  | nil => rfl
  | cons x xs ih => simp only [List.cons_append, runAll, actsAll, ih, List.append_assoc]

end

namespace Point

variable {slot : Nat} {b : Fallback}

theorem follow_succ {n : Nat} {p p' : Point} {w w' : World} {a : Option Act}
    (h : p.step slot b w = (a, p', w')) :
    p.follow slot b (n + 1) w =
      (a.toList ++ (p'.follow slot b n w').1, (p'.follow slot b n w').2) := by
  rw [follow, h]

theorem follow_finished (n : Nat) (o : Outcome CallResult) (w : World) :
    (finished o).follow slot b n w = ([], finished o, w) := by
  induction n with
  | zero => rfl
  | succ n ih => simp only [follow, step, ih, Option.toList_none, List.nil_append]

theorem run_eq_of_follow {op : Operation} {w w' : World} {acts : List Act}
    {o : Outcome CallResult}
    (h : op.start.follow slot b Operation.length w = (acts, finished o, w')) :
    op.acts slot b w = acts ∧ op.run slot b w = (o, w') := by
  have hrun := follow_start slot b op w
  rw [h] at hrun
  simp only [Prod.mk.injEq, finished.injEq] at hrun
  exact ⟨by rw [Operation.acts, h], Prod.ext hrun.1.symm hrun.2.symm⟩

/-! ### A closed call -/

/-- What an operation on a closed call comes to from a point on; there is no such point from which
an error is resolved or the transport is closed. -/
def late? : Point → Option (Outcome CallResult)
  | checking .. | hearing .. | raising .. | dropping .. => some (.done (.ok ()))
  | inspecting .. | escaping .. | yielding .. | marking .service .. =>
    some (.done (.error .alreadyClosed))
  | finished o => some o
  | resolving .. | marking .failure .. | closing .. => none

/-- What stays as it is on a closed call. -/
structure Idle (slot : Nat) (w w' : World) : Prop where
  closed : (w'.states slot).closed = true
  transport : w'.transport = w.transport

theorem step_late {p : Point} {w : World} {o : Outcome CallResult}
    (hc : (w.states slot).closed = true) (hp : p.late? = some o) :
    (p.step slot b w).2.1.late? = some o ∧ Idle slot w (p.step slot b w).2.2 ∧
      ∀ a ∈ (p.step slot b w).1, a.isEffect = false := by
  have htry := CallState.tryError_of_closed hc
  have hphase : (w.states slot).phase ≠ .errored := by simp [CallState.phase, hc]
  have hmark := CallState.markClosed_of_closed hc
  cases p with
  | checking e reaction =>
    refine ⟨?_, ⟨hc, rfl⟩, by simp [step]⟩
    simp only [step]
    split <;> exact hp
  | hearing reaction =>
    refine ⟨?_, ⟨hc, rfl⟩, by simp [step]⟩
    cases hr : (raisedBy reaction w.nextLabel).value <;> simpa [step, hr, late?] using hp
  | raising f =>
    have hs : (raising f).step slot b w = (some (.triedError false), dropping f, w) := by
      simp [step, htry]
    rw [hs]
    exact ⟨hp, ⟨hc, rfl⟩, by rintro _ ⟨⟩; rfl⟩
  | dropping f => exact ⟨hp, ⟨hc, rfl⟩, by simp [step]⟩
  | inspecting s trailers =>
    refine ⟨?_, ⟨hc, rfl⟩, by simp [step]⟩
    cases hs : (s.escapedCause w.nextLabel).value <;> simpa [step, hs, late?] using hp
  | escaping cause s trailers =>
    have hs : (escaping cause s trailers).step slot b w =
        (some (.triedError false), yielding cause s trailers, w) := by
      simp [step, htry]
    rw [hs]
    exact ⟨hp, ⟨hc, rfl⟩, by rintro _ ⟨⟩; rfl⟩
  | yielding cause s trailers =>
    have hs : (yielding cause s trailers).step slot b w =
        (some (.sawPhase (w.states slot).phase), marking .service s trailers, w) := by
      simp [step, hphase]
    rw [hs]
    exact ⟨hp, ⟨hc, rfl⟩, by rintro _ ⟨⟩; rfl⟩
  | marking why s trailers =>
    cases why with
    | failure => cases hp
    | service =>
      have hs : (marking .service s trailers).step slot b w =
          (some (.markedClosed false), finished (.done (.error .alreadyClosed)), w) := by
        simp [step, hmark, Reason.report, World.after]
      rw [hs]
      exact ⟨hp, ⟨hc, rfl⟩, by rintro _ ⟨⟩; rfl⟩
  | finished o' => exact ⟨hp, ⟨hc, rfl⟩, by simp [step]⟩
  | resolving | closing => cases hp

theorem follow_late {n : Nat} {p : Point} {w : World} {o : Outcome CallResult}
    (hc : (w.states slot).closed = true) (hp : p.late? = some o) :
    (p.follow slot b n w).2.1.late? = some o ∧ Idle slot w (p.follow slot b n w).2.2 ∧
      effects (p.follow slot b n w).1 = [] := by
  induction n generalizing p w with
  | zero => exact ⟨hp, ⟨hc, rfl⟩, rfl⟩
  | succ n ih =>
    obtain ⟨hp', hi, ha⟩ := step_late (b := b) hc hp
    obtain ⟨hp'', hi', ha'⟩ := ih hi.closed hp'
    refine ⟨hp'', ⟨hi'.closed, hi'.transport.trans hi.transport⟩, ?_⟩
    simp only [follow, effects, List.filter_append, List.append_eq_nil_iff]
    exact ⟨by simpa [List.filter_eq_nil_iff] using ha, ha'⟩

end Point

/-- **A closed call stays as it is.** Operations on it neither resolve an error nor close the
transport; closes are told so, and errors are dropped. -/
theorem runAll_closed {slot : Nat} {b : Fallback} (ops : List Operation) {w : World}
    (hc : (w.states slot).closed = true) :
    (runAll slot b ops w).1 = ops.map Operation.late ∧
      Point.Idle slot w (runAll slot b ops w).2 ∧ effects (actsAll slot b ops w) = [] := by
  induction ops generalizing w with
  | nil => exact ⟨rfl, ⟨hc, rfl⟩, rfl⟩
  | cons op ops ih =>
    have hp : op.start.late? = some op.late := by cases op <;> rfl
    obtain ⟨hp', hi, ha⟩ := Point.follow_late (b := b) (n := Operation.length) hc hp
    rw [Point.follow_start] at hp' hi
    obtain ⟨hos, hi', has⟩ := ih hi.closed
    refine ⟨?_, ⟨hi'.closed, hi'.transport.trans hi.transport⟩, ?_⟩
    · simp only [runAll, List.map_cons, hos, Option.some.inj hp']
    · rw [actsAll, effects, List.filter_append]
      exact List.append_eq_nil_iff.2 ⟨ha, has⟩

/-! ### An active call -/

/-- After `w`, the transport was closed with this status and these trailers, and the call counts as
closed. -/
structure ClosedWith (slot : Nat) (w : World) (s : Status) (trailers : Metadata) (w' : World) :
    Prop where
  closed : (w'.states slot).closed = true
  transport : w'.transport = (w.transport.close s trailers).2

namespace Point

variable {slot : Nat} {b : Fallback}

theorem follow_marking_eq (why : Reason) {s : Status} {trailers : Metadata} {w : World} (n : Nat)
    (hc : (w.states slot).closed = false) {r : CallResult} {u : Transport}
    (hr : w.transport.close s trailers = (r, u)) :
    (marking why s trailers).follow slot b (n + 2) w =
      ([.markedClosed true, .closed s trailers r], finished (why.report r w.nextLabel).value,
        ((w.withState slot ⟨(w.states slot).errored, true⟩).withTransport u).after
          (why.report r w.nextLabel)) := by
  have hmark : (marking why s trailers).step slot b w = (some (.markedClosed true),
      closing why s trailers, w.withState slot ⟨(w.states slot).errored, true⟩) := by
    simp [step, CallState.markClosed_of_open hc]
  rw [follow_succ hmark, follow_succ rfl, follow_finished]
  simp only [World.withState_transport, hr]
  rfl

theorem follow_marking (why : Reason) (s : Status) (trailers : Metadata) {w : World} (n : Nat)
    (hc : (w.states slot).closed = false) :
    ((marking why s trailers).follow slot b (n + 2) w).1 =
        [.markedClosed true, .closed s trailers (w.transport.close s trailers).1] ∧
      ClosedWith slot w s trailers ((marking why s trailers).follow slot b (n + 2) w).2.2 := by
  rw [follow_marking_eq why n hc rfl]
  exact ⟨rfl, by simp, rfl⟩

theorem follow_resolving (why : Reason) (cause : Fault) (trailers : Metadata) {w : World} (n : Nat)
    {v : Verdict} (hc : (w.states slot).closed = false)
    (hv : (b.resolve cause w.nextLabel).value = v) :
    ((resolving why cause trailers).follow slot b (n + 3) w).1 =
        [.resolved cause v, .markedClosed true,
          .closed v.status (trailers.merge v.trailers)
            (w.transport.close v.status (trailers.merge v.trailers)).1] ∧
      ClosedWith slot w v.status (trailers.merge v.trailers)
        ((resolving why cause trailers).follow slot b (n + 3) w).2.2 := by
  have hs : (resolving why cause trailers).step slot b w =
      (some (.resolved cause v), marking why v.status (trailers.merge v.trailers),
        w.after (b.resolve cause w.nextLabel)) := by
    rw [step, hv]
  obtain ⟨ha, hcl⟩ := follow_marking (b := b) why v.status (trailers.merge v.trailers)
    (w := w.after (b.resolve cause w.nextLabel)) n hc
  rw [follow_succ hs, ha]
  exact ⟨rfl, hcl.closed, hcl.transport⟩

theorem follow_raising {f : Fault} {w : World} (n : Nat) {v : Verdict}
    (hw : w.states slot = .fresh) (hv : (b.resolve f w.nextLabel).value = v) :
    ((raising f).follow slot b (n + 4) w).1 =
        [.triedError true, .resolved f v, .markedClosed true,
          .closed v.status v.trailers (w.transport.close v.status v.trailers).1] ∧
      ClosedWith slot w v.status v.trailers ((raising f).follow slot b (n + 4) w).2.2 := by
  have hs : (raising f).step slot b w =
      (some (.triedError true), resolving .failure f .empty,
        w.withState slot ⟨true, false⟩) := by
    simp [step, hw, CallState.tryError, CallState.fresh]
  obtain ⟨ha, hcl⟩ := follow_resolving (b := b) .failure f .empty
    (w := w.withState slot ⟨true, false⟩) n (by rw [World.withState_states]) hv
  rw [Metadata.empty_merge] at ha hcl
  rw [follow_succ hs, ha]
  exact ⟨rfl, hcl.closed, hcl.transport⟩

theorem follow_escaping (cause : Fault) (s : Status) (trailers : Metadata) {w : World} (n : Nat)
    {v : Verdict} (hw : w.states slot = .fresh) (hv : (b.resolve cause w.nextLabel).value = v) :
    ((escaping cause s trailers).follow slot b (n + 4) w).1 =
        [.triedError true, .resolved cause v, .markedClosed true,
          .closed v.status (trailers.merge v.trailers)
            (w.transport.close v.status (trailers.merge v.trailers)).1] ∧
      ClosedWith slot w v.status (trailers.merge v.trailers)
        ((escaping cause s trailers).follow slot b (n + 4) w).2.2 := by
  have hs : (escaping cause s trailers).step slot b w =
      (some (.triedError true), resolving .service cause trailers,
        w.withState slot ⟨true, false⟩) := by
    simp [step, hw, CallState.tryError, CallState.fresh]
  obtain ⟨ha, hcl⟩ := follow_resolving (b := b) .service cause trailers
    (w := w.withState slot ⟨true, false⟩) n (by rw [World.withState_states]) hv
  rw [follow_succ hs, ha]
  exact ⟨rfl, hcl.closed, hcl.transport⟩

theorem follow_checking {e : Event} {reaction : Trace (Outcome Unit)} {w : World} (n : Nat)
    (hw : w.states slot = .fresh) :
    (checking e reaction).follow slot b (n + 2) w =
      ((raisedBy reaction w.nextLabel).value.elim (finished (.done (.ok ()))) raising).follow
        slot b n (w.after (raisedBy reaction w.nextLabel)) := by
  simp [follow, step, hw, CallState.fresh]

end Point

theorem raisedBy_eq_none_iff {reaction : Trace (Outcome Unit)} {n : Label} :
    (raisedBy reaction n).value = none ↔ reaction.value = .done () := by
  rcases reaction with ⟨_ | _ | _, _, _⟩ <;>
    simp [raisedBy, Recorded.replay, ← bind_pure_comp, Recorded.bind_value]

theorem Operation.raises_of_raisedBy {e : Event} {reaction : Trace (Outcome Unit)} {n : Label}
    {f : Fault} (h : (raisedBy reaction n).value = some f) : (hear e reaction).Raises f := by
  obtain ⟨o, m, es⟩ := reaction
  cases o with
  | done => simp [raisedBy, Recorded.replay, Recorded.bind_value] at h
  | failed g =>
    have hg : g = f := by simpa [raisedBy, Recorded.replay, Recorded.bind_value] using h
    exact hg ▸ .failed rfl
  | panicked p =>
    have hp : (Fault.ofPanic p (n + m)).value = f := by
      simpa [raisedBy, Recorded.replay, Recorded.bind_value, ← bind_pure_comp] using h
    exact hp ▸ .panicked (n + m) rfl

variable {slot : Nat} {b : Fallback}

theorem run_of_not_decides {op : Operation} {w : World} (hw : w.states slot = .fresh)
    (hd : ¬op.Decides) :
    (op.run slot b w).1 = .done (.ok ()) ∧ (op.run slot b w).2.states = w.states ∧
      (op.run slot b w).2.transport = w.transport ∧ op.acts slot b w = [] := by
  cases op with
  | fail | close => exact absurd trivial hd
  | hear e reaction =>
    have hr : (raisedBy reaction w.nextLabel).value = none :=
      raisedBy_eq_none_iff.2 (Classical.not_not.1 hd)
    have hf : (Operation.hear e reaction).start.follow slot b Operation.length w =
        ([], .finished (.done (.ok ())), w.after (raisedBy reaction w.nextLabel)) := by
      rw [Operation.length, Operation.start, Point.follow_checking 4 hw, hr]
      exact Point.follow_finished ..
    obtain ⟨ha, hrun⟩ := Point.run_eq_of_follow hf
    rw [hrun]
    exact ⟨rfl, rfl, rfl, ha⟩

/-- An operation that decides settles an active call. -/
theorem run_of_decides {op : Operation} {w : World} (hw : w.states slot = .fresh)
    (hd : op.Decides) :
    ∃ s trailers, Settles b w.nextLabel op (effects (op.acts slot b w)) ∧
      .closed s trailers (w.transport.close s trailers).1 ∈ op.acts slot b w ∧
      ClosedWith slot w s trailers (op.run slot b w).2 := by
  have hrun := Point.follow_start slot b op w
  have hend : (op.run slot b w).2 = (op.start.follow slot b Operation.length w).2.2 := by rw [hrun]
  rw [hend, Operation.acts]
  cases op with
  | fail f =>
    obtain ⟨ha, hc⟩ := Point.follow_raising (b := b) 2 hw rfl
    refine ⟨_, _, ?_, ?_, hc⟩ <;> rw [Operation.length, Operation.start, ha]
    · exact .raised _ rfl rfl
    · simp
  | close s trailers =>
    rw [Operation.length, Operation.start]
    by_cases he : s.Escapes
    · -- the source that escaped with the status is resolved like an error that is raised
      obtain ⟨cause, hcause⟩ := Option.ne_none_iff_exists'.1
        (fun h => Status.escapedCause_eq_none_iff.1 h he :
          (s.escapedCause w.nextLabel).value ≠ none)
      have hs : (Point.inspecting s trailers).step slot b w =
          (none, .escaping cause s trailers, w.after (s.escapedCause w.nextLabel)) := by
        simp [Point.step, hcause]
      obtain ⟨ha, hc⟩ := Point.follow_escaping (b := b) cause s trailers
        (w := w.after (s.escapedCause w.nextLabel)) 1 hw rfl
      rw [Point.follow_succ hs, ha]
      exact ⟨_, _, .escaped _ hcause rfl, by simp, hc.closed, hc.transport⟩
    · -- the status goes through as it was given
      have hs : (Point.inspecting s trailers).step slot b w =
          (none, .marking .service s trailers, w.after (s.escapedCause w.nextLabel)) := by
        simp [Point.step, Status.escapedCause_eq_none_iff.2 he]
      obtain ⟨ha, hc⟩ := Point.follow_marking (b := b) .service s trailers
        (w := w.after (s.escapedCause w.nextLabel)) 3
        (by rw [World.after_states, hw]; rfl)
      rw [Point.follow_succ hs, ha]
      exact ⟨s, trailers, .plain _ he, by simp, hc.closed, hc.transport⟩
  | hear e reaction =>
    obtain ⟨f, hf⟩ := Option.ne_none_iff_exists'.1
      (mt raisedBy_eq_none_iff.1 hd : (raisedBy reaction w.nextLabel).value ≠ none)
    rw [Operation.length, Operation.start, Point.follow_checking 4 hw, hf]
    obtain ⟨ha, hc⟩ := Point.follow_raising (b := b) (f := f) 0
      (w := w.after (raisedBy reaction w.nextLabel)) hw rfl
    refine ⟨_, _, ?_, ?_, ⟨hc.closed, hc.transport⟩⟩ <;> rw [Option.elim_some, ha]
    · exact .raised _ hf rfl
    · simp

/-- Operations that decide nothing leave an active call as it is. -/
theorem runAll_of_not_decides {ops : List Operation} {w : World} (hw : w.states slot = .fresh)
    (hd : ∀ op ∈ ops, ¬op.Decides) :
    (runAll slot b ops w).2.states slot = .fresh ∧
      (runAll slot b ops w).2.transport = w.transport ∧ actsAll slot b ops w = [] := by
  induction ops generalizing w with
  | nil => exact ⟨hw, rfl, rfl⟩
  | cons op ops ih =>
    obtain ⟨-, hst, ht, ha⟩ := run_of_not_decides (b := b) hw (hd op List.mem_cons_self)
    obtain ⟨hst', ht', ha'⟩ := ih (w := (op.run slot b w).2) (by rw [hst, hw])
      fun o ho => hd o (List.mem_cons_of_mem _ ho)
    exact ⟨hst', ht'.trans ht, by rw [actsAll, ha, ha']; rfl⟩

/-- Where the first operation stands that decides, if there is one. -/
theorem exists_first_decision (ops : List Operation) :
    (∀ op ∈ ops, ¬op.Decides) ∨ ∃ before op after, ops = before ++ op :: after ∧
      (∀ o ∈ before, ¬o.Decides) ∧ op.Decides := by
  induction ops with
  | nil => exact .inl (by simp)
  | cons op ops ih =>
    by_cases hd : op.Decides
    · exact .inr ⟨[], op, ops, rfl, by simp, hd⟩
    · rcases ih with h | ⟨before, op', after, rfl, hb, hop⟩
      · exact .inl (by simpa using ⟨hd, h⟩)
      · exact .inr ⟨op :: before, op', after, rfl, by simpa using ⟨hd, hb⟩, hop⟩

theorem countP_effects {p : Act → Bool} (hp : ∀ a, p a = true → a.isEffect = true)
    (acts : List Act) : (effects acts).countP p = acts.countP p := by
  rw [effects, List.countP_filter]
  refine List.countP_congr fun a _ => ?_
  simpa using hp a

theorem Settles.countP_le {op : Operation} {n : Label} {acts : List Act}
    (h : Settles b n op acts) :
    acts.countP Act.isResolve ≤ 1 ∧ acts.countP Act.isClose ≤ 1 := by
  cases h <;> simp [List.countP_cons, Act.isResolve, Act.isClose]

/-- What a sequence of operations on a fresh call comes to, of which `op` is the first that
decides. -/
structure DecidedBy (slot : Nat) (b : Fallback) (before : List Operation) (op : Operation)
    (after : List Operation) (w : World) : Prop where
  /-- Until then nothing is done to the call. -/
  before_acts : actsAll slot b before w = []
  /-- The operation settles the call, with the labels that are in use by then. What it closes the
  transport with is all that ever becomes of the transport. -/
  settles : ∃ s trailers r,
    Settles b (runAll slot b before w).2.nextLabel op
      (effects (op.acts slot b (runAll slot b before w).2)) ∧
    .closed s trailers r ∈ op.acts slot b (runAll slot b before w).2 ∧
    w.transport.close s trailers = (r, (runAll slot b (before ++ op :: after) w).2.transport)
  /-- Later operations neither resolve an error nor close the transport. -/
  after_effects :
    effects (actsAll slot b after (op.run slot b (runAll slot b before w).2).2) = []
  /-- Later closes are told that the call is closed, and later errors are dropped. -/
  after_outcomes : (runAll slot b after (op.run slot b (runAll slot b before w).2).2).1 =
    after.map Operation.late

theorem decidedBy_of_first {before : List Operation} {op : Operation} (after : List Operation)
    {w : World} (hw : w.states slot = .fresh) (hb : ∀ o ∈ before, ¬o.Decides) (hop : op.Decides) :
    DecidedBy slot b before op after w := by
  obtain ⟨hw₁, ht₁, ha₁⟩ := runAll_of_not_decides (b := b) hw hb
  obtain ⟨s, trailers, hs, hmem, hcl⟩ := run_of_decides (b := b) hw₁ hop
  obtain ⟨hos, hi, ha₂⟩ := runAll_closed (b := b) after hcl.closed
  refine ⟨ha₁, ⟨s, trailers, _, hs, hmem, ?_⟩, ha₂, hos⟩
  rw [runAll_append, runAll, hi.transport, hcl.transport, ht₁]

/-- All effects of a sequence are those of the first operation that decides. -/
theorem DecidedBy.effects_eq {before after : List Operation} {op : Operation} {w : World}
    (h : DecidedBy slot b before op after w) :
    effects (actsAll slot b (before ++ op :: after) w) =
      effects (op.acts slot b (runAll slot b before w).2) := by
  rw [actsAll_append, h.before_acts, List.nil_append, actsAll, effects, List.filter_append]
  exact (congrArg _ h.after_effects).trans (List.append_nil _)

/-- **The first operation that decides closes the call.** Whatever operations are performed on a
fresh call, the fallback is asked at most once and the transport is closed at most once. Nothing is
done to either unless an operation decides, and then all is done by the first one that does. What is
counted here are the acts of the steps that make up the operations as they are performed, with the
same outcomes, journal and labels. -/
theorem first_decision_closes (ops : List Operation) {w : World}
    (hw : w.states slot = .fresh) :
    followAll slot b ops w =
      (actsAll slot b ops w, (runAll slot b ops w).1.map .finished, (runAll slot b ops w).2) ∧
    (actsAll slot b ops w).countP Act.isResolve ≤ 1 ∧
    (actsAll slot b ops w).countP Act.isClose ≤ 1 ∧
    ((∀ op ∈ ops, ¬op.Decides) →
      actsAll slot b ops w = [] ∧ (runAll slot b ops w).2.transport = w.transport) ∧
    ∀ before op after, ops = before ++ op :: after → (∀ o ∈ before, ¬o.Decides) → op.Decides →
      DecidedBy slot b before op after w := by
  have counts : (actsAll slot b ops w).countP Act.isResolve ≤ 1 ∧
      (actsAll slot b ops w).countP Act.isClose ≤ 1 := by
    rcases exists_first_decision ops with hd | ⟨before, op, after, rfl, hb, hop⟩
    · rw [(runAll_of_not_decides hw hd).2.2]
      simp
    · have h := decidedBy_of_first (b := b) after hw hb hop
      obtain ⟨-, -, -, hs, -⟩ := h.settles
      rw [← countP_effects (p := Act.isResolve) (fun a ha => by simp [Act.isEffect, ha]),
        ← countP_effects (p := Act.isClose) (fun a ha => by simp [Act.isEffect, ha]),
        h.effects_eq]
      exact hs.countP_le
  refine ⟨followAll_eq slot b ops w, counts.1, counts.2, fun hd => ?_, ?_⟩
  · obtain ⟨-, ht, ha⟩ := runAll_of_not_decides (b := b) hw hd
    exact ⟨ha, ht⟩
  · rintro before op after rfl hb hop
    exact decidedBy_of_first after hw hb hop

/-- A listener hears an event, a service closes with an escaped error, and another error comes too
late. -/
theorem first_decision_closes_escaped :
    (World.fresh 8 (.fresh ⟨"svc/M", .unary⟩)).states 0 = .fresh ∧
    DecidedBy 0 ⟨.declining, .silent⟩ [.hear .ready ⟨.done (), 0, []⟩]
      (.close ⟨.unknown, "", [], .empty, some (.call .alreadyClosed)⟩ .empty)
      [.fail ⟨7, Kind.any, none, none, []⟩] (World.fresh 8 (.fresh ⟨"svc/M", .unary⟩)) :=
  ⟨rfl, (first_decision_closes _ rfl).2.2.2.2 _ _ _ rfl
    (by simp [Operation.Decides]) trivial⟩

end CallGuard
