import CallGuard.Proofs.Call.Sequence
import Mathlib.Logic.Function.Basic

/-!
# Operations at the same time

Any number of operations are under way on one guarded call at the same time, each making its atomic
steps in program order (`Point.step`). A schedule tells whose step is next, and a `Concurrent` is
what has become of the operations by then, with a log of all that they did.

Two bits of the state of the call each give a right that can be used once (`Ticket`): who raises
the first error may have it resolved, and who marks the call closed may close the transport.
`Concurrent.Inv` has both tickets and what is known about every operation that is under way. From
it follows `interleaving_safe`:

* at most one error is resolved, and the transport is closed at most once;
* an error that escaped with a status never reaches the transport unresolved;
* when all closes are escaped errors, the one verdict is what the transport is closed with, and who
  raised the first error does not find the call closed.
-/

namespace CallGuard

/-! ### What a step can do -/

/-- All that the next step of an operation can be, with the states of the call before and after. -/
inductive Move (b : Fallback) : Point → CallState → Option Act → Point → CallState → Prop
  | skip {e : Event} {reaction : Trace (Outcome Unit)} {st : CallState} :
      Move b (.checking e reaction) st none (.finished (.done (.ok ()))) st
  | attend {e : Event} {reaction : Trace (Outcome Unit)} {st : CallState} :
      Move b (.checking e reaction) st none (.hearing reaction) st
  | calm {reaction : Trace (Outcome Unit)} {st : CallState} :
      Move b (.hearing reaction) st none (.finished (.done (.ok ()))) st
  | upset {reaction : Trace (Outcome Unit)} {f : Fault} {n : Label} {st : CallState}
      (h : (raisedBy reaction n).value = some f) :
      Move b (.hearing reaction) st none (.raising f) st
  | win {f : Fault} :
      Move b (.raising f) .fresh (some (.triedError true)) (.resolving .failure f .empty)
        ⟨true, false⟩
  | lose {f : Fault} {st : CallState} (h : st ≠ .fresh) :
      Move b (.raising f) st (some (.triedError false)) (.dropping f) st
  | drop {f : Fault} {st : CallState} :
      Move b (.dropping f) st none (.finished (.done (.ok ()))) st
  | plain {s : Status} {trailers : Metadata} {st : CallState} (h : ¬s.Escapes) :
      Move b (.inspecting s trailers) st none (.marking .service s trailers) st
  | escape {s : Status} {trailers : Metadata} {cause : Fault} {n : Label} {st : CallState}
      (h : (s.escapedCause n).value = some cause) :
      Move b (.inspecting s trailers) st none (.escaping cause s trailers) st
  | winEscaped {cause : Fault} {s : Status} {trailers : Metadata} :
      Move b (.escaping cause s trailers) .fresh (some (.triedError true))
        (.resolving .service cause trailers) ⟨true, false⟩
  | loseEscaped {cause : Fault} {s : Status} {trailers : Metadata} {st : CallState}
      (h : st ≠ .fresh) :
      Move b (.escaping cause s trailers) st (some (.triedError false))
        (.yielding cause s trailers) st
  | yield {cause : Fault} {s : Status} {trailers : Metadata} {st : CallState} :
      Move b (.yielding cause s trailers) st (some (.sawPhase .errored))
        (.finished (.done (.ok ()))) st
  | late {cause : Fault} {s : Status} {trailers : Metadata} {st : CallState}
      (h : st.phase ≠ .errored) :
      Move b (.yielding cause s trailers) st (some (.sawPhase st.phase))
        (.marking .service s trailers) st
  | resolve {why : Reason} {cause : Fault} {trailers : Metadata} {v : Verdict} {n : Label}
      {st : CallState} (h : (b.resolve cause n).value = v) :
      Move b (.resolving why cause trailers) st (some (.resolved cause v))
        (.marking why v.status (trailers.merge v.trailers)) st
  | mark {why : Reason} {s : Status} {trailers : Metadata} {e : Bool} :
      Move b (.marking why s trailers) ⟨e, false⟩ (some (.markedClosed true))
        (.closing why s trailers) ⟨e, true⟩
  | refuse {why : Reason} {s : Status} {trailers : Metadata} {o : Outcome CallResult} {e : Bool} :
      Move b (.marking why s trailers) ⟨e, true⟩ (some (.markedClosed false)) (.finished o)
        ⟨e, true⟩
  | close {why : Reason} {s : Status} {trailers : Metadata} {r : CallResult}
      {o : Outcome CallResult} {st : CallState} :
      Move b (.closing why s trailers) st (some (.closed s trailers r)) (.finished o) st
  | stay {o : Outcome CallResult} {st : CallState} :
      Move b (.finished o) st none (.finished o) st

namespace Point

variable {slot : Nat} {b : Fallback}

theorem step_move (p : Point) (w : World) :
    Move b p (w.states slot) (p.step slot b w).1 (p.step slot b w).2.1
      ((p.step slot b w).2.2.states slot) := by
  have htry : ∀ st : CallState, st ≠ .fresh → st.tryError = (false, st) := by
    rintro ⟨_ | _, _ | _⟩ h <;> first | rfl | exact absurd rfl h
  have hwin : CallState.fresh.tryError = (true, ⟨true, false⟩) := rfl
  cases p with
  | checking e reaction =>
    simp only [step]
    split
    · exact .skip
    · exact .attend
  | hearing reaction =>
    cases h : (raisedBy reaction w.nextLabel).value with
    | none => simpa [step, h] using Move.calm
    | some f => simpa [step, h] using Move.upset h
  | raising f =>
    by_cases h : w.states slot = .fresh
    · simpa [step, h, hwin] using Move.win
    · simpa [step, htry _ h] using Move.lose h
  | dropping f => exact .drop
  | inspecting s trailers =>
    cases h : (s.escapedCause w.nextLabel).value with
    | none => simpa [step, h] using Move.plain (Status.escapedCause_eq_none_iff.1 h)
    | some c => simpa [step, h] using Move.escape h
  | escaping cause s trailers =>
    by_cases h : w.states slot = .fresh
    · simpa [step, h, hwin] using Move.winEscaped
    · simpa [step, htry _ h] using Move.loseEscaped h
  | yielding cause s trailers =>
    by_cases h : (w.states slot).phase = .errored
    · simpa [step, h] using Move.yield
    · simpa [step, h] using Move.late h
  | resolving why cause trailers => exact .resolve rfl
  | marking why s trailers =>
    rcases h : w.states slot with ⟨e, _ | _⟩
    · simpa [step, h, CallState.markClosed] using Move.mark
    · simpa [step, h, CallState.markClosed] using Move.refuse
  | closing why s trailers => exact .close
  | finished o => exact .stay

theorem step_attempts (p : Point) (w : World) :
    (p.step slot b w).2.2.transport.attempts =
      w.transport.attempts + (p.step slot b w).1.toList.countP Act.isClose := by
  cases p with
  | yielding cause s trailers => simp only [step]; split <;> simp [Act.isClose]
  | marking why s trailers => simp only [step]; split <;> simp [Act.isClose]
  | closing why s trailers => simp [step, Act.isClose, Transport.attempts_close]
  | _ => simp [step, Act.isClose]

end Point

/-! ### A right that can be used once -/

/-- Setting a bit gives a right to the one who sets it, and the right can be used once. `holds`
tells who has it but did not use it yet, and `used` counts its uses. -/
structure Ticket {ι : Type} (bit : Bool) (holds : ι → Prop) (used : Nat) : Prop where
  /-- Nobody has or had the right while the bit is not set. -/
  unset : bit = false → (∀ i, ¬holds i) ∧ used = 0
  /-- Nobody else has the right. -/
  unique : ∀ i j, holds i → holds j → i = j
  /-- The right was not used while somebody has it. -/
  unused : ∀ i, holds i → used = 0
  once : used ≤ 1

namespace Ticket

/-- What somebody does with the bit and the right: he gets no right that he did not have, or sets
the bit, or uses the right and has it no more. -/
inductive Turn : Bool → Bool → Prop → Prop → Nat → Prop
  | keep {bit : Bool} {had has : Prop} (h : has → had) : Turn bit bit had has 0
  | take {had has : Prop} : Turn false true had has 0
  | use {bit : Bool} {had has : Prop} (h : had) (h' : ¬has) : Turn bit bit had has 1

theorem turn {ι : Type} {bit bit' : Bool} {holds holds' : ι → Prop} {used n : Nat} {i : ι}
    (h : Ticket bit holds used) (ht : Turn bit bit' (holds i) (holds' i) n)
    (ho : ∀ j, j ≠ i → holds' j → holds j) : Ticket bit' holds' (used + n) := by
  cases ht with
  | keep hi =>
    have hh : ∀ j, holds' j → holds j := fun j hj => by
      by_cases hji : j = i
      · subst hji
        exact hi hj
      · exact ho j hji hj
    exact ⟨fun hb => ⟨fun j hj => (h.unset hb).1 j (hh j hj), (h.unset hb).2⟩,
      fun j k hj hk => h.unique j k (hh j hj) (hh k hk), fun j hj => h.unused j (hh j hj), h.once⟩
  | take =>
    obtain ⟨hnone, hused⟩ := h.unset rfl
    -- nobody else can have the right, because the bit was not set before
    have hi : ∀ j, holds' j → j = i := fun j hj =>
      by_contra fun hji => hnone j (ho j hji hj)
    exact ⟨nofun, fun j k hj hk => (hi j hj).trans (hi k hk).symm, fun _ _ => hused, h.once⟩
  | use hi hi' =>
    -- the only one who had the right has used it
    have hnone : ∀ j, ¬holds' j := fun j hj => by
      have hji : j ≠ i := by
        rintro rfl
        exact hi' hj
      exact hji (h.unique j i (ho j hji hj) hi)
    refine ⟨fun hb => absurd hi ((h.unset hb).1 i), fun j _ hj => absurd hj (hnone j),
      fun j hj => absurd hj (hnone j), ?_⟩
    simp [h.unused i hi]

theorem start {ι : Type} {bit : Bool} {holds : ι → Prop} (h : ∀ i, ¬holds i) :
    Ticket bit holds 0 :=
  ⟨fun _ => ⟨h, rfl⟩, fun i _ hi => absurd hi (h i), fun _ _ => rfl, Nat.zero_le 1⟩

end Ticket

/-! ### What a step does to the bits -/

namespace Point

/-- The operation is about to have the fallback resolve the first error. -/
def IsResolving : Point → Prop
  | resolving .. => True
  | _ => False

/-- The operation is about to close the transport. -/
def IsClosing : Point → Prop
  | closing .. => True
  | _ => False

/-- How much an operation has decided: nothing yet, what to close the call with, or whether it
closes the call. -/
def stage : Point → Nat
  | resolving .. | marking .. => 1
  | closing .. | finished .. => 2
  | _ => 0

end Point

namespace Move

variable {b : Fallback} {p p' : Point} {st st' : CallState} {a : Option Act}

theorem errored_turn (m : Move b p st a p' st') :
    Ticket.Turn st.errored st'.errored p.IsResolving p'.IsResolving
      (a.toList.countP Act.isResolve) := by
  cases m with
  | win | winEscaped => exact .take
  | resolve => exact .use trivial id
  | _ => exact .keep (by simp [Point.IsResolving])

theorem closed_turn (m : Move b p st a p' st') :
    Ticket.Turn st.closed st'.closed p.IsClosing p'.IsClosing
      (a.toList.countP Act.isClose) := by
  cases m with
  | mark => exact .take
  | close => exact .use trivial id
  | _ => exact .keep (by simp [Point.IsClosing])

theorem errored_mono (m : Move b p st a p' st') (h : st.errored = true) : st'.errored = true := by
  cases m <;> simp_all

theorem closed_mono (m : Move b p st a p' st') (h : st.closed = true) : st'.closed = true := by
  cases m <;> simp_all [CallState.fresh]

theorem stage_mono (m : Move b p st a p' st') : p.stage ≤ p'.stage := by
  cases m <;> simp [Point.stage]

theorem closes (m : Move b p st a p' st') (h : st'.closed = true) : st.closed = true ∨
    st.closed = false ∧ (∃ why s trailers, p = .marking why s trailers) ∧ p'.stage = 2 := by
  cases m with
  | mark => exact .inr ⟨rfl, ⟨_, _, _, rfl⟩, rfl⟩
  | win | winEscaped => cases h
  | _ => exact .inl h

/-- Who raises the first error has decided nothing before, and the call is active then. -/
theorem won (m : Move b p st (some (.triedError true)) p' st') :
    st = .fresh ∧ st' = ⟨true, false⟩ ∧ p.stage = 0 ∧ p'.stage = 1 := by
  cases m <;> exact ⟨rfl, rfl, rfl, rfl⟩

theorem closing {s : Status} {trailers : Metadata} {r : CallResult}
    (m : Move b p st (some (.closed s trailers r)) p' st') :
    ∃ why, p = .closing why s trailers := by
  cases m
  exact ⟨_, rfl⟩

theorem marked {first : Bool} (m : Move b p st (some (.markedClosed first)) p' st') :
    st.closed = !first ∧ p.stage = 1 ∧ p'.stage = 2 := by
  cases m <;> exact ⟨rfl, rfl, rfl⟩

end Move

/-! ### What is known about an operation under way -/

/-- The error that an operation is about, with the trailers that are given along with it. -/
inductive Operation.Causes : Operation → Fault → Metadata → Prop
  | raised {op : Operation} {f : Fault} (h : op.Raises f) : Causes op f .empty
  | escaped {s : Status} {trailers : Metadata} {cause : Fault} (n : Label)
      (h : (s.escapedCause n).value = some cause) : Causes (.close s trailers) cause trailers

/-- An operation that did all this had its error resolved, and this is what came of it. -/
def Operation.Answered (b : Fallback) (op : Operation) (did : Act → Prop) (s : Status)
    (trailers : Metadata) : Prop :=
  ∃ cause given v n, op.Causes cause given ∧ did (.resolved cause v) ∧
    (b.resolve cause n).value = v ∧ s = v.status ∧ trailers = given.merge v.trailers

/-- An operation that did all this may close the transport so: a service gave that status, which is
no escaped error, or the operation had its error resolved to it. -/
def Operation.May (b : Fallback) (op : Operation) (did : Act → Prop) (s : Status)
    (trailers : Metadata) : Prop :=
  (op = .close s trailers ∧ ¬s.Escapes) ∨ op.Answered b did s trailers

/-- An operation that did all this can have come to this point. -/
def Point.Fits (b : Fallback) (op : Operation) (st : CallState) (did : Act → Prop) :
    Point → Prop
  | checking _ reaction => ∃ e, op = .hear e reaction
  | hearing reaction => ∃ e, op = .hear e reaction
  | raising f => op.Raises f
  | dropping _ => True
  | inspecting s trailers => op = .close s trailers
  | escaping cause s trailers =>
    op = .close s trailers ∧ ∃ n, (s.escapedCause n).value = some cause
  | yielding _ s trailers => op = .close s trailers ∧ (st.errored = true ∨ st.closed = true)
  | resolving _ cause trailers => op.Causes cause trailers ∧ did (.triedError true)
  | marking _ s trailers =>
    (op = .close s trailers ∧ (s.Escapes → st.closed = true)) ∨
      (op.Answered b did s trailers ∧ did (.triedError true))
  | closing _ s trailers => op.May b did s trailers
  | finished _ => True

section

variable {b : Fallback} {op : Operation} {did did' : Act → Prop} {st st' : CallState}

theorem Operation.Answered.mono {s : Status} {trailers : Metadata}
    (h : op.Answered b did s trailers) (hd : ∀ a, did a → did' a) :
    op.Answered b did' s trailers := by
  obtain ⟨cause, given, v, n, hc, hr, hv⟩ := h
  exact ⟨cause, given, v, n, hc, hd _ hr, hv⟩

theorem Operation.May.mono {s : Status} {trailers : Metadata} (h : op.May b did s trailers)
    (hd : ∀ a, did a → did' a) : op.May b did' s trailers :=
  h.imp id fun h => h.mono hd

/-- What is known about an operation stays known while others go on. -/
theorem Point.Fits.mono {p : Point} (h : p.Fits b op st did) (hd : ∀ a, did a → did' a)
    (he : st.errored = true → st'.errored = true) (hc : st.closed = true → st'.closed = true) :
    p.Fits b op st' did' := by
  cases p with
  | yielding => exact ⟨h.1, h.2.imp he hc⟩
  | resolving => exact ⟨h.1, hd _ h.2⟩
  | marking =>
    rcases h with ⟨hop, hcl⟩ | ⟨ha, hw⟩
    · exact .inl ⟨hop, fun hs => hc (hcl hs)⟩
    · exact .inr ⟨ha.mono hd, hd _ hw⟩
  | closing => exact Operation.May.mono h hd
  | _ => exact h

theorem Point.Fits.move {p p' : Point} {a : Option Act} (m : Move b p st a p' st')
    (h : p.Fits b op st did) (hd : ∀ x, did x → did' x) (ha : ∀ x ∈ a, did' x) :
    p'.Fits b op st' did' := by
  cases m with
  | attend => exact ⟨_, h.choose_spec⟩
  | upset hr =>
    obtain ⟨e, rfl⟩ := h
    exact Operation.raises_of_raisedBy hr
  | win => exact ⟨.raised h, ha _ rfl⟩
  | plain hs => exact .inl ⟨h, fun he => absurd he hs⟩
  | escape hs => exact ⟨h, _, hs⟩
  | winEscaped =>
    obtain ⟨rfl, n, hs⟩ := h
    exact ⟨.escaped n hs, ha _ rfl⟩
  | loseEscaped hst =>
    -- a call that is not active has one of its bits set
    refine ⟨h.1, ?_⟩
    rcases st with ⟨_ | _, _ | _⟩ <;> simp_all [CallState.fresh]
  | late hst =>
    -- the error came too late, but not because of another error: the call was closed
    refine .inl ⟨h.1, fun _ => ?_⟩
    have hor := h.2
    by_contra hcl
    simp_all [CallState.phase]
  | resolve hv => exact .inr ⟨⟨_, _, _, _, h.1, ha _ rfl, hv, rfl, rfl⟩, hd _ h.2⟩
  | mark =>
    rcases h with ⟨hop, hcl⟩ | ⟨ha', -⟩
    · exact .inl ⟨hop, fun hs => absurd (hcl hs) Bool.false_ne_true⟩
    · exact .inr (ha'.mono hd)
  | _ => trivial

end

/-! ### Schedules -/

/-- What has become of operations that are under way at the same time. -/
structure Concurrent (ι : Type) where
  /-- How far each of them has come. -/
  point : ι → Point
  /-- The world that they share. -/
  world : World
  /-- What was done so far, and by whom, oldest first. -/
  log : List (ι × Act)

namespace Concurrent

variable {ι : Type}

/-- No operation has made a step yet. -/
def start (ops : ι → Operation) (w : World) : Concurrent ι :=
  ⟨fun i => (ops i).start, w, []⟩

/-- An operation did this so far. -/
def Did (c : Concurrent ι) (i : ι) (a : Act) : Prop :=
  (i, a) ∈ c.log

/-- How often something of a kind was done so far, by whomever. -/
def count (c : Concurrent ι) (kind : Act → Bool) : Nat :=
  c.log.countP fun entry => kind entry.2

/-- From `c` to `c'` one operation has made a step, with this act. -/
structure Advance (slot : Nat) (b : Fallback) (c c' : Concurrent ι) (i : ι) (a : Option Act) :
    Prop where
  move : Move b (c.point i) (c.world.states slot) a (c'.point i) (c'.world.states slot)
  others : ∀ j, j ≠ i → c'.point j = c.point j
  did : ∀ j x, c'.Did j x ↔ c.Did j x ∨ (j = i ∧ a = some x)
  count : ∀ kind, c'.count kind = c.count kind + a.toList.countP kind
  attempts : c'.world.transport.attempts =
    c.world.transport.attempts + a.toList.countP Act.isClose

section

variable [DecidableEq ι]

/-- One of the operations makes its next step. -/
def step (slot : Nat) (b : Fallback) (c : Concurrent ι) (i : ι) : Concurrent ι :=
  let (act, p, w) := (c.point i).step slot b c.world
  ⟨Function.update c.point i p, w, c.log ++ act.toList.map fun a => (i, a)⟩

/-- The operations make their steps in the order that a schedule gives. -/
def run (slot : Nat) (b : Fallback) (c : Concurrent ι) (schedule : List ι) : Concurrent ι :=
  schedule.foldl (step slot b) c

theorem advance_step {slot : Nat} {b : Fallback} (c : Concurrent ι) (i : ι) :
    Advance slot b c (c.step slot b i) i ((c.point i).step slot b c.world).1 where
  move := by
    simpa only [step, Function.update_self] using Point.step_move (c.point i) c.world
  others j hj := Function.update_of_ne hj _ _
  did j x := by
    simp only [Did, step, List.mem_append, List.mem_map, Option.mem_toList, Prod.mk.injEq]
    refine or_congr_right ⟨?_, ?_⟩
    · rintro ⟨y, hy, rfl, rfl⟩
      exact ⟨rfl, hy⟩
    · rintro ⟨rfl, hx⟩
      exact ⟨x, hx, rfl, rfl⟩
  count kind := by
    rw [Concurrent.count, step, List.countP_append, List.countP_map]
    rfl
  attempts := Point.step_attempts (c.point i) c.world

end

/-! ### The invariant -/

/-- What is true of operations on a call whenever they are under way. -/
structure Inv (slot : Nat) (b : Fallback) (ops : ι → Operation) (attempts : Nat)
    (c : Concurrent ι) : Prop where
  /-- Who raises the first error may have it resolved. -/
  resolving : Ticket (c.world.states slot).errored (fun i => (c.point i).IsResolving)
    (c.count Act.isResolve)
  /-- Who marks the call closed may close the transport. -/
  closing : Ticket (c.world.states slot).closed (fun i => (c.point i).IsClosing)
    (c.count Act.isClose)
  fits : ∀ i, (c.point i).Fits b (ops i) (c.world.states slot) (c.Did i)
  may : ∀ i s trailers r, c.Did i (.closed s trailers r) →
    (ops i).May b (c.Did i) s trailers
  attempts : c.world.transport.attempts = attempts + c.count Act.isClose
  winner : ∀ i, c.Did i (.triedError true) →
    (c.world.states slot).errored = true ∧ ∀ j, c.Did j (.triedError true) → j = i
  won : ∀ i, c.Did i (.triedError true) → 1 ≤ (c.point i).stage
  marked : ∀ i first, c.Did i (.markedClosed first) → 2 ≤ (c.point i).stage

/-- What is true besides when every close is an escaped error: nobody else closes the call before
the one who raised the first error. -/
structure Alone (slot : Nat) (c : Concurrent ι) : Prop where
  pending : ∀ i, c.Did i (.triedError true) → (c.point i).stage = 1 →
    (c.world.states slot).closed = false
  first : ∀ i, c.Did i (.triedError true) → ¬c.Did i (.markedClosed false)

variable {slot : Nat} {b : Fallback} {ops : ι → Operation} {attempts : Nat}
  {c c' : Concurrent ι} {i : ι} {a : Option Act}

theorem inv_start (w : World) : Inv slot b ops w.transport.attempts (start ops w) where
  resolving := .start fun i => by
    cases h : ops i <;> simp [start, h, Operation.start, Point.IsResolving]
  closing := .start fun i => by
    cases h : ops i <;> simp [start, h, Operation.start, Point.IsClosing]
  fits i := by
    cases h : ops i with
    | fail f => simpa [start, h, Operation.start, Point.Fits] using .fail f
    | close s trailers => simp [start, h, Operation.start, Point.Fits]
    | hear e reaction => simp [start, h, Operation.start, Point.Fits]
  may _ _ _ _ h := absurd h List.not_mem_nil
  attempts := rfl
  winner _ h := absurd h List.not_mem_nil
  won _ h := absurd h List.not_mem_nil
  marked _ _ h := absurd h List.not_mem_nil

theorem alone_start {w : World} : Alone slot (start ops w) :=
  ⟨fun _ h => absurd h List.not_mem_nil, fun _ h => absurd h List.not_mem_nil⟩

theorem Advance.stage_mono (m : Advance slot b c c' i a) (j : ι) :
    (c.point j).stage ≤ (c'.point j).stage := by
  by_cases hji : j = i
  · subst hji
    exact m.move.stage_mono
  · exact Nat.le_of_eq (congrArg Point.stage (m.others j hji).symm)

theorem Inv.advance (h : Inv slot b ops attempts c) (m : Advance slot b c c' i a) :
    Inv slot b ops attempts c' where
  resolving := by
    rw [m.count]
    refine h.resolving.turn m.move.errored_turn fun j hj hr => ?_
    rwa [m.others j hj] at hr
  closing := by
    rw [m.count]
    refine h.closing.turn m.move.closed_turn fun j hj hr => ?_
    rwa [m.others j hj] at hr
  fits j := by
    by_cases hji : j = i
    · subst hji
      exact (h.fits j).move m.move (fun x hx => (m.did j x).2 (.inl hx))
        fun x hx => (m.did j x).2 (.inr ⟨rfl, hx⟩)
    · rw [m.others j hji]
      exact (h.fits j).mono (fun x hx => (m.did j x).2 (.inl hx)) m.move.errored_mono
        m.move.closed_mono
  may j s trailers r hd := by
    refine Operation.May.mono ?_ fun x hx => (m.did j x).2 (.inl hx)
    rcases (m.did j _).1 hd with hd | ⟨rfl, rfl⟩
    · exact h.may j s trailers r hd
    · have hf := h.fits j
      obtain ⟨why, hp⟩ := m.move.closing
      rw [hp] at hf
      exact hf
  attempts := by rw [m.attempts, m.count, h.attempts, Nat.add_assoc]
  winner j hd := by
    -- the one who wins finds that nobody has raised an error before
    have hwon : ∀ k, c.Did k (.triedError true) → a ≠ some (.triedError true) := by
      rintro k hk rfl
      have he := (h.winner k hk).1
      rw [m.move.won.1] at he
      exact Bool.false_ne_true he
    rcases (m.did j _).1 hd with hd | ⟨rfl, rfl⟩
    · refine ⟨m.move.errored_mono (h.winner j hd).1, fun k hk => ?_⟩
      exact (h.winner j hd).2 k (((m.did k _).1 hk).resolve_right fun hw => hwon j hd hw.2)
    · refine ⟨by rw [m.move.won.2.1], fun k hk => ?_⟩
      rcases (m.did k _).1 hk with hk | ⟨rfl, -⟩
      · exact absurd rfl (hwon k hk)
      · rfl
  won j hd := by
    rcases (m.did j _).1 hd with hd | ⟨rfl, rfl⟩
    · exact Nat.le_trans (h.won j hd) (m.stage_mono j)
    · exact Nat.le_of_eq m.move.won.2.2.2.symm
  marked j first hd := by
    rcases (m.did j _).1 hd with hd | ⟨rfl, rfl⟩
    · exact Nat.le_trans (h.marked j first hd) (m.stage_mono j)
    · exact Nat.le_of_eq m.move.marked.2.2.symm

/-- When every close is an escaped error, who closes the call has raised the first error. -/
theorem Inv.won_of_marking (hesc : ∀ i s trailers, ops i = .close s trailers → s.Escapes)
    (h : Inv slot b ops attempts c) {why : Reason} {s : Status} {trailers : Metadata}
    (hp : c.point i = .marking why s trailers) (hc : (c.world.states slot).closed = false) :
    c.Did i (.triedError true) := by
  have hf := h.fits i
  rw [hp] at hf
  rcases hf with ⟨hop, hcl⟩ | ⟨-, hw⟩
  · exact absurd (hcl (hesc i s trailers hop)) (by simp [hc])
  · exact hw

theorem Alone.advance (hesc : ∀ i s trailers, ops i = .close s trailers → s.Escapes)
    (h : Inv slot b ops attempts c) (h' : Alone slot c) (m : Advance slot b c c' i a) :
    Alone slot c' where
  pending j hd hs := by
    by_contra hcl
    rcases (m.did j _).1 hd with hw | ⟨rfl, rfl⟩
    · rcases m.move.closes ((Bool.not_eq_false _).mp hcl) with hc | ⟨hc, ⟨why, s, t, hp⟩, hp'⟩
      · have hst : (c.point j).stage = 1 := Nat.le_antisymm (hs ▸ m.stage_mono j) (h.won j hw)
        exact Bool.false_ne_true ((h'.pending j hw hst).symm.trans hc)
      · -- only the one who raised the first error closes the call, and has done so then
        obtain rfl : i = j := (h.winner j hw).2 i (h.won_of_marking hesc hp hc)
        exact absurd (hs.symm.trans hp') (by decide)
    · exact hcl (congrArg CallState.closed m.move.won.2.1)
  first j hd hc := by
    rcases (m.did j _).1 hd with hw | ⟨rfl, rfl⟩
    · rcases (m.did j _).1 hc with hm | ⟨rfl, rfl⟩
      · exact h'.first j hw hm
      · obtain ⟨hcl, hst, -⟩ := m.move.marked
        rw [h'.pending j hw hst] at hcl
        exact Bool.false_ne_true hcl
    · rcases (m.did j _).1 hc with hm | ⟨-, hm⟩
      · have hst := h.marked j false hm
        rw [m.move.won.2.2.1] at hst
        exact absurd hst (by decide)
      · cases hm

section

variable [DecidableEq ι]

theorem Inv.run (h : Inv slot b ops attempts c) (schedule : List ι) :
    Inv slot b ops attempts (c.run slot b schedule) := by
  induction schedule generalizing c with
  | nil => exact h
  | cons i schedule ih => exact ih (h.advance (advance_step c i))

theorem Alone.run (hesc : ∀ i s trailers, ops i = .close s trailers → s.Escapes)
    (h : Inv slot b ops attempts c) (h' : Alone slot c) (schedule : List ι) :
    Alone slot (c.run slot b schedule) := by
  induction schedule generalizing c with
  | nil => exact h'
  | cons i schedule ih =>
    exact ih (h.advance (advance_step c i)) (h'.advance hesc h (advance_step c i))

end

end Concurrent

/-- **Interleaved operations settle the call once.** Whatever operations are under way at the same
time and in whatever order they make their steps, at most one error is resolved, the transport is
closed at most once, and a close gets there as a service gave it only when it is no escaped error.
When every close is an escaped error, the transport is closed with the one verdict, and who raised
the first error does not find the call closed. -/
theorem interleaving_safe {ι : Type} [DecidableEq ι] (slot : Nat) (b : Fallback)
    (ops : ι → Operation) (w : World) (schedule : List ι) :
    let c := (Concurrent.start ops w).run slot b schedule
    c.count Act.isResolve ≤ 1 ∧
    (c.count Act.isClose ≤ 1 ∧ c.world.transport.attempts ≤ w.transport.attempts + 1) ∧
    (∀ i s trailers r, c.Did i (.closed s trailers r) →
      (ops i = .close s trailers ∧ ¬s.Escapes) ∨ (ops i).Answered b (c.Did i) s trailers) ∧
    ((∀ i s trailers, ops i = .close s trailers → s.Escapes) →
      (∀ i s trailers r, c.Did i (.closed s trailers r) →
        (ops i).Answered b (c.Did i) s trailers) ∧
      ∀ i, c.Did i (.triedError true) → ¬c.Did i (.markedClosed false)) := by
  intro c
  have hstart : Concurrent.Inv slot b ops w.transport.attempts (.start ops w) :=
    Concurrent.inv_start w
  have h : Concurrent.Inv slot b ops w.transport.attempts c := hstart.run schedule
  refine ⟨h.resolving.once, ⟨h.closing.once, ?_⟩, h.may, fun hesc => ⟨?_, ?_⟩⟩
  · rw [h.attempts]
    exact Nat.add_le_add_left h.closing.once _
  · intro i s trailers r hd
    rcases h.may i s trailers r hd with ⟨hop, hs⟩ | ha
    · exact absurd (hesc i s trailers hop) hs
    · exact ha
  · exact (Concurrent.alone_start.run hesc hstart schedule).first

/-- A service closes with an escaped error while another error is raised. -/
theorem interleaving_safe_escaped :
    let ops : Bool → Operation
      | true => .fail ⟨7, Kind.any, none, none, []⟩
      | false => .close ⟨.unknown, "", [], .empty, some (.call .alreadyClosed)⟩ .empty
    let c := (Concurrent.start ops (World.fresh 8 (.fresh ⟨"svc/M", .unary⟩))).run 0
      ⟨.declining, .silent⟩ [false, true, false, true, false, true, true, false]
    (∀ i s trailers, ops i = .close s trailers → s.Escapes) ∧
      ∀ i, c.Did i (.triedError true) → ¬c.Did i (.markedClosed false) := by
  intro ops c
  have hesc : ∀ i s trailers, ops i = .close s trailers → s.Escapes := by
    rintro (_ | _) s trailers ⟨⟩
    exact ⟨rfl, nofun⟩
  exact ⟨hesc, ((interleaving_safe 0 _ ops _ _).2.2.2 hesc).2⟩

end CallGuard
