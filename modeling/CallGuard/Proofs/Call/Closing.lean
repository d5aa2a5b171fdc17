import CallGuard.Interceptor.Plan
import CallGuard.Proofs.Call.Sequence

/-!
# Calls that cannot be closed

A guarded call counts as closed from the moment at which the transport is about to be closed, and
the transport may fail to close. Whoever wanted this close learns of the failure: the service, when
it closed the call, or those who told the call of an event or started it, when an error was raised.
All errors that are raised later are dropped.

So an error may be dropped although the call was never closed, but not silently: when an error is
raised and nobody is told of a failure then, the transport has been closed, or the failure to close
it was reported before.

A service and a listener follow plans here: while they are started or told of an event they may
close the call any number of times, go on with what a close came to, and raise an error at last.

* `Standing` : nothing was done to a guarded call, or its one close came to a result;
* `GuardedCall.close_standing`, `GuardedCall.handleFailure_standing`, `GuardedCall.plan_standing` :
  what a close, an error and a whole plan do to that;
* `Interception.unclosed_is_reported` : the above, for whatever happens to an intercepted call;
* `Interception.dropped_unclosed` : an error that is dropped although the call was never closed.
-/

namespace CallGuard

theorem Run.bind_of_done {α β : Type} {x : Run α} {a : α} {w : World} (h : (x w).1 = .done a)
    (f : α → Run β) : (x >>= f) w = f a (x w).2 := by
  rw [bind_apply]
  generalize x w = c at h
  obtain ⟨o, w'⟩ := c
  obtain rfl : o = .done a := h
  rfl

/-! ### Reports -/

/-- What those who deal with a guarded call are told. -/
inductive Report where
  /-- What a close comes to, to the service. -/
  | closed (o : Outcome CallResult)
  /-- How a start or a hook of the listener ends, to the one who wanted it. -/
  | ended (o : Outcome Unit)

/-- The report tells that the transport failed to close. -/
def Report.Tells (e : CallError) : Report → Prop
  | closed o => o = .done (.error e)
  | ended o => ∃ f, o = .failed f ∧ f.kind = Kind.illegalState ∧
      f.message = some "Failed to close the call" ∧ f.source = some (.call e)

/-- What a service that follows a plan is told about the closes in it. -/
def Plan.reports {α : Type} (call : Call) : Plan α → World → List Report
  | .finish _, _ => []
  | .close s trailers rest, w =>
    let c := call.close s trailers w
    .closed c.1 :: match c.1 with
      | .done r => (rest r).reports call c.2
      | _ => []
  | .write es rest, w => rest.reports call (Run.write es w).2

/-- The computation did not come back with a value. -/
def Outcome.Raised {α : Type} (o : Outcome α) : Prop :=
  ∀ a, o ≠ .done a

theorem Outcome.raised_failed {α : Type} (f : Fault) : (failed f : Outcome α).Raised := by
  simp [Raised]

theorem Outcome.raised_panicked {α : Type} (p : Payload) : (panicked p : Outcome α).Raised := by
  simp [Raised]

/-- From a result of closing the transport, if there was one, to another. Only an active call can be
closed, and a failure is reported. -/
def Progress (o o' : Option CallResult) (reports : List Report) : Prop :=
  o' = o ∨ o = none ∧ ∃ r, o' = some r ∧ ∀ e, r = .error e → ∃ report ∈ reports, report.Tells e

namespace Progress

variable {o o' o'' : Option CallResult} {reports reports' : List Report}

theorem refl (o : Option CallResult) (reports : List Report) : Progress o o reports :=
  .inl rfl

theorem mono (h : Progress o o' reports) (hs : reports ⊆ reports') : Progress o o' reports' := by
  rcases h with rfl | ⟨rfl, r, rfl, hr⟩
  · exact refl ..
  · refine .inr ⟨rfl, r, rfl, fun e he => ?_⟩
    obtain ⟨report, hmem, htells⟩ := hr e he
    exact ⟨report, hs hmem, htells⟩

theorem trans (h : Progress o o' reports) (h' : Progress o' o'' reports') :
    Progress o o'' (reports ++ reports') := by
  rcases h with rfl | ⟨rfl, r, rfl, hr⟩
  · exact h'.mono (List.subset_append_right ..)
  · rcases h' with rfl | ⟨hnone, -⟩
    · exact mono (.inr ⟨rfl, r, rfl, hr⟩) (List.subset_append_left ..)
    · -- a closed call is not closed again
      cases hnone

theorem told {e : CallError} (h : Progress none (some (.error e)) reports) :
    ∃ report ∈ reports, report.Tells e := by
  obtain heq | ⟨-, r, heq, hr⟩ := h
  · cases heq
  · obtain rfl := Option.some.inj heq
    exact hr e rfl

theorem of_ended (h : Progress o o' (reports ++ [.ended (.done ())])) : Progress o o' reports := by
  rcases h with rfl | ⟨rfl, r, rfl, hr⟩
  · exact refl ..
  · refine .inr ⟨rfl, r, rfl, fun e he => ?_⟩
    obtain ⟨report, hmem, htells⟩ := hr e he
    rcases List.mem_append.1 hmem with hmem | hmem
    · exact ⟨report, hmem, htells⟩
    · obtain ⟨f, hf, -⟩ := List.mem_singleton.1 hmem ▸ htells
      cases hf

end Progress

/-! ### How a call stands -/

namespace Transport

variable {t u : Transport} {s : Status} {trailers : Metadata}

theorem close_eq_ok (h : t.close s trailers = (.ok (), u)) :
    u.closes = t.closes ++ [⟨s, trailers⟩] := by
  unfold close at h
  split at h
  · cases h
  · split at h <;> cases h
    rfl

theorem close_eq_error {e : CallError} (h : t.close s trailers = (.error e, u)) :
    u.closes = t.closes ∧ u.attempts = t.attempts + 1 := by
  unfold close at h
  split at h
  · cases h
    exact ⟨rfl, rfl⟩
  · split at h <;> cases h
    exact ⟨rfl, rfl⟩

end Transport

/-- How a guarded call stands whose transport was `t` in the beginning. -/
inductive Standing (slot : Nat) (t : Transport) (w : World) : Option CallResult → Prop
  /-- Nothing was done to it. -/
  | active (hs : w.states slot = .fresh) (ht : w.transport = t) : Standing slot t w none
  /-- It is closed, and the one close of the transport came to a result. -/
  | closed {s : Status} {trailers : Metadata} {r : CallResult}
      (hs : (w.states slot).closed = true) (ht : t.close s trailers = (r, w.transport)) :
      Standing slot t w (some r)

variable {slot : Nat} {t : Transport} {w w' : World} {o : Option CallResult}

theorem Standing.congr (h : Standing slot t w o) (hs : w'.states slot = w.states slot)
    (ht : w'.transport = w.transport) : Standing slot t w' o := by
  cases h with
  | active hs' ht' => exact .active (hs.trans hs') (ht.trans ht')
  | closed hs' ht' => exact .closed (hs ▸ hs') (ht ▸ ht')

namespace GuardedCall

section

variable {g : GuardedCall} {panics : Nat → Option Payload} (hg : g.inner = .transport panics)

include hg

theorem closeOnce_open (ho : (w.states g.slot).closed = false) (s : Status) (trailers : Metadata) :
    Call.closeOnce g.slot g.inner.close s trailers w =
      (w.transport.answer panics (w.transport.close s trailers).1,
        (w.withState g.slot ⟨(w.states g.slot).errored, true⟩).withTransport
          (w.transport.close s trailers).2) := by
  rw [Call.closeOnce_of_open ho, hg, Call.close, Call.closeTransport_apply]
  rfl

/-- When the service closes an active call, the transport is closed, or a hook of the observer has
panicked before. -/
theorem close_fresh (hs : w.states g.slot = .fresh) (s : Status) (trailers : Metadata) :
    (∃ s' trailers', (g.asCall.close s trailers w).1 =
        w.transport.answer panics (w.transport.close s' trailers').1 ∧
      (g.asCall.close s trailers w).2.transport = (w.transport.close s' trailers').2 ∧
      (g.asCall.close s trailers w).2.states g.slot = ⟨decide s.Escapes, true⟩) ∨
    ∃ note p, g.fallback.panics note = some p ∧ (g.asCall.close s trailers w).1 = .panicked p ∧
      (g.asCall.close s trailers w).2.transport = w.transport ∧
      (g.asCall.close s trailers w).2.states g.slot = ⟨true, false⟩ := by
  rw [asCall, Call.close]
  cases hcause : (s.escapedCause w.nextLabel).value with
  | none =>
    have hopen : ((w.after (s.escapedCause w.nextLabel)).states g.slot).closed = false := by
      rw [World.after_states, hs]
      rfl
    refine .inl ⟨s, trailers, ?_⟩
    rw [Call.closeGuarded_of_plain hcause, closeOnce_open hg hopen, World.after_states, hs,
      decide_eq_false (Status.escapedCause_eq_none_iff.1 hcause)]
    exact ⟨rfl, rfl, World.withState_states ..⟩
  | some cause =>
    have hesc : s.Escapes := .of_escapedCause hcause
    rw [Call.closeGuarded_of_active hcause hs, Run.bind_apply]
    generalize hw₁ : (w.after (s.escapedCause w.nextLabel)).withState g.slot _ = w₁
    have hstate : w₁.states g.slot = ⟨true, false⟩ := by rw [← hw₁, World.withState_states]
    have htransport : w₁.transport = w.transport := by rw [← hw₁]; rfl
    rcases g.fallback.consult_follows cause w₁ with hv | ⟨note, p, hp, t, hpanic⟩
    · have hopen : ((w₁.after (g.fallback.resolve cause w₁.nextLabel)).states g.slot).closed =
          false := by
        rw [World.after_states, hstate]
      rw [hv, Run.recorded_apply, Run.andThen_done, Call.closeResolved, closeOnce_open hg hopen,
        World.after_states, World.after_transport, hstate, htransport, decide_eq_true hesc]
      exact .inl ⟨_, _, rfl, rfl, World.withState_states ..⟩
    · rw [hpanic]
      exact .inr ⟨note, p, hp, rfl, htransport, hstate⟩

/-- While an error keeps the call from being closed, another escaped error is dropped, and any other
close goes through. -/
theorem close_errored (hs : w.states g.slot = ⟨true, false⟩) (s : Status) (trailers : Metadata) :
    s.Escapes ∧ (g.asCall.close s trailers w).2.transport = w.transport ∧
        (g.asCall.close s trailers w).2.states g.slot = ⟨true, false⟩ ∨
      ¬s.Escapes ∧
        (g.asCall.close s trailers w).2.transport = (w.transport.close s trailers).2 ∧
        (g.asCall.close s trailers w).2.states g.slot = ⟨true, true⟩ := by
  rw [asCall, Call.close]
  have hstate : (w.after (s.escapedCause w.nextLabel)).states g.slot = ⟨true, false⟩ := by
    rw [World.after_states, hs]
  cases hcause : (s.escapedCause w.nextLabel).value with
  | none =>
    rw [Call.closeGuarded_of_plain hcause, closeOnce_open hg (by rw [hstate]), hstate]
    exact .inr ⟨Status.escapedCause_eq_none_iff.1 hcause, rfl, World.withState_states ..⟩
  | some cause =>
    have hphase : (w.states g.slot).phase = .errored := by
      rw [hs]
      rfl
    rw [Call.closeGuarded_of_inactive hcause (by simp [hphase]), if_pos hphase]
    exact .inl ⟨.of_escapedCause hcause, rfl, hstate⟩

/-- When an error is raised on an active call, it is resolved and the transport is closed with the
verdict, which may fail or panic. Otherwise a hook of the observer has panicked before. -/
theorem handleFailure_settles (hs : w.states g.slot = .fresh) (f : Fault) {v : Verdict}
    (hv : (g.fallback.resolve f w.nextLabel).value = v) {r : CallResult} {u : Transport}
    (hr : w.transport.close v.status v.trailers = (r, u)) :
    ((g.handleFailure f w).2.states g.slot = ⟨true, true⟩ ∧
      (g.handleFailure f w).2.transport = u ∧
      (panics w.transport.attempts = none ∧ (r = .ok () ∧ (g.handleFailure f w).1 = .done () ∨
          ∃ e, r = .error e ∧ Report.Tells e (.ended (g.handleFailure f w).1)) ∨
        ∃ p, panics w.transport.attempts = some p ∧ (g.handleFailure f w).1 = .panicked p)) ∨
    ∃ note p, g.fallback.panics note = some p ∧ (g.handleFailure f w).1 = .panicked p ∧
      (g.handleFailure f w).2.transport = w.transport ∧
      (g.handleFailure f w).2.states g.slot = ⟨true, false⟩ := by
  rw [handleFailure, Run.bind_apply, Run.onState_apply, hs, CallState.tryError_fresh,
    Run.andThen_done, if_pos rfl, Run.bind_apply]
  rcases g.fallback.consult_follows f (w.withState g.slot ⟨true, false⟩) with
    hconsult | ⟨note, p, hp, t, hpanic⟩
  · have hopen : (((w.withState g.slot ⟨true, false⟩).after
        (g.fallback.resolve f w.nextLabel)).states g.slot).closed = false := by
      rw [World.after_states, World.withState_states]
    rw [hconsult, Run.recorded_apply, Run.andThen_done, World.withState_nextLabel, hv,
      Call.closeResolved, Metadata.empty_merge, Run.bind_apply, closeOnce_open hg hopen,
      World.after_transport, World.withState_transport, hr, World.after_states,
      World.withState_states, Transport.answer]
    left
    cases hpanics : panics w.transport.attempts with
    | some p => exact ⟨by simp, rfl, .inr ⟨p, rfl, rfl⟩⟩
    | none =>
      cases r with
      | ok => exact ⟨by simp, rfl, .inl ⟨rfl, .inl ⟨rfl, rfl⟩⟩⟩
      | error e =>
        refine ⟨?_, rfl, .inl ⟨rfl, .inr ⟨e, rfl, _, rfl, rfl, rfl, rfl⟩⟩⟩
        simp [Run.bind_apply, Run.fail]
  · rw [hpanic]
    exact .inr ⟨note, p, hp, rfl, rfl, World.withState_states ..⟩

end

/-- A guarded call over the transport, where closes and hooks come back. -/
structure Steady (g : GuardedCall) : Prop where
  transport : g.inner = .transport
  fallback : g.fallback.Steady

theorem steady_mk (slot : Nat) (b : Fallback) :
    (⟨slot, b, .transport⟩ : GuardedCall).Steady :=
  ⟨rfl, b.steady_steady⟩

variable {g : GuardedCall} (hg : g.Steady)

include hg

theorem close_active (hs : w.states g.slot = .fresh) (ht : w.transport = t) (s : Status)
    (trailers : Metadata) : ∃ r, (g.asCall.close s trailers w).1 = .done r ∧
      Standing g.slot t (g.asCall.close s trailers w).2 (some r) ∧
      (g.asCall.close s trailers w).2.states g.slot = ⟨decide s.Escapes, true⟩ := by
  subst ht
  rcases close_fresh hg.transport hs s trailers with
    ⟨s', trailers', hdone, htransport, hstate⟩ | ⟨note, p, hp, -⟩
  · exact ⟨_, hdone, .closed (by rw [hstate]) (Prod.ext rfl htransport.symm), hstate⟩
  · exact absurd hg.fallback (FragileFallback.not_steady hp)

omit hg in
theorem close_closed (hc : (w.states g.slot).closed = true) (s : Status) (trailers : Metadata) :
    g.asCall.close s trailers w =
      (.done (.error .alreadyClosed), w.after (s.escapedCause w.nextLabel)) := by
  rw [asCall, Call.close]
  have hlate : ((w.after (s.escapedCause w.nextLabel)).states g.slot).closed = true := hc
  cases hcause : (s.escapedCause w.nextLabel).value with
  | none => rw [Call.closeGuarded_of_plain hcause, Call.closeOnce_of_closed hlate]
  | some cause =>
    have hphase : (w.states g.slot).phase = .closed := by simp [CallState.phase, hc]
    rw [Call.closeGuarded_of_inactive hcause (by simp [hphase]), if_neg (by simp [hphase]),
      Call.closeOnce_of_closed hlate]

/-- A close by the service comes to a result. When the call was active, this is the result of
closing the transport. -/
theorem close_standing (h : Standing g.slot t w o) (s : Status) (trailers : Metadata) : ∃ r o',
    (g.asCall.close s trailers w).1 = .done r ∧
    Standing g.slot t (g.asCall.close s trailers w).2 o' ∧
    Progress o o' [.closed (.done r)] := by
  cases h with
  | active hs ht =>
    obtain ⟨r, hr, hst, -⟩ := close_active hg hs ht s trailers
    exact ⟨r, _, hr, hst, .inr ⟨rfl, r, rfl, fun e he => ⟨_, List.mem_singleton_self _, he ▸ rfl⟩⟩⟩
  | closed hs ht =>
    rw [close_closed hs s trailers]
    exact ⟨_, _, rfl, .closed hs ht, .refl ..⟩

/-- The first error is resolved, and the transport is closed with the verdict. Whoever raised the
error is told when that fails. -/
theorem handleFailure_fresh (hs : w.states g.slot = .fresh) (f : Fault) {v : Verdict}
    (hv : (g.fallback.resolve f w.nextLabel).value = v) {r : CallResult} {u : Transport}
    (hr : w.transport.close v.status v.trailers = (r, u)) :
    (g.handleFailure f w).2.states g.slot = ⟨true, true⟩ ∧
      (g.handleFailure f w).2.transport = u ∧
      (r = .ok () ∧ (g.handleFailure f w).1 = .done () ∨
        ∃ e, r = .error e ∧ Report.Tells e (.ended (g.handleFailure f w).1)) := by
  rcases handleFailure_settles hg.transport hs f hv hr with
    ⟨hstate, htransport, ⟨-, hend⟩ | ⟨p, hp, -⟩⟩ | ⟨note, p, hp, -⟩
  · exact ⟨hstate, htransport, hend⟩
  · cases hp
  · exact absurd hg.fallback (FragileFallback.not_steady hp)

theorem handleFailure_active (hs : w.states g.slot = .fresh) (ht : w.transport = t) (f : Fault) :
    ∃ r, Standing g.slot t (g.handleFailure f w).2 (some r) ∧
      ∀ e, r = .error e → Report.Tells e (.ended (g.handleFailure f w).1) := by
  subst ht
  obtain ⟨hstate, hu, hend⟩ := handleFailure_fresh hg hs f rfl rfl
  refine ⟨_, .closed (by rw [hstate]) (Prod.ext rfl hu.symm), ?_⟩
  rintro e he
  rcases hend with ⟨hok, -⟩ | ⟨e', he', htells⟩
  · cases hok.symm.trans he
  · exact Except.error.inj (he'.symm.trans he) ▸ htells

omit hg in
/-- An error of a call that is not active is dropped, and noted in the log. -/
theorem handleFailure_inactive (hs : (w.states g.slot).phase ≠ .active) (f : Fault) :
    g.handleFailure f w = (.done (), w.after (Recorded.log .debug
      "Ignoring error for call already handling an error or closed"
      [("error_type", .text f.kind.name), ("closed", .flag (w.states g.slot).closed)]
      w.nextLabel)) := by
  rw [handleFailure, Run.bind_apply, Run.onState_apply, CallState.tryError_of_inactive hs,
    Run.andThen_done, if_neg Bool.false_ne_true, World.withState_self, state, Run.bind_apply,
    Run.read_apply, Run.andThen_done]
  rfl

omit hg in
theorem handleFailure_closed (hc : (w.states g.slot).closed = true) (f : Fault) :
    g.handleFailure f w = (.done (), w.after (Recorded.log .debug
      "Ignoring error for call already handling an error or closed"
      [("error_type", .text f.kind.name), ("closed", .flag true)] w.nextLabel)) := by
  rw [handleFailure_inactive (by simp [CallState.phase, hc]) f, hc]

theorem handleFailure_standing (h : Standing g.slot t w o) (f : Fault) : ∃ r,
    Standing g.slot t (g.handleFailure f w).2 (some r) ∧
      Progress o (some r) [.ended (g.handleFailure f w).1] := by
  cases h with
  | active hs ht =>
    obtain ⟨r, hst, htells⟩ := handleFailure_active hg hs ht f
    exact ⟨r, hst, .inr ⟨rfl, r, rfl, fun e he => ⟨_, List.mem_singleton_self _, htells e he⟩⟩⟩
  | closed hs ht =>
    rw [handleFailure_closed hs f]
    exact ⟨_, .closed hs ht, .refl ..⟩

/-- A service follows its plan to the end and is told what its closes come to. -/
theorem plan_standing {α : Type} (plan : Plan α) (h : Standing g.slot t w o) : ∃ a o',
    (plan.run g.asCall w).1 = .done a ∧ Standing g.slot t (plan.run g.asCall w).2 o' ∧
      Progress o o' (plan.reports g.asCall w) := by
  induction plan generalizing w o with
  | finish a => exact ⟨a, o, rfl, h, .refl ..⟩
  | close s trailers rest ih =>
    obtain ⟨r, o₁, hr, h₁, hp₁⟩ := close_standing hg h s trailers
    -- the rest of the plan depends on what the close came to
    obtain ⟨a, o₂, ha, h₂, hp₂⟩ := ih r h₁
    rw [Plan.run, Run.bind_of_done hr]
    simp only [Plan.reports, hr]
    exact ⟨a, o₂, ha, h₂, hp₁.trans hp₂⟩
  | write es rest ih => exact ih (h.congr rfl rfl)

end GuardedCall

/-! ### Errors on the way -/

/-- What a service does by a plan for its call, which says at last how to end. -/
def Plan.perform {α : Type} (call : Call) (plan : Plan (Outcome α)) : Run α := do
  Run.raise (← plan.run call)

namespace GuardedCall

variable {g : GuardedCall} (hg : g.Steady)

include hg

theorem perform_standing {α : Type} (plan : Plan (Outcome α)) (h : Standing g.slot t w o) :
    ∃ o' w', Standing g.slot t w' o' ∧ Progress o o' (plan.reports g.asCall w) ∧
      ((∃ a, (plan.perform g.asCall w).1 = .done a ∧
          Run.catchFault (plan.perform g.asCall) w = (.done (.ok a), w')) ∨
        (plan.perform g.asCall w).1.Raised ∧
          ∃ f, Run.catchFault (plan.perform g.asCall) w = (.done (.error f), w')) := by
  obtain ⟨out, o', hout, h', hp⟩ := plan_standing hg plan h
  have hperform : plan.perform g.asCall w = (out, (plan.run g.asCall w).2) :=
    Run.bind_of_done hout _
  rw [Run.catchFault, Run.bind_apply, Run.attempt_apply, hperform, Run.andThen_done]
  rcases out with a | f | p
  · exact ⟨o', _, h', hp, .inl ⟨a, rfl, rfl⟩⟩
  · exact ⟨o', _, h', hp, .inr ⟨Outcome.raised_failed f, f, rfl⟩⟩
  · -- the panic becomes a fault with a label of its own
    exact ⟨o', (plan.run g.asCall w).2.after (Fault.ofPanic p (plan.run g.asCall w).2.nextLabel),
      h'.congr rfl rfl, hp, .inr ⟨Outcome.raised_panicked p, _, rfl⟩⟩

/-- The listener hears the event: it is told of the end of a call in any case, and of nothing else
after an error. -/
def Hears (g : GuardedCall) (e : Event) (w : World) : Prop :=
  e.isTerminal = true ∨ (w.states g.slot).errored = false

instance (g : GuardedCall) (e : Event) (w : World) : Decidable (g.Hears e w) :=
  inferInstanceAs (Decidable (_ ∨ _))

/-- The listener that follows a plan for its call about every event. -/
def listening (g : GuardedCall) (plan : Plan (Outcome Unit)) : Listener :=
  g.listener fun _ => plan.perform g.asCall

omit hg in
theorem listener_of_not_hears {e : Event} (hh : ¬g.Hears e w) (l : Listener) :
    g.listener l e w = (.done (), w) := by
  have hskip : e.isTerminal = false ∧ (w.states g.slot).errored = true := by
    simpa [Hears] using hh
  simp [listener, state, Run.bind_apply, hskip]

/-- What becomes of a hook: an error of it is an error of the call. -/
def settle (g : GuardedCall) : Except Fault Unit → Run Unit
  | .ok () => pure ()
  | .error f => g.handleFailure f

omit hg in
theorem listener_of_hears {e : Event} (hh : g.Hears e w) {l : Listener} {r : Except Fault Unit}
    (hr : (l e).catchFault w = (.done r, w')) : g.listener l e w = g.settle r w' := by
  have hskip : ¬(e.isTerminal = false ∧ (w.states g.slot).errored = true) := by
    rcases hh with hh | hh <;> simp [hh]
  cases r <;> simp [listener, settle, state, Run.bind_apply, hskip, hr]

omit hg in
theorem listening_of_hears {e : Event} (hh : g.Hears e w) {plan : Plan (Outcome Unit)}
    {r : Except Fault Unit} (hr : Run.catchFault (plan.perform g.asCall) w = (.done r, w')) :
    g.listening plan e w = g.settle r w' :=
  listener_of_hears (l := fun _ => plan.perform g.asCall) hh hr

/-- When a listener raises an error, the call is closed, or somebody is told that it is not. -/
theorem listening_standing {e : Event} (hh : g.Hears e w) (plan : Plan (Outcome Unit))
    (h : Standing g.slot t w o) : ∃ o',
      Standing g.slot t (g.listening plan e w).2 o' ∧
      Progress o o' (plan.reports g.asCall w ++ [.ended (g.listening plan e w).1]) ∧
      ((plan.perform g.asCall w).1.Raised → o' ≠ none) := by
  obtain ⟨o₁, w₁, h₁, hp, ⟨⟨⟩, ha, hcatch⟩ | ⟨hr, f, hcatch⟩⟩ := perform_standing hg plan h <;>
    rw [listening_of_hears hh hcatch]
  · exact ⟨o₁, h₁, hp.trans (.refl ..), fun hr => absurd ha (hr _)⟩
  · obtain ⟨r, h₂, hp₂⟩ := handleFailure_standing hg h₁ f
    exact ⟨some r, h₂, hp.trans hp₂, fun _ => Option.some_ne_none r⟩

end GuardedCall

/-! ### Intercepted calls -/

/-- A call over the transport that the guarding interceptor gets. -/
structure Interception where
  /-- Resolves the errors of the call. -/
  fallback : Fallback
  /-- What the service does when it is started. -/
  start : Metadata → Plan (Outcome Listener)
  /-- What the call comes with. -/
  headers : Metadata
  /-- The world by then. -/
  world : World
  /-- No call had the next slot before. -/
  fresh : world.states world.nextSlot = .fresh

namespace Interception

variable (i : Interception)

/-- The call under guard. -/
def call : GuardedCall :=
  ⟨i.world.nextSlot, i.fallback, .transport⟩

theorem call_steady : i.call.Steady :=
  GuardedCall.steady_mk ..

/-- What the interceptor makes of the call. -/
def intercepted : Outcome Listener × World :=
  (Interceptor.guarding i.fallback).intercept (.following i.start) .transport i.headers i.world

/-- The world in which the service is started. -/
def begun : World :=
  { i.world with nextSlot := i.world.nextSlot + 1 }

/-- What starting the service comes to. -/
def started : Outcome Listener × World :=
  Start.following i.start i.call.asCall i.headers i.begun

/-- What the service is told while it is started. -/
def startReports : List Report :=
  (i.start i.headers).reports i.call.asCall (Run.noteStart i.call.asCall i.begun).2

theorem intercepted_standing : ∃ o, Standing i.call.slot i.world.transport i.intercepted.2 o ∧
    Progress none o (i.startReports ++ [.ended (i.intercepted.1.map fun _ => ())]) ∧
    (i.started.1.Raised → o ≠ none) := by
  have hactive : Standing i.call.slot i.world.transport
      (Run.noteStart i.call.asCall i.begun).2 none :=
    .active i.fresh rfl
  have hstarted : i.started = (i.start i.headers).perform i.call.asCall
      (Run.noteStart i.call.asCall i.begun).2 := rfl
  -- what is done after the start depends on how it ends
  have hintercepted : i.intercepted = Run.andThen _
      (Run.catchFault ((i.start i.headers).perform i.call.asCall)
        (Run.noteStart i.call.asCall i.begun).2) := rfl
  obtain ⟨o, w, h, hp, ⟨l, ha, hcatch⟩ | ⟨hr, f, hcatch⟩⟩ :=
    GuardedCall.perform_standing (g := i.call) i.call_steady (i.start i.headers) hactive <;>
    rw [hintercepted, hcatch, Run.andThen_done, hstarted]
  · exact ⟨o, h, hp.trans (.refl ..), fun hr => absurd ha (hr l)⟩
  · -- what is left is the failure of the start, to which a silent listener is handed out
    dsimp only
    rw [Run.bind_apply, Run.log, Run.recorded_apply, Run.andThen_done, Run.bind_apply, ← call]
    generalize hlog : World.after w _ = w₁
    obtain ⟨r, h', hp'⟩ := GuardedCall.handleFailure_standing (g := i.call) (w := w₁) i.call_steady
      (h.congr (by rw [← hlog]; rfl) (by rw [← hlog]; rfl)) f
    generalize i.call.handleFailure f w₁ = c at *
    rcases c with ⟨⟨⟩ | e | p, w₂⟩ <;>
      exact ⟨some r, h', hp.trans hp', fun _ => Option.some_ne_none r⟩

end Interception

/-! ### Whatever happens to a call -/

/-- What happens to a guarded call. -/
inductive Occurrence where
  /-- The service closes the call. -/
  | close (s : Status) (trailers : Metadata)
  /-- The listener is told of an event, about which it follows a plan. -/
  | hear (e : Event) (plan : Plan (Outcome Unit))

namespace GuardedCall

section

variable (g : GuardedCall)

/-- What those who deal with a guarded call are told when something happens to it, and the world
afterwards. -/
def happen : Occurrence → World → List Report × World
  | .close s trailers, w =>
    let c := g.asCall.close s trailers w
    ([.closed c.1], c.2)
  | .hear e plan, w =>
    let c := g.listening plan e w
    ((if g.Hears e w then plan.reports g.asCall w else []) ++ [.ended c.1], c.2)

/-- The same for several things that happen one after the other. -/
def happenAll : List Occurrence → World → List Report × World
  | [], w => ([], w)
  | x :: xs, w =>
    let now := g.happen x w
    let later := happenAll xs now.2
    (now.1 ++ later.1, later.2)

end

variable {g : GuardedCall} (hg : g.Steady)

include hg

theorem happen_standing (x : Occurrence) (h : Standing g.slot t w o) : ∃ o',
    Standing g.slot t (g.happen x w).2 o' ∧ Progress o o' (g.happen x w).1 := by
  cases x with
  | close s trailers =>
    obtain ⟨r, o', hr, h', hp⟩ := close_standing hg h s trailers
    refine ⟨o', h', ?_⟩
    rw [happen, hr]
    exact hp
  | hear e plan =>
    by_cases hh : g.Hears e w
    · obtain ⟨o', h', hp, -⟩ := listening_standing hg hh plan h
      exact ⟨o', h', by rwa [happen, if_pos hh]⟩
    · -- nobody hears it, so no plan is followed
      have hskipped : g.listening plan e w = (.done (), w) := listener_of_not_hears hh _
      refine ⟨o, ?_, .refl ..⟩
      rw [happen, hskipped]
      exact h

theorem happenAll_standing (xs : List Occurrence) (h : Standing g.slot t w o) : ∃ o',
    Standing g.slot t (g.happenAll xs w).2 o' ∧ Progress o o' (g.happenAll xs w).1 := by
  induction xs generalizing w o with
  | nil => exact ⟨o, h, .refl ..⟩
  | cons x xs ih =>
    obtain ⟨o₁, h₁, hp₁⟩ := happen_standing hg x h
    obtain ⟨o₂, h₂, hp₂⟩ := ih h₁
    exact ⟨o₂, h₂, hp₁.trans hp₂⟩

end GuardedCall

/-- The transport accepted a close, or the one close that was attempted failed and this was
reported. -/
def Accounted (t u : Transport) (reports : List Report) : Prop :=
  (∃ v, u.closes = t.closes ++ [v]) ∨
    u.closes = t.closes ∧ u.attempts = t.attempts + 1 ∧
      ∃ e, (∃ s trailers, (t.close s trailers).1 = .error e) ∧ ∃ report ∈ reports, report.Tells e

theorem Standing.accounted {r : CallResult} {reports : List Report}
    (h : Standing slot t w (some r)) (hp : Progress none (some r) reports) :
    Accounted t w.transport reports := by
  cases h with
  | @closed s trailers _ hs ht =>
    rcases r with e | ⟨⟩
    · obtain ⟨hcloses, hattempts⟩ := Transport.close_eq_error ht
      obtain ⟨report, hmem, htells⟩ := hp.told
      exact .inr ⟨hcloses, hattempts, e, ⟨s, trailers, by rw [ht]⟩, report, hmem, htells⟩
    · exact .inl ⟨_, Transport.close_eq_ok ht⟩

namespace Interception

variable (i : Interception)

/-- **No call is left unclosed silently.** Whatever is done with an intercepted call: when the start
of the service or the listener raises an error and neither comes back with an error, the transport
has accepted a close by then, or the one close that was attempted has failed, and the service or the
one who started or told the call was told so. -/
theorem unclosed_is_reported :
    (i.started.1.Raised → (∃ l, i.intercepted.1 = .done l) →
      Accounted i.world.transport i.intercepted.2.transport i.startReports) ∧
    ∀ xs e plan w reports, i.call.happenAll xs i.intercepted.2 = (reports, w) →
      i.call.Hears e w → (plan.perform i.call.asCall w).1.Raised →
      (i.call.listening plan e w).1 = .done () →
      Accounted i.world.transport (i.call.listening plan e w).2.transport
        (i.startReports ++ [.ended (i.intercepted.1.map fun _ => ())] ++ reports ++
          plan.reports i.call.asCall w) := by
  obtain ⟨o, h, hp, hr⟩ := i.intercepted_standing
  constructor
  · rintro hraised ⟨l, hl⟩
    obtain ⟨r, rfl⟩ := Option.ne_none_iff_exists'.1 (hr hraised)
    rw [hl] at hp
    exact h.accounted hp.of_ended
  · intro xs e plan w reports hxs hh hraised hdone
    obtain ⟨o₁, h₁, hp₁⟩ := GuardedCall.happenAll_standing (g := i.call) i.call_steady xs h
    rw [hxs] at h₁ hp₁
    obtain ⟨o₂, h₂, hp₂, hr₂⟩ :=
      GuardedCall.listening_standing (g := i.call) i.call_steady hh plan h₁
    obtain ⟨r, rfl⟩ := Option.ne_none_iff_exists'.1 (hr₂ hraised)
    rw [hdone] at hp₂
    exact h₂.accounted ((hp.trans hp₁).trans hp₂.of_ended)

/-- A call over a transport that cannot be closed. -/
def stuck : Interception where
  fallback := ⟨.declining, .silent⟩
  start _ := .finish (.done .silent)
  headers := .empty
  world := .fresh 8 { Transport.fresh ⟨"svc/M", .unary⟩ with
    closeFailure := fun _ => some (.transport "reset") }
  fresh := rfl

/-- The world after the service tried to close such a call. -/
def stuckWorld : World :=
  (stuck.call.happenAll [.close (.plain .ok "") .empty] stuck.intercepted.2).2

/-- A plan to fail. -/
def failing : Plan (Outcome Unit) :=
  .finish (.failed ⟨7, ⟨"Late"⟩, none, none, []⟩)

/-- The service learned that the call cannot be closed. -/
theorem unclosed_is_reported_stuck :
    Accounted stuck.world.transport (stuck.call.listening failing .complete stuckWorld).2.transport
      (stuck.startReports ++ [.ended (.done ())] ++
        [.closed (.done (.error (.transport "reset")))] ++ []) :=
  stuck.unclosed_is_reported.2 [.close (.plain .ok "") .empty] .complete failing stuckWorld _ rfl
    (.inl rfl) (Outcome.raised_failed _) rfl

/-- **An error is dropped although the call was never closed.** After the service failed to close
the call, the listener fails at the end of it and comes back without an error. -/
theorem dropped_unclosed : stuck.call.Hears .complete stuckWorld ∧
    (failing.perform stuck.call.asCall stuckWorld).1.Raised ∧
    (stuck.call.listening failing .complete stuckWorld).1 = .done () ∧
    (stuck.call.listening failing .complete stuckWorld).2.transport.closes = [] :=
  ⟨.inl rfl, Outcome.raised_failed _, rfl, rfl⟩

end Interception

end CallGuard
