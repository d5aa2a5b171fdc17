import CallGuard.Fault.Derive
import CallGuard.Proofs.Call.Atomic
import CallGuard.Proofs.Call.Escape

/-!
# Errors that no handler maps

When the handler of a guarded call declines, the call is closed with what is derived from the fault,
and the code of that is the code of the first status in the chain of the fault (`Cause.code`). An
error that escapes with a status of unknown code is made a fault first. A fault stays as it is and a
verdict becomes the source of a new fault, so that the chain is kept. Of every other error nothing
is kept but its text: a status among its causes, or one that it is, is lost, and the call is closed
with the code unknown.

* `Call.close_escaped`, `Call.close_plain` : what a close of an active guarded call comes to in
  terms of a close of the call below;
* `GuardedCall.handleFailure_of_closes` : the same for an error;
* `Call.close_unmapped` : with which code an escaped error that no handler maps closes the transport;
* `Call.close_unmapped_forgets` : an error that is a status does not keep its code.
-/

namespace CallGuard

/-- The handler declines every fault. -/
def Handler.Declines (h : Handler) : Prop :=
  ∀ f n, (h f n).value = .declined

theorem Fallback.resolve_of_declines {b : Fallback} (hb : b.handler.Declines) (f : Fault)
    (n : Label) : (b.resolve f n).value = f.derive := by
  rw [resolve, Recorded.bind_value, hb]
  rfl

/-- The worlds have the same transport, and the same states but in one slot. -/
structure World.AgreesOff (w : World) (slot : Nat) (w' : World) : Prop where
  transport : w'.transport = w.transport
  states : ∀ i, i ≠ slot → w'.states i = w.states i

namespace World.AgreesOff

variable {w w' : World} {slot : Nat}

theorem refl : w.AgreesOff slot w :=
  ⟨rfl, fun _ _ => rfl⟩

theorem after {α : Type} {t : Trace α} (h : w.AgreesOff slot w') :
    w.AgreesOff slot (w'.after t) :=
  ⟨h.transport, h.states⟩

theorem withState {s : CallState} (h : w.AgreesOff slot w') :
    w.AgreesOff slot (w'.withState slot s) :=
  ⟨h.transport, fun i hi => (if_neg hi).trans (h.states i hi)⟩

end World.AgreesOff

/-! ### Active calls -/

variable {slot : Nat} {b : Fallback} {s : Status} {w : World}

namespace Call

variable (inner : Call) (trailers : Metadata)

theorem close_plain {b : FragileFallback} (hw : w.states slot = .fresh)
    (hcause : (s.escapedCause w.nextLabel).value = none) : ∃ w₁, w.AgreesOff slot w₁ ∧
      (guarded slot b inner).close s trailers w = inner.close s trailers w₁ := by
  have hopen : ((w.after (s.escapedCause w.nextLabel)).states slot).closed = false := by
    rw [World.after_states, hw]
    rfl
  rw [close, closeGuarded_of_plain hcause, closeOnce_of_open hopen]
  exact ⟨_, .withState (.after .refl), rfl⟩

theorem close_escaped {b : FragileFallback} (hb : b.Steady) {cause : Fault}
    (hw : w.states slot = .fresh) (hcause : (s.escapedCause w.nextLabel).value = some cause) :
    ∃ n w₁, w.AgreesOff slot w₁ ∧
      (guarded slot b inner).close s trailers w = inner.close (b.resolve cause n).value.status
        (trailers.merge (b.resolve cause n).value.trailers) w₁ := by
  rw [close, closeGuarded_of_active hcause hw, FragileFallback.consult_of_steady hb,
    Run.bind_apply, Run.recorded_apply, Run.andThen_done, closeResolved,
    closeOnce_of_open (by rw [World.after_states, World.withState_states])]
  exact ⟨_, _, .withState (.after (.withState (.after .refl))), rfl⟩

end Call

/-- An error that is raised on an active call is resolved. When the call below can be closed with
the verdict, the error is done with. -/
theorem GuardedCall.handleFailure_of_closes {g : GuardedCall} (hg : g.fallback.Steady)
    (hw : w.states g.slot = .fresh) (f : Fault) : ∃ n w₁, w.AgreesOff g.slot w₁ ∧ ∀ w₂,
      g.inner.close (g.fallback.resolve f n).value.status
        (g.fallback.resolve f n).value.trailers w₁ = (.done (.ok ()), w₂) →
      g.handleFailure f w = (.done (), w₂) := by
  rw [handleFailure, Run.bind_apply, Run.onState_apply, hw, CallState.tryError_fresh,
    Run.andThen_done, if_pos rfl, FragileFallback.consult_of_steady hg, Run.bind_apply,
    Run.recorded_apply, Run.andThen_done, Call.closeResolved, Metadata.empty_merge, Run.bind_apply,
    Call.closeOnce_of_open (by rw [World.after_states, World.withState_states])]
  refine ⟨_, _, ?_, fun w₂ hclose => congrArg _ hclose⟩
  exact .withState (.after (.withState .refl))

/-! ### The code that is kept -/

/-- The error is made a fault with all that led to it when it escapes. -/
def Cause.isCarried : Cause → Bool
  | fault _ | verdict _ => true
  | _ => false

theorem Cause.toStatus_code_fault (f : Fault) :
    (fault f).toStatus.code = (f.source.map (·.toStatus.code)).getD .unknown := by
  rw [toStatus, chain_eq, List.findSome?_cons_of_isNone rfl, source]
  cases f.source with
  | none => rfl
  | some e =>
    rw [chainOf, Option.map_some, Option.getD_some, toStatus]
    cases e.chain.findSome? status? <;> rfl

/-- An escaping error becomes a fault that has its code, or the code unknown. -/
theorem Status.escapedCause_code {e : Cause} (hcode : s.code = .unknown)
    (hsource : s.source = some e) (n : Label) : ∃ cause,
      (s.escapedCause n).value = some cause ∧
      (Cause.fault cause).toStatus.code = if e.isCarried then e.toStatus.code else .unknown := by
  rw [escapedCause, if_pos hcode, hsource]
  cases e with
  | fault f => exact ⟨f, rfl, rfl⟩
  | verdict v => exact ⟨_, rfl, Cause.toStatus_code_fault _⟩
  | status _ | call _ | plain _ _ => exact ⟨_, rfl, Cause.toStatus_code_fault _⟩

theorem Call.close_transport_escaped {cause : Fault} (hb : b.handler.Declines)
    (hw : w.states slot = .fresh) (hcause : (s.escapedCause w.nextLabel).value = some cause)
    (trailers : Metadata) :
    ∃ trailers' w', (guarded slot b .transport).close s trailers w =
        (.done (w.transport.close cause.derive.status trailers').1, w') ∧
      w'.transport = (w.transport.close cause.derive.status trailers').2 := by
  obtain ⟨n, w₁, hw₁, hclose⟩ := close_escaped .transport trailers b.steady_steady hw hcause
  have hderive : (b.steady.resolve cause n).value = cause.derive :=
    Fallback.resolve_of_declines hb cause n
  rw [hderive, close_transport, Run.onTransport_apply, hw₁.transport] at hclose
  exact ⟨_, _, hclose, rfl⟩

/-- **Which code an error has that no handler maps.** The transport of a fresh call that is closed
with an escaped error is closed with the code of the first status in the chain of the error, or with
the code unknown if there is none, when the error is a fault or a verdict. Every other error loses
its code. -/
theorem Call.close_unmapped {e : Cause} (hb : b.handler.Declines) (hw : w.states slot = .fresh)
    (hcode : s.code = .unknown) (hsource : s.source = some e) (trailers : Metadata) :
    ∃ s' trailers' w', (guarded slot b .transport).close s trailers w =
        (.done (w.transport.close s' trailers').1, w') ∧
      w'.transport = (w.transport.close s' trailers').2 ∧
      s'.code = if e.isCarried then e.toStatus.code else .unknown := by
  obtain ⟨cause, hcause, hcode'⟩ := Status.escapedCause_code hcode hsource w.nextLabel
  obtain ⟨trailers', w', hclose, htransport⟩ := close_transport_escaped hb hw hcause trailers
  exact ⟨_, trailers', w', hclose, htransport, hcode'⟩

/-- An escaped error that is a status. -/
def escapedStatus : Status :=
  { Status.plain .unknown "escaped" with source := some (.status (.plain .notFound "missing")) }

/-- It is closed with the code unknown. -/
theorem Call.close_unmapped_status : ∃ s' trailers' w',
    (guarded 0 (Fallback.mk .declining .silent) .transport).close escapedStatus .empty calledWorld =
      (.done (calledWorld.transport.close s' trailers').1, w') ∧
    w'.transport = (calledWorld.transport.close s' trailers').2 ∧ s'.code = .unknown :=
  close_unmapped (b := ⟨.declining, .silent⟩) (e := .status (.plain .notFound "missing"))
    (fun _ _ => rfl) rfl rfl rfl .empty

/-- **An error that is a status does not keep its code**, even though that is the first status in
its chain. -/
theorem Call.close_unmapped_forgets :
    escapedStatus.code = .unknown ∧
    escapedStatus.source.map (·.toStatus.code) = some .notFound ∧
    ((guarded 0 (Fallback.mk .declining .silent) .transport).close escapedStatus .empty
      calledWorld).2.transport.closes.map (·.code) = [.unknown] := by
  refine ⟨rfl, ?_, ?_⟩
  · rw [escapedStatus, Option.map_some, Cause.toStatus, Cause.chain_eq]
    rfl
  · obtain ⟨cause, hcause, hcode⟩ :=
      Status.escapedCause_code (s := escapedStatus) rfl rfl calledWorld.nextLabel
    have hslot : calledWorld.states 0 = .fresh := rfl
    obtain ⟨trailers', w', hclose, htransport⟩ :=
      close_transport_escaped (b := ⟨.declining, .silent⟩) (fun _ _ => rfl) hslot hcause .empty
    rw [hclose, htransport]
    exact congrArg (fun c => [c]) hcode

end CallGuard
