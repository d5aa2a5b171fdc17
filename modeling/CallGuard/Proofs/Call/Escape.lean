import CallGuard.Fault.Derive
import CallGuard.Proofs.Call.Sequence

/-!
# Errors that escape with a status

A service may hand an error to its call in two ways. It fails, and the error is raised on the call
directly. Or it closes the call with the status of the error, from which the guarded call has to get
the error back (`Status.escapedCause`). When the code is unknown, both ways lead to the same: the
fault that is resolved, what is written about it, and the status that the transport is closed with.
Only the trailers can differ, as a close may come with trailers of its own.

* `Operation.Answers` : a fresh call answers an error;
* `Operation.answers_fail`, `Operation.answers_close` : it does so in both ways;
* `escape_agrees` : both ways agree, for faults and for verdicts.
-/

namespace CallGuard

/-- The transport accepts the next close. -/
def Transport.Accepts (t : Transport) : Prop :=
  t.closes = [] ∧ t.closeFailure t.attempts = none

theorem Transport.Accepts.close {t : Transport} (ht : t.Accepts) (s : Status)
    (trailers : Metadata) :
    (t.close s trailers).1 = .ok () ∧ (t.close s trailers).2.closes = [⟨s, trailers⟩] := by
  obtain ⟨hcloses, hfailure⟩ := ht
  simp [Transport.close, hfailure, hcloses]

theorem Status.escapedCause_entries (s : Status) (n : Label) : (s.escapedCause n).entries = [] := by
  by_cases hc : s.code = .unknown
  · rcases hs : s.source with _ | (_ | _ | _ | _ | _) <;> simp only [escapedCause, hc, hs] <;> rfl
  · rw [escapedCause, if_neg hc]
    rfl

/-- A call answers an error: it has the error resolved, which is noted by `es`, and the transport
accepts to be closed with the status of the verdict and some trailers. -/
structure Operation.Answers (slot : Nat) (b : Fallback) (op : Operation) (cause : Fault)
    (v : Verdict) (trailers : Metadata) (es : List Entry) (w : World) : Prop where
  /-- The error is resolved and the transport is closed, and nothing else happens. -/
  effects : effects (op.acts slot b w) = [.resolved cause v, .closed v.status trailers (.ok ())]
  /-- Whoever performs the operation is told that it worked. -/
  outcome : (op.run slot b w).1 = .done (.ok ())
  journal : (op.run slot b w).2.journal = w.journal ++ es
  closes : (op.run slot b w).2.transport.closes = [⟨v.status, trailers⟩]
  state : (op.run slot b w).2.states slot = ⟨true, true⟩

variable {slot slot' : Nat} {b : Fallback} {cause : Fault} {s : Status} {trailers : Metadata}
  {w w' : World} {t : Trace Verdict}

/-- What is seen of an error that is answered. -/
def answeredActs (cause : Fault) (v : Verdict) (trailers : Metadata) : List Act :=
  [.resolved cause v, .markedClosed true, .closed v.status trailers (.ok ())]

theorem Point.follow_resolving_accepted (why : Reason) (n : Nat)
    (hs : w.states slot = ⟨true, false⟩) (ht : w.transport.Accepts)
    (hv : b.resolve cause w.nextLabel = t) : ∃ w₁,
      (resolving why cause trailers).follow slot b (n + 3) w =
        (answeredActs cause t.value (trailers.merge t.value.trailers),
          finished (.done (.ok ())), w₁) ∧
      w₁.journal = w.journal ++ t.entries ∧
      w₁.transport.closes = [⟨t.value.status, trailers.merge t.value.trailers⟩] ∧
      w₁.states slot = ⟨true, true⟩ := by
  obtain ⟨hr, hcloses⟩ := ht.close t.value.status (trailers.merge t.value.trailers)
  have hreport : ∀ m, why.report (.ok ()) m = ⟨.done (.ok ()), 0, []⟩ := by
    intro m
    cases why <;> rfl
  have hresolve : (resolving why cause trailers).step slot b w =
      (some (.resolved cause t.value),
        marking why t.value.status (trailers.merge t.value.trailers), w.after t) := by
    rw [step, hv]
  have hmark := follow_marking_eq (b := b) why n (w := w.after t) (by rw [World.after_states, hs])
    (Prod.ext hr rfl)
  rw [hreport] at hmark
  rw [follow_succ hresolve, hmark]
  refine ⟨_, rfl, ?_, hcloses, ?_⟩
  · exact List.append_nil _
  · simp [hs]

namespace Operation

/-- An operation that gets to resolve an error of a fresh call answers it. -/
theorem answers_of_follow {op : Operation} {w₁ : World} {why : Reason} {n : Nat}
    (hop : op.start.follow slot b length w = (.triedError true ::
      ((Point.resolving why cause trailers).follow slot b (n + 3) w₁).1,
      ((Point.resolving why cause trailers).follow slot b (n + 3) w₁).2))
    (hs : w₁.states slot = ⟨true, false⟩) (ht : w₁.transport.Accepts)
    (hjournal : w₁.journal = w.journal) (hv : b.resolve cause w₁.nextLabel = t) :
    op.Answers slot b cause t.value (trailers.merge t.value.trailers) t.entries w := by
  obtain ⟨w₂, hfollow, hj, hcloses, hstate⟩ := Point.follow_resolving_accepted why n hs ht hv
  rw [hfollow] at hop
  obtain ⟨hacts, hrun⟩ := Point.run_eq_of_follow hop
  constructor
  · rw [hacts]
    rfl
  · rw [hrun]
  · rw [hrun, hj, hjournal]
  · rw [hrun, hcloses]
  · rw [hrun, hstate]

theorem answers_fail (hw : w.states slot = .fresh) (ht : w.transport.Accepts)
    (hv : b.resolve cause w.nextLabel = t) :
    (fail cause).Answers slot b cause t.value t.value.trailers t.entries w := by
  have hs : (Point.raising cause).step slot b w =
      (some (.triedError true), .resolving .failure cause .empty,
        w.withState slot ⟨true, false⟩) := by
    simp [Point.step, hw, CallState.tryError_fresh]
  have hfollow : (fail cause).start.follow slot b length w = _ := Point.follow_succ hs
  have h := answers_of_follow (n := 2) hfollow (World.withState_states ..) ht rfl hv
  rwa [Metadata.empty_merge] at h

theorem answers_close {made : Trace (Option Fault)} (hw : w.states slot = .fresh)
    (ht : w.transport.Accepts) (hmade : s.escapedCause w.nextLabel = made)
    (hcause : made.value = some cause) (hv : b.resolve cause (w.nextLabel + made.minted) = t) :
    (close s trailers).Answers slot b cause t.value (trailers.merge t.value.trailers) t.entries
      w := by
  have hinspect : (Point.inspecting s trailers).step slot b w =
      (none, .escaping cause s trailers, w.after made) := by
    simp [Point.step, hmade, hcause]
  have hescape : (Point.escaping cause s trailers).step slot b (w.after made) =
      (some (.triedError true), .resolving .service cause trailers,
        (w.after made).withState slot ⟨true, false⟩) := by
    simp [Point.step, hw, CallState.tryError_fresh]
  have hjournal : (w.after made).journal = w.journal := by
    rw [World.after, ← hmade, Status.escapedCause_entries, List.append_nil]
  have hfollow : (close s trailers).start.follow slot b length w = (.triedError true ::
      ((Point.resolving .service cause trailers).follow slot b 4
        ((w.after made).withState slot ⟨true, false⟩)).1,
      ((Point.resolving .service cause trailers).follow slot b 4
        ((w.after made).withState slot ⟨true, false⟩)).2) := by
    rw [start, length, Point.follow_succ hinspect, Point.follow_succ hescape]
    rfl
  exact answers_of_follow (n := 1) hfollow (World.withState_states ..) ht hjournal hv

end Operation

/-- **An error that escapes with a status is answered like one that is raised.** On fresh calls
whose transports accept a close, a fault is resolved to the same verdict and noted in the same way,
whether it is raised or the call is closed with its status, if that has the code unknown. The same
holds for a verdict that is the source of such a status and the fault that is made of it. A close
keeps trailers of its own where the verdict has none of their key. The calls may live in different
worlds, in which the same label is the next one, so that a handler takes the same labels in both. -/
theorem escape_agrees (hw : w.states slot = .fresh) (ht : w.transport.Accepts)
    (hw' : w'.states slot' = .fresh) (ht' : w'.transport.Accepts)
    (hlabel : w'.nextLabel = w.nextLabel) (b : Fallback) :
    (∀ f trailers, (Cause.fault f).toStatus.code = .unknown → ∃ v es,
      (Operation.close (Cause.fault f).toStatus trailers).Answers slot b f v
        (trailers.merge v.trailers) es w ∧
      (Operation.fail f).Answers slot' b f v v.trailers es w') ∧
    ∀ e s trailers, s.code = .unknown → s.source = some (.verdict e) → ∀ made,
      Fault.ofVerdict e w'.nextLabel = made → ∃ v es,
      (Operation.close s trailers).Answers slot b made.value v (trailers.merge v.trailers) es w ∧
      (Operation.fail made.value).Answers slot' b made.value v v.trailers es (w'.after made) := by
  constructor
  · intro f trailers hcode
    have hsource : (Cause.fault f).toStatus.source = some (.fault f) := Cause.toStatus_source _
    have hcause : (Cause.fault f).toStatus.escapedCause w.nextLabel = ⟨some f, 0, []⟩ := by
      rw [Status.escapedCause, if_pos hcode, hsource]
      rfl
    refine ⟨_, _, Operation.answers_close hw ht hcause rfl rfl, ?_⟩
    exact Operation.answers_fail hw' ht' (by rw [hlabel]; rfl)
  · rintro e s trailers hcode hsource made rfl
    have hcause : s.escapedCause w.nextLabel =
        ⟨some (Fault.ofVerdict e w'.nextLabel).value, 1, []⟩ := by
      rw [Status.escapedCause, if_pos hcode, hsource, hlabel]
      rfl
    refine ⟨_, _, Operation.answers_close hw ht hcause rfl rfl, ?_⟩
    exact Operation.answers_fail (w := w'.after _) hw' ht' (by rw [← hlabel]; rfl)

/-- A world with one fresh call. -/
def calledWorld : World :=
  .fresh 8 (.fresh ⟨"svc/M", .unary⟩)

/-- A fault whose chain already holds a status of unknown code. -/
def statusFault : Fault :=
  ⟨7, ⟨"Io"⟩, some "disk", some (.status (.plain .unknown "lost")), []⟩

/-- The fault escapes with that status and trailers beside it, or is raised. So does a verdict. -/
theorem escape_agrees_derived :
    (∃ v es,
      (Operation.close (Cause.fault statusFault).toStatus (Metadata.empty.add "id" "42")).Answers 0
        ⟨.declining, .silent⟩ statusFault v ((Metadata.empty.add "id" "42").merge v.trailers) es
        calledWorld ∧
      (Operation.fail statusFault).Answers 0 ⟨.declining, .silent⟩ statusFault v v.trailers es
        calledWorld) ∧
    ∃ v es,
      (Operation.close ⟨.unknown, "", [], .empty, some (.verdict default)⟩ .empty).Answers 0
        ⟨.declining, .silent⟩ (Fault.ofVerdict default 8).value v (Metadata.empty.merge v.trailers)
        es calledWorld ∧
      (Operation.fail (Fault.ofVerdict default 8).value).Answers 0 ⟨.declining, .silent⟩
        (Fault.ofVerdict default 8).value v v.trailers es
        (calledWorld.after (Fault.ofVerdict default 8)) := by
  have hchain : (Cause.fault statusFault).chain =
      [.fault statusFault, .status (.plain .unknown "lost")] := by
    rw [Cause.chain_eq, Cause.source, statusFault, chainOf, Cause.chain_eq]
    rfl
  have hcode : (Cause.fault statusFault).toStatus.code = .unknown := by
    rw [Cause.toStatus, hchain]
    rfl
  have hslot : calledWorld.states 0 = .fresh := rfl
  have haccepts : calledWorld.transport.Accepts := ⟨rfl, rfl⟩
  obtain ⟨hfault, hverdict⟩ :=
    escape_agrees hslot haccepts hslot haccepts rfl ⟨.declining, .silent⟩
  exact ⟨hfault _ _ hcode, hverdict default _ _ rfl rfl _ rfl⟩

end CallGuard
