import CallGuard.Advice.Dispatch
import CallGuard.Proofs.Fault.Derivation

/-!
# What becomes of a fault that is handled

A dispatcher asks one method about a fault. Whatever this method does, the dispatcher comes back with
a verdict or declines, and what it says and tells its observer depends on how the method ended and on
nothing else.

* `Registry.Ends` : how the method that is responsible for a fault ends, where a panic is a failure
  with a fault of its own;
* `Answer.Means`, `Fault.Keeps` : what an answer and a failure become;
* `Dispatcher.Responds` : what the observer is told and what is said to the fault then;
* `Dispatcher.handle_responds` : a dispatcher does so, and no client can tell one failure of a method
  from another.
-/

namespace CallGuard

/-- The verdict that an answer means. Trailers that another fault brings are left out. -/
inductive Answer.Means : Answer → Verdict → Prop
  | status (s : Status) : Means (.status s) ⟨s, .empty⟩
  | verdict (v : Verdict) : Means (.verdict v) v
  | fault (g : Fault) : Means (.fault g) ⟨g.derive.status, .empty⟩

theorem Answer.means_toVerdict (a : Answer) : a.Means a.toVerdict := by
  cases a with
  | status s => exact .status s
  | verdict v => exact .verdict v
  | fault g => exact .fault g

/-- What is reported of a failure while a fault was handled: the failure itself when it is that
fault, and otherwise the failure with the fault as one more suppressed error. -/
structure Fault.Keeps (handled failure kept : Fault) : Prop where
  kind : kept.kind = failure.kind
  message : kept.message = failure.message
  source : kept.source = failure.source
  same : failure.isSame handled = true → kept = failure
  other : failure.isSame handled = false →
    kept.suppressed = failure.suppressed ++ [.fault handled]

namespace Registry

variable (r : Registry) (f : Fault) (n : Label) {x y : Except Fault (Option Answer)}

/-- How the method that is responsible for a fault ends when `n` is the first label that is not in
use. Without such a method there is no answer. -/
inductive Ends : Except Fault (Option Answer) → Prop
  | unbound (hb : r.resolve? f.kind = none) : Ends (.ok none)
  | returned {b : Binding} {answer : Option Answer} {minted : Nat} {written : List Entry}
      (hb : r.resolve? f.kind = some b)
      (h : b.method.run (b.bind r.hierarchy f) n = ⟨.done answer, minted, written⟩) :
      Ends (.ok answer)
  | failed {b : Binding} {failure : Fault} {minted : Nat} {written : List Entry}
      (hb : r.resolve? f.kind = some b)
      (h : b.method.run (b.bind r.hierarchy f) n = ⟨.failed failure, minted, written⟩) :
      Ends (.error failure)
  | panicked {b : Binding} {p : Payload} {minted : Nat} {written : List Entry}
      (hb : r.resolve? f.kind = some b)
      (h : b.method.run (b.bind r.hierarchy f) n = ⟨.panicked p, minted, written⟩) :
      Ends (.error ⟨n + minted, Kind.panicked, some p.message, none, []⟩)

variable {r f n}

theorem Ends.unique (hx : r.Ends f n x) (hy : r.Ends f n y) : x = y := by
  cases hx <;> cases hy <;> simp_all

end Registry

namespace Dispatcher

variable {r : Registry} {f : Fault} {n : Label} {text : String}
  {x : Except Fault (Option Answer)} {notices : List Notification} {reply : Reply}

/-- What the observer is told and what is said to a fault after the responsible method ended.
Failures are described by a fixed text. -/
inductive Responds (text : String) (f : Fault) :
    Except Fault (Option Answer) → List Notification → Reply → Prop
  | passed : Responds text f (.ok none) [] .declined
  | answered {a : Answer} {v : Verdict} (hv : a.Means v) :
      Responds text f (.ok (some a)) [.dispatched f v] (.answered v)
  | failed {failure kept : Fault} (hk : f.Keeps failure kept) :
      Responds text f (.error failure) [.handlerFailed kept]
        (.answered ⟨⟨.internal, text, [], .empty, some (.fault kept)⟩, .empty⟩)

theorem Responds.ne_panicked (h : Responds text f x notices reply) (p : Payload) :
    reply ≠ .panicked p := by
  cases h <;> exact nofun

/-- Whichever observer there is, the computation ends with the reply, and after all else it tells
the observer the notices, once each. -/
def Tells (x : Observer → Recorded Reply) (n : Label) (notices : List Notification)
    (reply : Reply) : Prop :=
  ∃ minted written, ∀ observer, x observer n =
    ⟨reply, minted, written ++ notices.flatMap observer⟩

/-- What is done first does not know the observer. -/
theorem Tells.after {α : Type} {y : Recorded α} {a : α} {k : Nat} {es : List Entry}
    {x : Observer → α → Recorded Reply} (hy : y n = ⟨a, k, es⟩)
    (h : Tells (fun observer => x observer a) (n + k) notices reply) :
    Tells (fun observer => y >>= x observer) n notices reply := by
  obtain ⟨minted, written, h⟩ := h
  refine ⟨k + minted, es ++ written, fun observer => ?_⟩
  have hx : x observer a (n + k) = ⟨reply, minted, written ++ notices.flatMap observer⟩ :=
    h observer
  change (⟨_, _, _⟩ : Trace Reply) = _
  rw [hy]
  dsimp only
  rw [hx, List.append_assoc]

theorem tells_nothing : Tells (fun _ => pure .declined) n [] .declined :=
  ⟨0, [], fun _ => rfl⟩

theorem tells_notice (notice : Notification) (reply : Reply) :
    Tells (fun observer => do Recorded.write (observer notice); return reply) n [notice] reply :=
  ⟨0, [], fun _ => rfl⟩

theorem tells_failed (r : Registry) (text : String) (f failure : Fault) (n : Label) :
    ∃ notices reply, Responds text f (.error failure) notices reply ∧
      Tells (fun observer => do
        return .answered (← failureVerdict ⟨r, observer, text⟩ f failure)) n notices reply := by
  cases hsame : failure.isSame f with
  | true =>
    have hk : f.Keeps failure failure :=
      ⟨rfl, rfl, rfl, fun _ => rfl, fun hother => (nomatch hsame.symm.trans hother)⟩
    refine ⟨_, _, .failed hk, ?_⟩
    simp only [failureVerdict, hsame, if_true, pure_bind, bind_assoc]
    exact tells_notice ..
  | false =>
    have hk : f.Keeps failure (failure.withSuppressed (.fault f) n).value :=
      ⟨rfl, rfl, rfl, fun hother => (nomatch hsame.symm.trans hother), fun _ => rfl⟩
    refine ⟨_, _, .failed hk, ?_⟩
    simp only [failureVerdict, hsame, Bool.false_eq_true, if_false, pure_bind, bind_assoc]
    exact .after rfl (tells_notice ..)

/-- What a dispatcher goes on to do after the responsible method ended. -/
def conclude (d : Dispatcher) (f : Fault) : Outcome (Option Answer) → Recorded Reply
  | .done none => return .declined
  | .done (some a) => do
    Recorded.write (d.observer (.dispatched f a.toVerdict))
    return .answered a.toVerdict
  | .failed failure => return .answered (← d.failureVerdict f failure)
  | .panicked p => return .answered (← d.failureVerdict f (← Fault.ofPanic p))

theorem handle_eq (d : Dispatcher) (f : Fault) : d.handle f = (do
    Recorded.log .debug "Exception caught during call execution"
      [("error_type", .text f.kind.name), ("error", .text f.text)]
    d.conclude f (← d.invoke f)) := by
  refine bind_congr fun _ => bind_congr fun o => ?_
  rcases o with (_ | _) | _ | _ <;> rfl

/-- The log events and the method come first. What is left depends on how the method ended. -/
theorem Tells.handle {b : Binding} {o : Outcome (Option Answer)} {minted : Nat}
    {written : List Entry} (hb : r.resolve? f.kind = some b)
    (hrun : b.method.run (b.bind r.hierarchy f) n = ⟨o, minted, written⟩)
    (h : Tells (fun observer => conclude ⟨r, observer, text⟩ f o) (n + minted) notices reply) :
    Tells (fun observer => handle ⟨r, observer, text⟩ f) n notices reply := by
  simp only [handle_eq, invoke, hb, bind_assoc]
  exact .after rfl (.after rfl (.after hrun h))

theorem handle_ends (r : Registry) (text : String) (f : Fault) (n : Label) :
    ∃ x notices reply, r.Ends f n x ∧ Responds text f x notices reply ∧
      Tells (fun observer => handle ⟨r, observer, text⟩ f) n notices reply := by
  cases hb : r.resolve? f.kind with
  | none =>
    refine ⟨_, _, _, .unbound hb, .passed, ?_⟩
    simp only [handle_eq, invoke, hb, pure_bind]
    exact .after rfl tells_nothing
  | some b =>
    obtain ⟨⟨o, minted, written⟩, hrun⟩ : ∃ t, b.method.run (b.bind r.hierarchy f) n = t := ⟨_, rfl⟩
    rcases o with (_ | a) | failure | p
    · exact ⟨_, _, _, .returned hb hrun, .passed, .handle hb hrun tells_nothing⟩
    · refine ⟨_, _, _, .returned hb hrun, .answered a.means_toVerdict, .handle hb hrun ?_⟩
      exact tells_notice ..
    · obtain ⟨notices, reply, hresponds, htells⟩ := tells_failed r text f failure (n + minted)
      exact ⟨_, _, _, .failed hb hrun, hresponds, .handle hb hrun htells⟩
    · -- the fault for the panic takes the next label
      obtain ⟨notices, reply, hresponds, htells⟩ := tells_failed r text f
        ⟨n + minted, Kind.panicked, some p.message, none, []⟩ (n + minted + 1)
      exact ⟨_, _, _, .panicked hb hrun, hresponds, .handle hb hrun (.after rfl htells)⟩

/-- Methods that panic have failed, so a dispatcher never panics itself. -/
theorem handle_ne_panicked (d : Dispatcher) (f : Fault) (n : Label) (p : Payload) :
    (d.handle f n).value ≠ .panicked p := by
  obtain ⟨x, notices, reply, -, hresponds, minted, written, hsame⟩ :=
    handle_ends d.registry d.failureDescription f n
  have hreply : d.handle f n = ⟨reply, _, _⟩ := hsame d.observer
  rw [hreply]
  exact hresponds.ne_panicked p

/-- **What a dispatcher says is decided by how one method ends.** It never panics. It declines,
without a word to its observer, exactly when no method is responsible for the fault or the one that
is has no answer. An answer becomes the verdict that it means, and a failure becomes an internal
status with a fixed text, whose source keeps the handled fault; the observer is told of each once.
All failures of all methods look the same to a client. -/
theorem handle_responds (r : Registry) (text : String) (f : Fault) (n : Label) :
    ∃ x notices reply, r.Ends f n x ∧ Responds text f x notices reply ∧
      Tells (fun observer => handle ⟨r, observer, text⟩ f) n notices reply ∧
      (∀ p, reply ≠ .panicked p) ∧
      (r.Ends f n (.ok none) ↔ reply = .declined) ∧ (r.Ends f n (.ok none) ↔ notices = []) ∧
      ∀ failure, r.Ends f n (.error failure) → ∃ v,
        reply = .answered v ∧ v.visible = .ofStatus (.plain .internal text) := by
  obtain ⟨x, notices, reply, hends, hresponds, htells⟩ := handle_ends r text f n
  refine ⟨x, notices, reply, hends, hresponds, htells, hresponds.ne_panicked, ?_⟩
  cases hresponds with
  | passed =>
    refine ⟨iff_of_true hends rfl, iff_of_true hends rfl, fun failure hfailed => ?_⟩
    cases hends.unique hfailed
  | @answered a v hv =>
    have hnot : ¬r.Ends f n (.ok none) := fun hnone => nomatch hends.unique hnone
    refine ⟨iff_of_false hnot nofun, iff_of_false hnot nofun, fun failure hfailed => ?_⟩
    cases hends.unique hfailed
  | @failed failure kept hk =>
    have hnot : ¬r.Ends f n (.ok none) := fun hnone => nomatch hends.unique hnone
    exact ⟨iff_of_false hnot nofun, iff_of_false hnot nofun, fun _ _ => ⟨_, rfl, rfl⟩⟩

/-- A registry with one method, for all faults, that fails with what it makes of its argument. -/
def rethrowing (change : Fault → Recorded Fault) : Registry where
  hierarchy := .empty
  bindings := [(Kind.any, ⟨0, 0, "Advice", "rethrow", [], [Kind.any], fun args => do
    match args.error? with
    | some f => return .failed (← change f)
    | none => return .done none⟩)]
  nodup := by simp

/-- A fault that was raised while another error was on its way. -/
def raised : Fault :=
  ⟨3, ⟨"Lookup"⟩, none, none, [.call .alreadyClosed]⟩

theorem ends_rethrowing (change : Fault → Recorded Fault) (n : Label) :
    (rethrowing change).Ends raised n (.error (change raised n).value) := by
  have hdistance : Hierarchy.empty.distance Kind.any raised.kind = some 1 := by decide +kernel
  have haccepts : Hierarchy.empty.isAssignable Kind.any raised.kind = true := by
    rw [Hierarchy.isAssignable, hdistance, Option.isSome_some]
  obtain ⟨b, hb⟩ : ∃ b, (rethrowing change).bindings = [(Kind.any, b)] := ⟨_, rfl⟩
  have hresolve : (rethrowing change).resolve? raised.kind = some b := by
    simp [Registry.resolve?, Registry.resolveBound?, Registry.candidates, hb, Registry.nearest?,
      show (rethrowing change).hierarchy = .empty from rfl, hdistance]
  have hrun : b.method.run (b.bind .empty raised) n = ⟨.failed (change raised n).value,
      (change raised n).minted, (change raised n).entries ++ []⟩ := by
    cases hb
    rw [Binding.bind, Arguments.fill, if_pos haccepts]
    rfl
  exact .failed hresolve hrun

/-- A fault that is thrown again is reported as it is. With another source it is another fault, and
the one that was handled is suppressed in its favour. -/
theorem handle_responds_rethrown :
    (∃ reply, Tells (fun observer => handle ⟨rethrowing pure, observer, "failed"⟩ raised) 8
      [.handlerFailed raised] reply) ∧
    ∃ kept reply, kept.suppressed = [.call .alreadyClosed, .fault raised] ∧
      Tells (fun observer => handle
        ⟨rethrowing (·.withSource (.call .alreadyClosed)), observer, "failed"⟩ raised) 8
        [.handlerFailed kept] reply := by
  constructor
  · obtain ⟨x, notices, reply, hx, hresponds, htells, -⟩ :=
      handle_responds (rethrowing pure) "failed" raised 8
    obtain rfl := hx.unique (ends_rethrowing pure 8)
    cases hresponds with
    | failed hk =>
      rw [hk.same rfl] at htells
      exact ⟨_, htells⟩
  · obtain ⟨x, notices, reply, hx, hresponds, htells, -⟩ :=
      handle_responds (rethrowing (·.withSource (.call .alreadyClosed))) "failed" raised 8
    obtain rfl := hx.unique (ends_rethrowing (·.withSource (.call .alreadyClosed)) 8)
    cases hresponds with
    | failed hk => exact ⟨_, _, hk.other rfl, htells⟩

end Dispatcher

end CallGuard
