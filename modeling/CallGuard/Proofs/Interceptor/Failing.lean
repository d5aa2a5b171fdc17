import CallGuard.Proofs.Interceptor.Delivery

/-!
# Which errors come back from a guarded call

Errors of a service and its listener are resolved and close the call, or they are dropped. What
comes back to the one who started the service, told the listener of an event or reported an error is
at most that the close failed: no panic and no other error.

The service, the listener and the fallback are arbitrary here, and so is what the transport fails
with, but hooks of the observer and closes of the transport come back. The call counts as active or
not at the moment at which the error was raised, since whoever raised it may have closed the call
before.

* `GuardedCall.FailsToClose` : an error was raised on the active call, and the close failed;
* `GuardedCall.Surfaces` : only that comes back, and always;
* `GuardedCall.deal_surfaces` : so it is with whatever is done with a call, in any world;
* `GuardedCall.pairwise_dealAll` : it happens once at most while one thing is done after the other;
* `Interceptor.failures_surface` : both for an intercepted call, from its start on.
-/

namespace CallGuard

/-! ### Computations that return -/

/-- The computation comes back with a value. -/
def Run.Returns {α : Type} (x : Run α) : Prop :=
  ∀ w, ∃ a, (x w).1 = .done a

theorem Run.Returns.bind {α β : Type} {x : Run α} {f : α → Run β} (hx : x.Returns)
    (hf : ∀ a, (f a).Returns) : (x >>= f).Returns := by
  intro w
  obtain ⟨a, ha⟩ := hx w
  rw [bind_of_done ha]
  exact hf a _

theorem Run.returns_pure {α : Type} (a : α) : (pure a : Run α).Returns :=
  fun _ => ⟨a, rfl⟩

theorem Run.returns_recorded {α : Type} (x : Recorded α) : (recorded x).Returns :=
  fun _ => ⟨_, rfl⟩

namespace Call

variable {slot : Nat} {next : Status → Metadata → Run CallResult}

theorem returns_closeOnce (hnext : ∀ s trailers, (next s trailers).Returns) (s : Status)
    (trailers : Metadata) : (closeOnce slot next s trailers).Returns := by
  refine .bind (fun _ => ⟨_, rfl⟩) ?_
  intro first
  cases first with
  | true => exact hnext s trailers
  | false => exact Run.returns_pure _

theorem returns_closeGuarded (hnext : ∀ s trailers, (next s trailers).Returns)
    {b : FragileFallback} (hb : b.Steady) (s : Status) (trailers : Metadata) :
    (closeGuarded slot b next s trailers).Returns := by
  refine (Run.returns_recorded _).bind ?_
  intro cause?
  cases cause? with
  | none => exact returns_closeOnce hnext s trailers
  | some cause =>
    refine .bind (fun _ => ⟨_, rfl⟩) ?_
    intro won
    cases won with
    | true =>
      have hconsult : (b.consult cause).Returns := by
        rw [FragileFallback.consult_of_steady hb]
        exact Run.returns_recorded _
      exact hconsult.bind fun v => returns_closeOnce hnext _ _
    | false =>
      refine .bind (fun _ => ⟨_, rfl⟩) ?_
      intro phase
      split
      · exact (Run.returns_recorded _).bind fun _ => Run.returns_pure _
      · exact returns_closeOnce hnext s trailers

end Call

/-- A close comes to a result where closes of the transport and hooks come back. -/
theorem GuardedCall.returns_close {g : GuardedCall} (hg : g.Steady) (s : Status)
    (trailers : Metadata) : (g.asCall.close s trailers).Returns := by
  refine Call.returns_closeGuarded ?_ hg.fallback s trailers
  rw [hg.transport]
  exact fun _ _ _ => ⟨_, rfl⟩

/-! ### What comes back -/

theorem CallState.phase_eq_active_iff {s : CallState} : s.phase = .active ↔ s = .fresh := by
  rcases s with ⟨_ | _, _ | _⟩ <;> simp [phase, fresh]

section

variable {α : Type} {o : Outcome α} {n m m' : Label} {f f' : Fault}

theorem Outcome.RaisedAs.raised (h : o.RaisedAs n f m) : o.Raised := by
  cases h with
  | failed => exact raised_failed f
  | panicked p => exact raised_panicked p

theorem Outcome.RaisedAs.unique (h : o.RaisedAs n f m) (h' : o.RaisedAs n f' m') :
    f = f' ∧ m = m' := by
  cases h <;> cases h' <;> exact ⟨rfl, rfl⟩

end

theorem Report.Tells.unique {e e' : CallError} {o : Outcome Unit} (h : Tells e (.ended o))
    (h' : Tells e' (.ended o)) : e = e' := by
  obtain ⟨f, rfl, -, -, hf⟩ := h
  obtain ⟨_, ⟨⟩, -, -, hf'⟩ := h'
  cases hf.symm.trans hf'
  rfl

namespace GuardedCall

variable {α : Type} {g : GuardedCall} {own : Outcome α × World} {w : World} {f : Fault}
  {e : CallError}

/-- A computation ended with an error while the call was active, and the transport fails with `e` to
close with what the error is resolved to. -/
def FailsToClose (g : GuardedCall) (own : Outcome α × World) (e : CallError) : Prop :=
  ∃ f n, own.1.RaisedAs own.2.nextLabel f n ∧ (own.2.states g.slot).phase = .active ∧
    (own.2.transport.close (g.fallback.resolve f n).value.status
      (g.fallback.resolve f n).value.trailers).1 = .error e

/-- What comes back from something that is done with a guarded call, when what others did in the
course of it ended like `own`. -/
structure Surfaces (g : GuardedCall) (own : Outcome α × World) (c : Outcome Unit × World) :
    Prop where
  /-- No panic comes back, and no error but a failure to close. -/
  ended : c.1 = .done () ∨ ∃ e, Report.Tells e (.ended c.1)
  /-- That comes back exactly when an error could not close the active call. -/
  tells_iff : ∀ e, Report.Tells e (.ended c.1) ↔ g.FailsToClose own e
  /-- The call is errored and closed then. -/
  state : ∀ e, Report.Tells e (.ended c.1) → c.2.states g.slot = ⟨true, true⟩

theorem Surfaces.done_or_closed {c : Outcome Unit × World} (h : g.Surfaces own c) :
    c.1 = .done () ∨ (c.2.states g.slot).closed = true := by
  rcases h.ended with hdone | ⟨e, he⟩
  · exact .inl hdone
  · exact .inr (by rw [h.state e he])

theorem Surfaces.of_done (hown : ∀ e, ¬g.FailsToClose own e) {c : Outcome Unit × World}
    (hc : c.1 = .done ()) : g.Surfaces own c := by
  have htells : ∀ e, ¬Report.Tells e (.ended c.1) := by
    rintro e ⟨f, hf, -⟩
    cases hc.symm.trans hf
  exact ⟨.inl hc, fun e => iff_of_false (htells e) (hown e), fun e he => absurd he (htells e)⟩

theorem Surfaces.of_not_raised {a : α} (hown : own.1 = .done a) (w : World) :
    g.Surfaces own (.done (), w) := by
  refine .of_done ?_ rfl
  rintro e ⟨f, n, hf, -⟩
  exact hf.raised a hown

/-- **What comes back from handling an error** that was raised in the same state of the call. -/
theorem surfaces_handleFailure (hg : g.Steady)
    (hf : own.1.RaisedAs own.2.nextLabel f w.nextLabel) (hstates : w.states = own.2.states)
    (ht : w.transport = own.2.transport) : g.Surfaces own (g.handleFailure f w) := by
  generalize hv : (g.fallback.resolve f w.nextLabel).value = v
  cases hr : w.transport.close v.status v.trailers with
  | mk r u =>
    have hfails : ∀ e, g.FailsToClose own e ↔
        (w.states g.slot).phase = .active ∧ r = .error e := by
      intro e
      have hclose : (own.2.transport.close v.status v.trailers).1 = r := by rw [← ht, hr]
      rw [hstates, ← hclose, ← hv]
      constructor
      · rintro ⟨f', n, hf', hactive⟩
        obtain ⟨rfl, rfl⟩ := hf.unique hf'
        exact hactive
      · intro hactive
        exact ⟨f, w.nextLabel, hf, hactive⟩
    by_cases hs : (w.states g.slot).phase = .active
    · obtain ⟨hstate, -, ⟨rfl, hdone⟩ | ⟨e, rfl, htells⟩⟩ :=
        handleFailure_fresh hg (CallState.phase_eq_active_iff.1 hs) f hv hr
      · exact .of_done (by simp [hfails]) hdone
      · refine ⟨.inr ⟨e, htells⟩, fun e' => ?_, fun _ _ => hstate⟩
        rw [hfails]
        constructor
        · intro htells'
          exact ⟨hs, congrArg Except.error (htells.unique htells')⟩
        · rintro ⟨-, heq⟩
          exact Except.error.inj heq ▸ htells
    · exact .of_done (by simp [hfails, hs]) (by rw [handleFailure_inactive hs])

end GuardedCall

/-! ### Whatever is done with a call -/

/-- What is done with a guarded call: by the service, by the one who tells of events, or by the one
who reports an error. -/
inductive Dealing where
  /-- The service closes the call. -/
  | close (s : Status) (trailers : Metadata)
  /-- A listener under guard is told of an event. -/
  | hear (e : Event) (l : Listener)
  /-- An error of the call is reported. -/
  | fail (f : Fault)

/-- No listener opens the call in the slot again once it is closed. -/
def Dealing.LeavesClosed (slot : Nat) : Dealing → Prop
  | hear e l => (l e).Keeps fun w => (w.states slot).closed = true
  | _ => True

namespace GuardedCall

section

variable (g : GuardedCall)

/-- Does it. What a close comes to is for the service. -/
def deal : Dealing → Run Unit
  | .close s trailers => do let _ ← g.asCall.close s trailers
  | .hear e l => g.listener l e
  | .fail f => g.handleFailure f

/-- What others do in the course of it: the listener, if it hears the event, or the one who reports
an error. -/
def own : Dealing → World → Outcome Unit × World
  | .close _ _, w => (.done (), w)
  | .hear e l, w => if g.Hears e w then l e w else (.done (), w)
  | .fail f, w => (.failed f, w)

/-- Several things that are done one after the other, and how each of them ends. -/
def dealAll : List Dealing → World → List (Outcome Unit) × World
  | [], w => ([], w)
  | d :: ds, w =>
    let now := g.deal d w
    let later := dealAll ds now.2
    (now.1 :: later.1, later.2)

end

variable {g : GuardedCall} {w : World}

theorem leavesClosed_perform (e : Event) (plan : Plan (Outcome Unit)) :
    (Dealing.hear e fun _ => plan.perform g.asCall).LeavesClosed g.slot := by
  intro w hc
  obtain ⟨-, -, hidle⟩ := perform_closed hc g.fallback plan
  exact hidle.closed

/-- **What comes back from whatever is done with a call**, in any world. -/
theorem deal_surfaces (hg : g.Steady) (d : Dealing) (w : World) :
    g.Surfaces (g.own d w) (g.deal d w) := by
  cases d with
  | close s trailers =>
    obtain ⟨r, hr⟩ := returns_close hg s trailers w
    have hdone : g.deal (.close s trailers) w = (.done (), (g.asCall.close s trailers w).2) :=
      Run.bind_of_done hr _
    rw [hdone]
    exact .of_not_raised rfl _
  | hear e l =>
    rw [deal, own]
    by_cases hh : g.Hears e w
    · rw [if_pos hh]
      obtain ⟨⟨⟩, ha, hcatch⟩ | ⟨-, f, w₁, hcatch, hf, hstates, ht⟩ :=
        Run.catchFault_cases (l e) w <;> rw [listener_of_hears hh hcatch]
      · exact .of_not_raised ha _
      · exact surfaces_handleFailure hg hf hstates ht
    · rw [if_neg hh, listener_of_not_hears hh]
      exact .of_not_raised rfl _
  | fail f => exact surfaces_handleFailure hg (.failed f) rfl rfl

/-- Whatever is done with a closed call ends well and leaves it closed. -/
theorem deal_closed (hc : (w.states g.slot).closed = true) {d : Dealing}
    (hd : d.LeavesClosed g.slot) :
    (g.deal d w).1 = .done () ∧ ((g.deal d w).2.states g.slot).closed = true := by
  cases d with
  | close s trailers =>
    have hdeal : g.deal (.close s trailers) w = (.done (), w.after (s.escapedCause w.nextLabel)) :=
      congrArg (Run.andThen _) (close_closed hc s trailers)
    rw [hdeal]
    exact ⟨rfl, hc⟩
  | hear e l =>
    rw [deal]
    by_cases hh : g.Hears e w
    · obtain ⟨⟨⟩, -, hcatch⟩ | ⟨-, f, w₁, hcatch, -, hstates, -⟩ := Run.catchFault_cases (l e) w <;>
        rw [listener_of_hears hh hcatch]
      · exact ⟨rfl, hd w hc⟩
      · -- the error of the listener comes too late
        have hc₁ : (w₁.states g.slot).closed = true := hstates ▸ hd w hc
        rw [settle, handleFailure_closed hc₁]
        exact ⟨rfl, hc₁⟩
    · rw [listener_of_not_hears hh]
      exact ⟨rfl, hc⟩
  | fail f =>
    rw [deal, handleFailure_closed hc]
    exact ⟨rfl, hc⟩

theorem dealAll_closed (hc : (w.states g.slot).closed = true) {ds : List Dealing}
    (hds : ∀ d ∈ ds, d.LeavesClosed g.slot) : ∀ o ∈ (g.dealAll ds w).1, o = .done () := by
  induction ds generalizing w with
  | nil => nofun
  | cons d ds ih =>
    rw [List.forall_mem_cons] at hds
    obtain ⟨hdone, hclosed⟩ := deal_closed hc hds.1
    exact List.forall_mem_cons.2 ⟨hdone, ih hclosed hds.2⟩

/-- **A call fails to close once at most.** Of things that are done one after the other, no two end
badly. -/
theorem pairwise_dealAll (hg : g.Steady) {ds : List Dealing}
    (hds : ∀ d ∈ ds, d.LeavesClosed g.slot) (w : World) :
    (g.dealAll ds w).1.Pairwise fun o o' => o = .done () ∨ o' = .done () := by
  induction ds generalizing w with
  | nil => exact .nil
  | cons d ds ih =>
    rw [List.forall_mem_cons] at hds
    refine .cons (fun o' ho' => ?_) (ih hds.2 _)
    rcases (deal_surfaces hg d w).done_or_closed with hdone | hclosed
    · exact .inl hdone
    · exact .inr (dealAll_closed hclosed hds.2 o' ho')

theorem receive_surfaces (hg : g.Steady) (x : Run Listener) (w : World) :
    g.Surfaces (x w) ((Run.andThen g.receive (x.catchFault w)).1.map fun _ => (),
      (Run.andThen g.receive (x.catchFault w)).2) := by
  obtain ⟨l, hl, hcatch⟩ | ⟨-, f, w₁, hcatch, hf, hstates, ht⟩ := Run.catchFault_cases x w <;>
    rw [hcatch, Run.andThen_done]
  · exact .of_not_raised hl _
  · obtain ⟨t, hminted, hreceive⟩ := g.receive_error f w₁
    have hlabel : (w₁.after t).nextLabel = w₁.nextLabel := by
      rw [World.after, hminted, Nat.add_zero]
    have hhandled : g.Surfaces (x w) (g.handleFailure f (w₁.after t)) :=
      surfaces_handleFailure hg (hlabel ▸ hf) hstates ht
    rw [hreceive]
    -- a silent listener is handed out when the error was handled
    generalize g.handleFailure f (w₁.after t) = c at hhandled ⊢
    rcases c with ⟨⟨⟩ | _ | _, w₂⟩ <;> exact hhandled

/-- The listener that a service came back with is put under guard. After an error there is one that
does nothing. -/
theorem receive_done {x : Run Listener} {l : Listener}
    (hl : (Run.andThen g.receive (x.catchFault w)).1 = .done l) :
    (∃ l', (x w).1 = .done l' ∧ l = g.listener l') ∨ (x w).1.Raised ∧ l = Listener.silent := by
  obtain ⟨l', hl', hcatch⟩ | ⟨hraised, f, w₁, hcatch, -⟩ := Run.catchFault_cases x w
  · rw [hcatch] at hl
    obtain rfl : g.listener l' = l := Outcome.done.inj hl
    exact .inl ⟨l', hl', rfl⟩
  · obtain ⟨t, -, hreceive⟩ := g.receive_error f w₁
    rw [hcatch, Run.andThen_done, hreceive] at hl
    generalize g.handleFailure f (w₁.after t) = c at hl
    rcases c with ⟨_ | _ | _, w₂⟩
    · exact .inr ⟨hraised, (Outcome.done.inj hl).symm⟩
    · cases hl
    · cases hl

end GuardedCall

/-- **Only a failure to close comes back.** Whatever the service does when it is started with the
guarded call, whatever is done with the call from then on, one thing after the other, and whatever
the listeners, the fallback and the transport do: the start, a hook or the report of an error comes
back with an error exactly when an error was raised in it while the call was active and the
transport failed to close with what that was resolved to. This error has the failure of the
transport for its source, and the call is errored and closed then. Nothing else comes back, so no
panic does. Unless a listener can open a closed call again, an error comes back once at most. What
the start hands out is the listener of the service under guard, or one that does nothing after an
error. -/
theorem Interceptor.failures_surface (b : Fallback) (next : Start) (headers : Metadata)
    (w : World) :
    let g : GuardedCall := ⟨w.nextSlot, b, .transport⟩
    let started := next g.asCall headers { w with nextSlot := w.nextSlot + 1 }
    let c := (guarding b).intercept next .transport headers w
    g.Surfaces started (c.1.map fun _ => (), c.2) ∧
    (∀ l, c.1 = .done l → (∃ l', started.1 = .done l' ∧ l = g.listener l') ∨
      started.1.Raised ∧ l = Listener.silent) ∧
    (∀ ds d, g.Surfaces (g.own d (g.dealAll ds c.2).2) (g.deal d (g.dealAll ds c.2).2)) ∧
    ∀ ds, (∀ d ∈ ds, d.LeavesClosed g.slot) →
      (c.1.map (fun _ => ()) :: (g.dealAll ds c.2).1).Pairwise
        fun o o' => o = .done () ∨ o' = .done () := by
  intro g started c
  have hg : g.Steady := GuardedCall.steady_mk ..
  have hstart : g.Surfaces started (c.1.map fun _ => (), c.2) :=
    GuardedCall.receive_surfaces hg (next g.asCall headers) { w with nextSlot := w.nextSlot + 1 }
  refine ⟨hstart, fun l hl => GuardedCall.receive_done hl, fun ds d =>
    GuardedCall.deal_surfaces hg d _, fun ds hds => ?_⟩
  refine .cons (fun o ho => ?_) (GuardedCall.pairwise_dealAll hg hds _)
  rcases hstart.done_or_closed with hdone | hclosed
  · exact .inl hdone
  · exact .inr (GuardedCall.dealAll_closed hclosed hds o ho)

namespace Interception

/-- The listener fails when it is told that it can go on. -/
def failingReady : Dealing :=
  .hear .ready fun _ => failing.perform stuck.call.asCall

/-- Over a transport that cannot be closed, this comes back the first time only. -/
theorem failures_surface_stuck :
    Report.Tells (.transport "reset")
      (.ended (stuck.call.deal failingReady stuck.intercepted.2).1) ∧
    (stuck.call.dealAll [failingReady, failingReady] stuck.intercepted.2).1.Pairwise
      fun o o' => o = .done () ∨ o' = .done () := by
  obtain ⟨-, -, hsurfaces, honce⟩ := Interceptor.failures_surface stuck.fallback
    (.following stuck.start) stuck.headers stuck.world
  have hleaves : failingReady.LeavesClosed stuck.call.slot :=
    GuardedCall.leavesClosed_perform .ready failing
  constructor
  · exact ((hsurfaces [] failingReady).tells_iff _).2 ⟨_, _, .failed _, rfl, rfl⟩
  · have hall : ∀ d ∈ [failingReady, failingReady], d.LeavesClosed stuck.call.slot := by
      simp [hleaves]
    exact (honce _ hall).of_cons

end Interception

end CallGuard
