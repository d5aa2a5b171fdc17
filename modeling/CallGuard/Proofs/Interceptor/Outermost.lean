import CallGuard.Proofs.Call.Closing
import CallGuard.Proofs.Interceptor.Confined

/-!
# The guard stands outermost

The guarding interceptor has the first place of all. When no interceptor that was added before it
has that place too, it is the outermost one of its chain, and all others and the service work
through the call that it guards. So whatever these do, the start of the chain does not panic, and an
error that one of them raises has the transport closed, once: by the guard, or by a close that was
made earlier through the call.

Outside of what the guard catches are the hooks of its observer and the close of the transport. A
start panics when one of them does, and in no other way. A panicking close counts as an attempt; a
hook that panics leaves the transport alone.

* `Chain.arrange_of_lowest` : the first interceptor of the lowest order stands first;
* `GuardedCall.asCall_keeps` : a guarded call over the transport closes it at most once;
* `Interceptor.interceptGuarded_shields` : what the guard makes of whatever it goes on with;
* `Chain.start_shields` : what it makes of a whole chain.
-/

namespace CallGuard

open Interceptor (highestPrecedence guardingWith)

/-! ### Who stands first -/

/-- An interceptor of the lowest order stands first, unless others of that order were added
before. -/
theorem Chain.arrange_of_lowest {before after : List Interceptor} {i : Interceptor}
    (hlowest : ∀ j ∈ before ++ after, i.order ≤ j.order)
    (hfirst : ∀ j ∈ before, j.order ≠ i.order) :
    ∃ rest, arrange (before ++ i :: after) = i :: rest ∧ rest.Perm (before ++ after) := by
  have hhead : ∃ rest, arrange (before ++ i :: after) = i :: rest := by
    induction before with
    | nil =>
      obtain ⟨l₁, l₂, hsort, hafter, hgreater⟩ := List.mergeSort_cons order_trans order_total i after
      -- nobody stands before an interceptor of the lowest order that was added first
      cases l₁ with
      | nil => exact ⟨l₂, hsort⟩
      | cons j l₁ =>
        have hj : j ∈ after := by
          rw [← List.mem_mergeSort, hafter]
          exact List.mem_cons_self
        have hle : i.order ≤ j.order := hlowest j hj
        have hlt := hgreater j List.mem_cons_self
        simp [hle] at hlt
    | cons j before ih =>
      obtain ⟨rest, hrest⟩ := ih (fun a ha => hlowest a (List.mem_cons_of_mem _ ha))
        fun a ha => hfirst a (List.mem_cons_of_mem _ ha)
      obtain ⟨l₁, l₂, hsort, hsmaller, -⟩ :=
        List.mergeSort_cons order_trans order_total j (before ++ i :: after)
      have hlt : i.order < j.order := by
        have hle := hlowest j List.mem_cons_self
        have hne := hfirst j List.mem_cons_self
        omega
      have hsplit : l₁ ++ l₂ = i :: rest := hsmaller.symm.trans hrest
      -- the one added before goes further back
      cases l₁ with
      | cons a l₁ =>
        obtain ⟨rfl, -⟩ := List.cons.inj hsplit
        exact ⟨l₁ ++ j :: l₂, hsort⟩
      | nil =>
        have hsorted := List.pairwise_mergeSort order_trans order_total (j :: (before ++ i :: after))
        obtain rfl : l₂ = i :: rest := hsplit
        rw [hsort, List.nil_append, List.pairwise_cons] at hsorted
        have hle := of_decide_eq_true (hsorted.1 i List.mem_cons_self)
        omega
  obtain ⟨rest, hrest⟩ := hhead
  have hperm : (i :: rest).Perm (before ++ i :: after) := hrest ▸ List.mergeSort_perm ..
  exact ⟨rest, hrest, (hperm.trans List.perm_middle).cons_inv⟩

/-! ### One close -/

/-- How often the transport was closed under a guarded call, after `n` attempts before. -/
inductive ClosedOnce (b : FragileFallback) (n : Nat) (t : Transport) (s : CallState) : Prop
  /-- Nothing was done to the call. -/
  | active (hs : s = .fresh) (hn : t.attempts = n)
  /-- The call is closed, and the transport was closed once. -/
  | closed (hs : s.closed = true) (hn : t.attempts = n + 1)
  /-- A hook of the observer has panicked while the first error was resolved. -/
  | stranded (hb : ¬b.Steady) (hs : s = ⟨true, false⟩) (hn : t.attempts = n)

variable {n : Nat} {t u : Transport} {s : CallState}

/-- It does not matter what else was done with the transport. -/
theorem ClosedOnce.congr {b : FragileFallback} (h : ClosedOnce b n t s)
    (hu : u.attempts = t.attempts) : ClosedOnce b n u s := by
  cases h with
  | active hs hn => exact .active hs (hu.trans hn)
  | closed hs hn => exact .closed hs (hu.trans hn)
  | stranded hb hs hn => exact .stranded hb hs (hu.trans hn)

theorem Transport.attempts_sendMessage (t : Transport) (body : String) :
    (t.sendMessage body).2.attempts = t.attempts := by
  unfold sendMessage
  split <;> rfl

namespace GuardedCall

variable {g : GuardedCall} {panics : Nat → Option Payload} {w : World}

theorem closedOnce_close (hg : g.inner = .transport panics)
    (hw : ClosedOnce g.fallback n w.transport (w.states g.slot)) (s : Status)
    (trailers : Metadata) :
    ClosedOnce g.fallback n (g.asCall.close s trailers w).2.transport
      ((g.asCall.close s trailers w).2.states g.slot) := by
  cases hw with
  | active hs hn =>
    rcases close_fresh hg hs s trailers with
      ⟨s', trailers', -, ht, hs'⟩ | ⟨note, p, hp, -, ht, hs'⟩ <;> rw [ht, hs']
    · exact .closed rfl ((Transport.attempts_close ..).trans (by rw [hn]))
    · exact .stranded (FragileFallback.not_steady hp) rfl hn
  | closed hs hn =>
    rw [close_closed hs s trailers]
    exact .closed hs hn
  | stranded hb hs hn =>
    rcases close_errored hg hs s trailers with ⟨-, ht, hs'⟩ | ⟨-, ht, hs'⟩ <;> rw [ht, hs']
    · exact .stranded hb rfl hn
    · exact .closed rfl ((Transport.attempts_close ..).trans (by rw [hn]))

/-- Whatever is done with a guarded call over the transport, the transport is closed at most
once. -/
theorem asCall_keeps (hg : g.inner = .transport panics) (n : Nat) :
    g.asCall.Keeps (World.Holds g.slot (ClosedOnce g.fallback n)) where
  close := by
    rintro s trailers w ⟨htaken, hw⟩
    have hslot : (g.asCall.close s trailers).Keeps fun w => g.slot < w.nextSlot := by
      refine Call.keeps_closeGuarded (.of_recorded (fun _ _ h => h) g.fallback) (fun _ _ h => h) ?_
        s trailers
      intro s' trailers' w' hw'
      rw [hg, Call.close, Call.closeTransport_apply]
      exact hw'
    exact ⟨hslot w htaken, closedOnce_close hg hw s trailers⟩
  sendHeaders := by
    obtain ⟨slot, b, inner⟩ := g
    obtain rfl : inner = .transport panics := hg
    rintro m w ⟨htaken, hw⟩
    exact ⟨htaken, hw.congr rfl⟩
  sendMessage := by
    obtain ⟨slot, b, inner⟩ := g
    obtain rfl : inner = .transport panics := hg
    rintro body w ⟨htaken, hw⟩
    exact ⟨htaken, hw.congr (Transport.attempts_sendMessage ..)⟩

end GuardedCall

/-! ### Errors on the way -/

/-- The fault as which a failure or a panic is handled, between the first labels not in use before
and afterwards. -/
inductive Outcome.RaisedAs {α : Type} (n : Label) : Outcome α → Fault → Label → Prop
  | failed (f : Fault) : RaisedAs n (.failed f) f n
  | panicked (p : Payload) : RaisedAs n (.panicked p) (Fault.ofPanic p n).value (n + 1)

theorem Run.catchFault_of_done {α : Type} {x : Run α} {a : α} {w w' : World}
    (hx : x w = (.done a, w')) : x.catchFault w = (.done (.ok a), w') := by
  rw [catchFault, bind_apply, attempt_apply, hx]
  rfl

/-- Catching an error finds the fault and leaves the call alone. -/
theorem Run.catchFault_of_raised {α : Type} {x : Run α} {w w' : World} {o : Outcome α}
    (hx : x w = (o, w')) (ho : o.Raised) : ∃ f w₁,
      o.RaisedAs w'.nextLabel f w₁.nextLabel ∧ x.catchFault w = (.done (.error f), w₁) ∧
      w₁.states = w'.states ∧ w₁.transport = w'.transport := by
  rw [catchFault, bind_apply, attempt_apply, hx, andThen_done]
  cases o with
  | done a => exact absurd rfl (ho a)
  | failed f => exact ⟨f, w', .failed f, rfl, rfl, rfl⟩
  | panicked p => exact ⟨_, _, .panicked p, rfl, rfl, rfl⟩

namespace GuardedCall

variable {g : GuardedCall} {w : World}

/-- The start ended with an error while the call was active, and closing the transport with what the
error is resolved to comes to `r` and leaves `t`. -/
def ClosesWith (g : GuardedCall) (start : Outcome Listener × World) (r : CallResult)
    (t : Transport) : Prop :=
  ∃ f n, start.1.RaisedAs start.2.nextLabel f n ∧ start.2.states g.slot = .fresh ∧
    start.2.transport.close (g.fallback.resolve f n).value.status
      (g.fallback.resolve f n).value.trailers = (r, t)

/-- After a start that ended with an error, one close of the transport was attempted, beyond `n`
before: the one with what the error is resolved to, or an earlier one through the call, after which
the transport was left alone. -/
def ClosesOnce (g : GuardedCall) (n : Nat) (start : Outcome Listener × World) (t : Transport) :
    Prop :=
  t.attempts = n + 1 ∧
    (start.2.transport.attempts = n ∧ (∃ r, g.ClosesWith start r t) ∨
      start.2.transport.attempts = n + 1 ∧ (start.2.states g.slot).closed = true ∧
        t = start.2.transport)

/-- Some hook of the observer panics, and the call was left errored, without a close of the transport
beyond the `n` attempts before. -/
def Stranded (g : GuardedCall) (n : Nat) (w : World) : Prop :=
  ¬g.fallback.Steady ∧ w.transport.attempts = n ∧ w.states g.slot = ⟨true, false⟩

/-- Resolving an error that the start ended with panics with `p`, because a hook of the observer does
so, or because the attempt does to close the transport with the verdict. -/
def Breaks (g : GuardedCall) (panics : Nat → Option Payload) (start : Outcome Listener × World)
    (p : Payload) : Prop :=
  start.1.Raised ∧ start.2.states g.slot = .fresh ∧
    ((∃ note, g.fallback.panics note = some p) ∨ panics start.2.transport.attempts = some p)

/-- What the guard makes of a start with its call, where `n` is the number of times that a close of
the transport was attempted before. -/
structure Shields (g : GuardedCall) (panics : Nat → Option Payload) (n : Nat)
    (start shielded : Outcome Listener × World) : Prop where
  /-- A listener is put under guard. -/
  done : ∀ l, start.1 = .done l → shielded = (.done (g.listener l), start.2)
  /-- Nothing panics where hooks and closes come back. -/
  not_panicked : g.fallback.Steady → (∀ k, panics k = none) → ∀ p, shielded.1 ≠ .panicked p
  /-- No panic of the start gets through, but at most the one of a hook or a close that the guard
  itself calls. -/
  panicked : ∀ p, shielded.1 = .panicked p → g.Breaks panics start p
  /-- The one error that gets through is that the transport could not be closed with what an error
  was resolved to. -/
  failed : ∀ f, shielded.1 = .failed f → ∃ e,
    g.ClosesWith start (.error e) shielded.2.transport ∧ f.kind = Kind.illegalState ∧
      f.message = some "Failed to close the call" ∧ f.source = some (.call e)
  /-- After an error one close was attempted, unless a hook has panicked before that. -/
  closed : start.1.Raised →
    g.ClosesOnce n start shielded.2.transport ∨ g.Stranded n shielded.2

/-- What the guarding interceptor does about what comes back from a start. -/
def receive (g : GuardedCall) : Except Fault Listener → Run Listener
  | .ok l => return g.listener l
  | .error f => do
    Run.log .trace "Failed to start exception handler call"
      [("error_type", .text f.kind.name), ("error", .text f.text)]
    g.handleFailure f
    return Listener.silent

theorem receive_error (g : GuardedCall) (f : Fault) (w : World) : ∃ t : Trace Unit,
    t.minted = 0 ∧ g.receive (.error f) w =
      Run.andThen (fun _ => pure Listener.silent) (g.handleFailure f (w.after t)) :=
  ⟨Recorded.log .trace "Failed to start exception handler call"
    [("error_type", .text f.kind.name), ("error", .text f.text)] w.nextLabel, rfl, rfl⟩

variable {panics : Nat → Option Payload} {n : Nat} {start : Outcome Listener × World}
  {c : Outcome Unit × World}

/-- An error is shielded when handling it ends in one of three ways and one close was attempted. -/
theorem Shields.of_handled (hraised : start.1.Raised)
    (hended : c.1 = .done () ∨
      (∃ e, g.ClosesWith start (.error e) c.2.transport ∧ Report.Tells e (.ended c.1)) ∨
      ∃ p, c.1 = .panicked p ∧ g.Breaks panics start p)
    (hclosed : g.ClosesOnce n start c.2.transport ∨ g.Stranded n c.2) :
    g.Shields panics n start (Run.andThen (fun _ => pure Listener.silent) c) := by
  obtain ⟨o, w⟩ := c
  rcases hended with hdone | ⟨e, hcloses, f, hfailed, htells⟩ | ⟨p, hpanicked, hbreaks⟩
  · obtain rfl : o = .done () := hdone
    exact ⟨fun l hl => absurd hl (hraised l), nofun, nofun, nofun, fun _ => hclosed⟩
  · obtain rfl : o = .failed f := hfailed
    refine ⟨fun l hl => absurd hl (hraised l), nofun, nofun, ?_, fun _ => hclosed⟩
    rintro _ ⟨⟩
    exact ⟨e, hcloses, htells⟩
  · obtain rfl : o = .panicked p := hpanicked
    refine ⟨fun l hl => absurd hl (hraised l), ?_, ?_, nofun, fun _ => hclosed⟩
    · intro hb hp
      obtain ⟨-, -, ⟨note, hnote⟩ | hclose⟩ := hbreaks
      · exact absurd hb (FragileFallback.not_steady hnote)
      · cases (hp _).symm.trans hclose
    · rintro _ ⟨⟩
      exact hbreaks

variable {w' : World} {o : Outcome Listener} {x : Run Listener}

theorem shields_of_fresh (hg : g.inner = .transport panics) {f : Fault}
    (hf : o.RaisedAs w'.nextLabel f w.nextLabel) (ho : o.Raised)
    (hs : w'.states g.slot = .fresh) (hn : w'.transport.attempts = n)
    (hstates : w.states = w'.states) (ht : w.transport = w'.transport) :
    g.Shields panics n (o, w')
      (Run.andThen (fun _ => pure Listener.silent) (g.handleFailure f w)) := by
  generalize hv : (g.fallback.resolve f w.nextLabel).value = v
  cases hr : w.transport.close v.status v.trailers with
  | mk r u =>
    have hcloses : g.ClosesWith (o, w') r u :=
      ⟨f, w.nextLabel, hf, hs, by rw [hv, ← ht, hr]⟩
    have hattempts : u.attempts = n + 1 := by
      have h := w.transport.attempts_close v.status v.trailers
      rwa [hr, ht, hn] at h
    rcases handleFailure_settles hg (hstates ▸ hs) f hv hr with
      ⟨-, rfl, ⟨-, hend⟩ | ⟨p, hp, hend⟩⟩ | ⟨note, p, hnote, hend, hu, hstate⟩
    · refine .of_handled ho ?_ (.inl ⟨hattempts, .inl ⟨hn, r, hcloses⟩⟩)
      rcases hend with ⟨-, hdone⟩ | ⟨e, rfl, htells⟩
      · exact .inl hdone
      · exact .inr (.inl ⟨e, hcloses, htells⟩)
    · -- the close panicked after the attempt was made
      rw [ht] at hp
      exact .of_handled ho (.inr (.inr ⟨p, hend, ho, hs, .inr hp⟩))
        (.inl ⟨hattempts, .inl ⟨hn, r, hcloses⟩⟩)
    · exact .of_handled ho (.inr (.inr ⟨p, hend, ho, hs, .inl ⟨note, hnote⟩⟩))
        (.inr ⟨FragileFallback.not_steady hnote, by rw [hu, ht, hn], hstate⟩)

/-- What comes back from a start is shielded, if the start closed the call at most once. -/
theorem receive_shields (hg : g.inner = .transport panics) (hx : x w = (o, w'))
    (honce : ClosedOnce g.fallback n w'.transport (w'.states g.slot)) :
    g.Shields panics n (o, w') (Run.andThen g.receive (x.catchFault w)) := by
  by_cases ho : o.Raised
  · obtain ⟨f, w₁, hf, hcatch, hstates, ht⟩ := Run.catchFault_of_raised hx ho
    obtain ⟨t, hminted, hreceive⟩ := g.receive_error f w₁
    rw [hcatch, Run.andThen_done, hreceive]
    have hstate : (w₁.after t).states g.slot = w'.states g.slot := by
      rw [World.after_states, hstates]
    cases honce with
    | active hs hn =>
      have hlabel : (w₁.after t).nextLabel = w₁.nextLabel := by
        rw [World.after, hminted, Nat.add_zero]
      exact shields_of_fresh hg (hlabel ▸ hf) ho hs hn hstates ht
    | closed hs hn =>
      -- the call was closed by then, and the error is dropped
      rw [handleFailure_closed (hstate ▸ hs) f]
      exact .of_handled ho (.inl rfl) (.inl ⟨ht ▸ hn, .inr ⟨hn, hs, ht⟩⟩)
    | stranded hb hs hn =>
      have hinactive : ((w₁.after t).states g.slot).phase ≠ .active := by
        rw [hstate, hs]
        decide
      rw [handleFailure_inactive hinactive f]
      exact .of_handled ho (.inl rfl) (.inr ⟨hb, ht ▸ hn, hstate.trans hs⟩)
  · -- nothing was raised
    obtain ⟨l, rfl⟩ : ∃ l, o = .done l := by simpa [Outcome.Raised] using ho
    rw [Run.catchFault_of_done hx]
    refine ⟨?_, ?_, ?_, ?_, fun hraised => absurd rfl (hraised l)⟩
    · rintro _ ⟨⟩
      rfl
    · rintro - - p ⟨⟩
    · rintro p ⟨⟩
    · rintro f ⟨⟩

end GuardedCall

/-- **The guard shields a start.** Whatever the guarding interceptor goes on with, if that works
through the call alone. -/
theorem Interceptor.interceptGuarded_shields {next : Start} (hnext : next.Confined) {w : World}
    (hw : w.states w.nextSlot = .fresh) (b : FragileFallback) (panics : Nat → Option Payload)
    (headers : Metadata) :
    GuardedCall.Shields ⟨w.nextSlot, b, .transport panics⟩ panics w.transport.attempts
      (next (.guarded w.nextSlot b (.transport panics)) headers
        { w with nextSlot := w.nextSlot + 1 })
      (interceptGuarded b next (.transport panics) headers w) := by
  obtain ⟨-, honce⟩ := hnext w.nextSlot (ClosedOnce b w.transport.attempts) _
    (GuardedCall.asCall_keeps (g := ⟨w.nextSlot, b, .transport panics⟩) rfl _) headers
    { w with nextSlot := w.nextSlot + 1 } ⟨Nat.lt_succ_self _, .active hw rfl⟩
  exact GuardedCall.receive_shields rfl rfl honce

namespace Chain

/-- An interceptor that closes the call, goes on, and fails whatever comes back. -/
def closingFirst : Interceptor :=
  .following "closer" 0 fun headers => .close (.plain .ok "") .empty fun _ =>
    .finish (.goOn headers fun _ => .finish (.failed ⟨3, ⟨"Late"⟩, none, none, []⟩))

/-- A service that panics. -/
def panicking : Start :=
  .following fun _ => .finish (.panicked (.text "boom"))

/-- A fallback that declines everything and tells nobody. -/
def quiet : FragileFallback :=
  Fallback.steady ⟨.declining, .silent⟩

/-- The interceptor that closes the call was added before two guards, and the service panics. -/
def panickingChain : Chain :=
  (build ([closingFirst] ++ guardingWith quiet :: [guardingWith quiet]) panicking 0).value

/-- A hook that panics gets through, and the transport is not closed. -/
example :
    let b : FragileFallback := { quiet with panics := fun _ => some (.text "hook") }
    let c := start ⟨[guardingWith b], panicking⟩ .transport .empty
      (.fresh 8 (.fresh ⟨"svc/M", .unary⟩))
    c.1 = .panicked (.text "hook") ∧ c.2.transport.attempts = 0 :=
  ⟨rfl, rfl⟩

end Chain

end CallGuard
