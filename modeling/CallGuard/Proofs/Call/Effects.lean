import CallGuard.Call.Guard

/-!
# What single effects do to a world

How a world looks after labels were taken and entries written, after a change of a state and after a
step of the transport, and what the basic computations come to in terms of that.

A computation in which hooks of an observer are called follows the recorded one in which all of them
come back, up to the first hook that panics (`FragileFallback.Follows`).

* `FragileFallback.consult_follows`, `FragileFallback.consult_of_steady` : how a fault is resolved
  when hooks may panic, and when none does;
* `Call.close_transport` : closing a transport that comes back;
* `Call.closeGuarded_of_plain`, `Call.closeGuarded_of_active`, `Call.closeGuarded_of_inactive` :
  what a close of a guarded call comes to, by the error that escapes with it and the phase of the
  call.
-/

namespace CallGuard

/-- The world with the labels taken and the entries written that a trace holds. -/
def World.after {α : Type} (w : World) (t : Trace α) : World :=
  { w with nextLabel := w.nextLabel + t.minted, journal := w.journal ++ t.entries }

/-- The world with another state in a slot. -/
def World.withState (w : World) (slot : Nat) (s : CallState) : World :=
  { w with states := fun n => if n = slot then s else w.states n }

/-- The world with another transport. -/
def World.withTransport (w : World) (t : Transport) : World :=
  { w with transport := t }

namespace World

variable {α : Type} (w : World) (t : Trace α) (slot : Nat) (s : CallState) (u : Transport)

@[simp] theorem after_states : (w.after t).states = w.states := rfl

@[simp] theorem after_transport : (w.after t).transport = w.transport := rfl

@[simp] theorem withState_transport : (w.withState slot s).transport = w.transport := rfl

@[simp] theorem withState_states : (w.withState slot s).states slot = s := by
  simp [withState]

@[simp] theorem withTransport_states : (w.withTransport u).states = w.states := rfl

@[simp] theorem withTransport_transport : (w.withTransport u).transport = u := rfl

@[simp] theorem withState_nextLabel : (w.withState slot s).nextLabel = w.nextLabel := rfl

@[simp] theorem withTransport_nextLabel : (w.withTransport u).nextLabel = w.nextLabel := rfl

@[simp] theorem withState_self : w.withState slot (w.states slot) = w := by
  cases w
  simp only [withState, mk.injEq, true_and]
  exact ⟨funext fun n => by split <;> simp [*], trivial⟩

theorem after_bind {β : Type} (x : Recorded α) (f : α → Recorded β) :
    w.after ((x >>= f) w.nextLabel) = (w.after (x w.nextLabel)).after
      (f (x w.nextLabel).value (w.after (x w.nextLabel)).nextLabel) := by
  simp [after, Recorded.bind_minted, Recorded.bind_entries, Nat.add_assoc]

theorem after_after {β : Type} (t' : Trace β) : (w.after t).after t' =
    w.after ⟨t'.value, t.minted + t'.minted, t.entries ++ t'.entries⟩ := by
  simp [after, Nat.add_assoc]

end World

namespace Run

variable {α β : Type} (w : World)

@[simp] theorem recorded_apply (x : Recorded α) :
    recorded x w = (.done (x w.nextLabel).value, w.after (x w.nextLabel)) := rfl

theorem recorded_pure (a : α) : recorded (pure a) = pure a := by
  funext w
  simp [World.after]

@[simp] theorem onState_apply (slot : Nat) (f : CallState → α × CallState) :
    onState slot f w =
      (.done (f (w.states slot)).1, w.withState slot (f (w.states slot)).2) := rfl

@[simp] theorem onTransport_apply (f : Transport → α × Transport) :
    onTransport f w = (.done (f w.transport).1, w.withTransport (f w.transport).2) := rfl

@[simp] theorem read_apply (f : World → α) : read f w = (.done (f w), w) := rfl

@[simp] theorem raise_apply (o : Outcome α) : raise o w = (o, w) := rfl

@[simp] theorem attempt_apply (x : Run α) : attempt x w = (.done (x w).1, (x w).2) := rfl

theorem map_apply (f : α → β) (x : Run α) :
    (f <$> x) w = andThen (fun a => pure (f a)) (x w) := rfl

end Run

/-! ### Hooks that may panic -/

namespace FragileFallback

variable {α β : Type} {b : FragileFallback}

/-- The computation comes to what is recorded, unless a hook of the observer panics in it. -/
def Follows (b : FragileFallback) (x : Run α) (y : Recorded α) : Prop :=
  ∀ w, x w = Run.recorded y w ∨
    ∃ note p, b.panics note = some p ∧ ∃ t : Trace Unit, x w = (.panicked p, w.after t)

theorem follows_recorded (y : Recorded α) : b.Follows (Run.recorded y) y :=
  fun _ => .inl rfl

theorem follows_pure (a : α) : b.Follows (pure a) (pure a) := by
  intro w
  rw [Run.recorded_pure]
  exact .inl rfl

theorem Follows.bind {x : Run α} {y : Recorded α} (hx : b.Follows x y) {f : α → Run β}
    {g : α → Recorded β} (hf : ∀ a, b.Follows (f a) (g a)) : b.Follows (x >>= f) (y >>= g) := by
  intro w
  rw [Run.bind_apply]
  rcases hx w with hxw | ⟨note, p, hp, t, hxw⟩ <;> rw [hxw]
  · rw [Run.recorded_apply, Run.andThen_done, Run.recorded_apply, World.after_bind]
    rcases hf (y w.nextLabel).value (w.after (y w.nextLabel)) with hfw | ⟨note, p, hp, t, hfw⟩
    · exact .inl hfw
    · rw [hfw, World.after_after]
      exact .inr ⟨note, p, hp, _, rfl⟩
  · exact .inr ⟨note, p, hp, t, rfl⟩

theorem follows_tell (b : FragileFallback) (n : Notification) :
    b.Follows (b.tell n) (b.toFallback.tell n) := by
  intro w
  rw [tell, Run.bind_apply, Run.recorded_apply, Run.andThen_done]
  cases h : b.panics n with
  | none => exact .inl rfl
  | some p => exact .inr ⟨n, p, h, ⟨(), 0, b.observer n⟩, rfl⟩

/-- **Where no hook panics, a fault is resolved.** -/
theorem consult_follows (b : FragileFallback) (f : Fault) :
    b.Follows (b.consult f) (b.resolve f) := by
  have hderive : b.Follows (Fallback.deriveTelling b.tell f) (b.derive f) :=
    (b.follows_tell _).bind fun _ => follows_pure f.derive
  refine (follows_recorded _).bind fun reply => ?_
  cases reply with
  | answered v => exact follows_pure v
  | declined => exact (b.follows_tell _).bind fun _ => hderive
  | panicked p =>
    exact (follows_recorded _).bind fun _ => (follows_recorded _).bind fun _ => hderive

theorem consult_of_steady (hb : b.Steady) (f : Fault) :
    b.consult f = Run.recorded (b.resolve f) := by
  funext w
  refine (b.consult_follows f w).resolve_right ?_
  rintro ⟨note, p, hp, -⟩
  exact not_steady hp hb

end FragileFallback

@[simp] theorem Fallback.consult_steady (b : Fallback) (f : Fault) :
    b.steady.consult f = Run.recorded (b.resolve f) :=
  FragileFallback.consult_of_steady b.steady_steady f

/-! ### Closes that may panic -/

/-- What an attempt to close the transport comes to that has this result, unless it panics. -/
def Transport.answer (panics : Nat → Option Payload) (t : Transport) (r : CallResult) :
    Outcome CallResult :=
  (panics t.attempts).elim (.done r) .panicked

namespace Call

variable (panics : Nat → Option Payload) (s : Status) (trailers : Metadata) (w : World)

theorem closeTransport_apply : closeTransport panics s trailers w =
    (w.transport.answer panics (w.transport.close s trailers).1,
      w.withTransport (w.transport.close s trailers).2) := by
  rw [closeTransport, Run.bind_apply, Run.read_apply, Run.andThen_done, Run.bind_apply,
    Run.onTransport_apply, Run.andThen_done, Transport.answer]
  cases panics w.transport.attempts <;> rfl

theorem close_transport : transport.close s trailers = Run.onTransport (·.close s trailers) :=
  rfl

/-! ### Closing a guarded call -/

variable {s trailers w} {slot : Nat} {b : FragileFallback}
  {next : Status → Metadata → Run CallResult} {cause : Fault}

theorem closeOnce_of_open (h : (w.states slot).closed = false) :
    closeOnce slot next s trailers w =
      next s trailers (w.withState slot ⟨(w.states slot).errored, true⟩) := by
  rw [closeOnce, Run.bind_apply, Run.onState_apply, CallState.markClosed_of_open h,
    Run.andThen_done, if_pos rfl]

theorem closeOnce_of_closed (h : (w.states slot).closed = true) :
    closeOnce slot next s trailers w = (.done (.error .alreadyClosed), w) := by
  rw [closeOnce, Run.bind_apply, Run.onState_apply, CallState.markClosed_of_closed h,
    Run.andThen_done, if_neg Bool.false_ne_true, World.withState_self, Run.pure_apply]

theorem closeGuarded_of_plain (h : (s.escapedCause w.nextLabel).value = none) :
    closeGuarded slot b next s trailers w =
      closeOnce slot next s trailers (w.after (s.escapedCause w.nextLabel)) := by
  rw [closeGuarded, Run.bind_apply, Run.recorded_apply, Run.andThen_done, h]

/-- The error that escapes is the first one. -/
theorem closeGuarded_of_active (h : (s.escapedCause w.nextLabel).value = some cause)
    (hs : w.states slot = .fresh) :
    closeGuarded slot b next s trailers w =
      (b.consult cause >>= fun v => closeResolved slot next v trailers)
        ((w.after (s.escapedCause w.nextLabel)).withState slot ⟨true, false⟩) := by
  rw [closeGuarded, Run.bind_apply, Run.recorded_apply, Run.andThen_done, h]
  dsimp only
  rw [Run.bind_apply, Run.onState_apply, World.after_states, hs, CallState.tryError_fresh,
    Run.andThen_done, if_pos rfl]

/-- The error that escapes comes too late. -/
theorem closeGuarded_of_inactive (h : (s.escapedCause w.nextLabel).value = some cause)
    (hs : (w.states slot).phase ≠ .active) :
    closeGuarded slot b next s trailers w =
      (if (w.states slot).phase = .errored then
        Run.log .debug "Dropping escaped close while another error is being handled"
          [("error_type", .text cause.kind.name)] >>= fun _ => pure (.ok ())
      else closeOnce slot next s trailers) (w.after (s.escapedCause w.nextLabel)) := by
  rw [closeGuarded, Run.bind_apply, Run.recorded_apply, Run.andThen_done, h]
  dsimp only
  rw [Run.bind_apply, Run.onState_apply, World.after_states, CallState.tryError_of_inactive hs,
    Run.andThen_done, if_neg Bool.false_ne_true, ← World.after_states, World.withState_self,
    Run.bind_apply, Run.read_apply, Run.andThen_done]

end Call

end CallGuard
