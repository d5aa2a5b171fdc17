import CallGuard.Interceptor.Chain
import CallGuard.Interceptor.Plan
import CallGuard.Proofs.Call.Atomic

/-!
# Interceptors that work through the call they are given

Whoever is started with a call can close it, send with it, put it under guard again and go on with
what comes out of this. All that this can do to the state in a slot that is taken, and to the
transport, is done through the call. So a condition on these two that the call keeps is kept by
whoever works through the call alone (`Start.Confined`, `Interceptor.Confined`).

* `Start.confined_following`, `Interceptor.confined_following` : those who follow a plan are
  confined;
* `Interceptor.confined_guardingWith` : so is the guarding interceptor;
* `Chain.start_confined` : and all of a chain of them.
-/

namespace CallGuard

/-- The computation keeps a condition on the world. -/
def Run.Keeps {α : Type} (k : World → Prop) (x : Run α) : Prop :=
  ∀ w, k w → k (x w).2

namespace Run

variable {α β : Type} {k : World → Prop} {x : Run α}

theorem keeps_raise (o : Outcome α) : (raise o).Keeps k :=
  fun _ hw => hw

theorem keeps_pure (a : α) : (pure a : Run α).Keeps k :=
  keeps_raise (.done a)

theorem keeps_read (f : World → α) : (read f).Keeps k :=
  fun _ hw => hw

theorem Keeps.bind (hx : x.Keeps k) {f : α → Run β} (hf : ∀ a, (f a).Keeps k) :
    (x >>= f).Keeps k := by
  intro w hw
  have hxw := hx w hw
  rw [bind_apply]
  generalize x w = c at hxw
  obtain ⟨a | e | p, w'⟩ := c
  · exact hf a w' hxw
  · exact hxw
  · exact hxw

theorem Keeps.attempt (hx : x.Keeps k) : x.attempt.Keeps k :=
  hx

end Run

/-- Whatever is done with the call keeps a condition on the world. -/
structure Call.Keeps (k : World → Prop) (c : Call) : Prop where
  close : ∀ s trailers, (c.close s trailers).Keeps k
  sendHeaders : ∀ m, (c.sendHeaders m).Keeps k
  sendMessage : ∀ body, (c.sendMessage body).Keeps k

/-- What is started keeps a condition that the call keeps with which it is started. -/
def Start.Keeps (k : World → Prop) (st : Start) : Prop :=
  ∀ call, Call.Keeps k call → ∀ headers, (st call headers).Keeps k

/-- The slot is taken, and the transport and the state in the slot meet a condition. -/
def World.Holds (slot : Nat) (cond : Transport → CallState → Prop) (w : World) : Prop :=
  slot < w.nextSlot ∧ cond w.transport (w.states slot)

/-- What is started works through the call alone. -/
def Start.Confined (st : Start) : Prop :=
  ∀ slot cond, st.Keeps (World.Holds slot cond)

/-- The interceptor works through the call that it is given, and through what it goes on with. -/
def Interceptor.Confined (i : Interceptor) : Prop :=
  ∀ slot cond (next : Start), next.Keeps (World.Holds slot cond) →
    Start.Keeps (World.Holds slot cond) (i.intercept next)

theorem Chain.start_confined {is : List Interceptor} (his : ∀ i ∈ is, i.Confined) {service : Start}
    (hservice : service.Confined) : (Chain.start ⟨is, service⟩).Confined := by
  intro slot cond
  induction is with
  | nil => exact hservice slot cond
  | cons i is ih =>
    refine his i List.mem_cons_self slot cond _ (ih ?_)
    exact fun j hj => his j (List.mem_cons_of_mem _ hj)

variable {α : Type} {slot n : Nat} {cond : Transport → CallState → Prop} {call : Call}
  {k : World → Prop}

/-! ### Steps that keep a condition -/

namespace Run

theorem keeps_recorded (x : Recorded α) : (recorded x).Keeps (World.Holds slot cond) :=
  fun _ hw => hw

theorem keeps_noteStart (c : Call) : (noteStart c).Keeps (World.Holds slot cond) :=
  fun _ hw => hw

theorem keeps_onState (hn : slot ≠ n) (f : CallState → α × CallState) :
    (onState n f).Keeps (World.Holds slot cond) := by
  rintro w ⟨htaken, hcond⟩
  have hstate : ((onState n f) w).2.states slot = w.states slot := if_neg hn
  exact ⟨htaken, hstate ▸ hcond⟩

/-- Panics become faults, which changes nothing but labels. -/
theorem Keeps.catchFault {x : Run α} (hx : x.Keeps k)
    (hpanic : ∀ p, (recorded (Fault.ofPanic p)).Keeps k) : x.catchFault.Keeps k := by
  refine hx.attempt.bind ?_
  intro o
  cases o with
  | done a => exact keeps_pure _
  | failed e => exact keeps_pure _
  | panicked p => exact (hpanic p).bind fun _ => keeps_pure _

end Run

/-! ### Guarded calls -/

/-- All that a guard does on its own account keeps a condition on the world. -/
structure FragileFallback.Keeps (k : World → Prop) (b : FragileFallback) : Prop where
  consult : ∀ f, (b.consult f).Keeps k
  escapedCause : ∀ s : Status, (Run.recorded s.escapedCause).Keeps k
  make : ∀ kind message source, (Run.recorded (Fault.make kind message source)).Keeps k
  log : ∀ level message fields, (Run.log level message fields).Keeps k

/-- The condition depends neither on labels nor on the journal. -/
theorem FragileFallback.Keeps.of_recorded
    (h : ∀ {α : Type} (x : Recorded α), (Run.recorded x).Keeps k) (b : FragileFallback) :
    b.Keeps k where
  consult f := by
    intro w hw
    rcases b.consult_follows f w with hv | ⟨_, _, -, t, hpanic⟩
    · rw [hv]
      exact h _ w hw
    · -- until a hook panicked, labels were taken and entries written
      rw [hpanic]
      exact h (fun _ => t) w hw
  escapedCause _ := h _
  make _ _ _ := h _
  log _ _ _ := h _

variable {b : FragileFallback}

namespace Call

/-- A close keeps what does not depend on the state of the guarded call, if the close of the call
below keeps it. -/
theorem keeps_closeGuarded (hb : b.Keeps k)
    (hstate : ∀ f : CallState → Bool × CallState, (Run.onState n f).Keeps k)
    {next : Status → Metadata → Run CallResult} (hnext : ∀ s trailers, (next s trailers).Keeps k)
    (s : Status) (trailers : Metadata) : (closeGuarded n b next s trailers).Keeps k := by
  have honce : ∀ s trailers, (closeOnce n next s trailers).Keeps k := by
    intro s trailers
    refine (hstate _).bind ?_
    intro first
    cases first with
    | true => exact hnext s trailers
    | false => exact Run.keeps_pure _
  refine (hb.escapedCause s).bind ?_
  intro cause?
  cases cause? with
  | none => exact honce s trailers
  | some cause =>
    refine (hstate _).bind ?_
    intro won
    cases won with
    | true => exact (hb.consult cause).bind fun v => honce _ _
    | false =>
      -- the error came too late: it is dropped, or the status goes on as it is
      refine (Run.keeps_read _).bind ?_
      intro phase
      split
      · exact (hb.log _ _ _).bind fun _ => Run.keeps_pure _
      · exact honce s trailers

theorem Keeps.guarded (hcall : call.Keeps (World.Holds slot cond)) (hn : slot ≠ n)
    (b : FragileFallback) : (guarded n b call).Keeps (World.Holds slot cond) where
  close := keeps_closeGuarded (.of_recorded Run.keeps_recorded b) (Run.keeps_onState hn) hcall.close
  sendHeaders := hcall.sendHeaders
  sendMessage := hcall.sendMessage

end Call

theorem GuardedCall.keeps_handleFailure {g : GuardedCall} (hb : g.fallback.Keeps k)
    (hstate : ∀ f : CallState → Bool × CallState, (Run.onState g.slot f).Keeps k)
    (hclose : ∀ s trailers, (g.inner.close s trailers).Keeps k) (f : Fault) :
    (g.handleFailure f).Keeps k := by
  refine (hstate _).bind ?_
  intro won
  cases won with
  | false => exact (Run.keeps_read _).bind fun _ => hb.log _ _ _
  | true =>
    refine (hb.consult f).bind fun v => Run.Keeps.bind ?_ ?_
    · refine (hstate _).bind ?_
      intro first
      cases first with
      | true => exact hclose _ _
      | false => exact Run.keeps_pure _
    · intro r
      cases r with
      | ok => exact Run.keeps_pure _
      | error e => exact (hb.make _ _ _).bind fun _ => Run.keeps_raise _

/-! ### Who is confined -/

theorem Plan.keeps_run (hcall : call.Keeps (World.Holds slot cond)) (plan : Plan α) :
    (plan.run call).Keeps (World.Holds slot cond) := by
  induction plan with
  | finish a => exact Run.keeps_pure a
  | close s trailers rest ih => exact (hcall.close s trailers).bind ih
  | write es rest ih => exact (Run.keeps_recorded _).bind fun _ => ih

theorem Start.confined_following (plan : Metadata → Plan (Outcome Listener)) :
    (Start.following plan).Confined := by
  intro slot cond call hcall headers
  refine (Run.keeps_noteStart call).bind fun _ => ?_
  exact ((plan headers).keeps_run hcall).bind fun o => Run.keeps_raise o

namespace Interceptor

theorem confined_following (name : String) (order : Int) (plan : Metadata → Plan Choice) :
    (following name order plan).Confined := by
  intro slot cond next hnext call hcall headers
  refine ((plan headers).keeps_run hcall).bind ?_
  intro choice
  cases choice with
  | answer result => exact Run.keeps_raise result
  | goOn headers' after =>
    refine (hnext call hcall headers').attempt.bind ?_
    intro o
    exact ((after o).keeps_run hcall).bind fun result => Run.keeps_raise result

/-- The guarding interceptor is confined: the slot that it takes is not the one that was taken
before. -/
theorem confined_guardingWith (b : FragileFallback) : (guardingWith b).Confined := by
  rintro slot cond next hnext call hcall headers w ⟨htaken, hcond⟩
  have hn : slot ≠ w.nextSlot := Nat.ne_of_lt htaken
  have hstart := (hnext _ (hcall.guarded hn b) headers).catchFault fun _ => Run.keeps_recorded _
  refine hstart.bind ?_ { w with nextSlot := w.nextSlot + 1 } ⟨Nat.lt_succ_of_lt htaken, hcond⟩
  intro started
  cases started with
  | ok l => exact Run.keeps_pure _
  | error f =>
    refine (Run.keeps_recorded _).bind fun _ => ?_
    have hhandled := GuardedCall.keeps_handleFailure (g := ⟨w.nextSlot, b, call⟩)
      (.of_recorded Run.keeps_recorded b) (Run.keeps_onState hn) hcall.close f
    exact hhandled.bind fun _ => Run.keeps_pure _

end Interceptor

end CallGuard
