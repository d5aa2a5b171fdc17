import CallGuard.Proofs.Call.Escape
import CallGuard.Proofs.Interceptor.Outermost
import CallGuard.Rehearsal.Recording

/-!
# Which events a guarded listener hears

What a guarded call remembers is fixed by the first thing that was more than an event: an error, or a
close with which no error escaped (`Decision`). Until an error was first, and for good after a close
was first, the guard hands each event to the listener once. After an error it hands on nothing but
the end of the call.

A service may close the call whenever it is told of something, also while it is started, so that the
first decision may be hidden in a plan. What comes later does not matter, in the same plan or in
others.

* `CallState.of` : the state that a decision leaves;
* `GuardedCall.happenAll_decided` : the state after whatever happens to a call;
* `GuardedCall.happenAll_closed` : a closed call resolves nothing and closes nothing;
* `GuardedCall.heard_happenAll` : what a listener notes that notes all it hears;
* `Interception.hooks_delivered` : all of it, for an intercepted call.
-/

namespace CallGuard

/-! ### Decisions -/

/-- What can happen to a call first that is more than an event. -/
inductive Decision where
  /-- An error was raised, or escaped with a close. -/
  | error
  /-- The call was closed, and no error escaped. -/
  | close
deriving DecidableEq

/-- The state of a call of which this is known. -/
def CallState.of : Option Decision → CallState
  | none => .fresh
  | some .error => ⟨true, true⟩
  | some .close => ⟨false, true⟩

/-- What a close with a status decides. -/
def Status.decision (s : Status) : Decision :=
  if s.Escapes then .error else .close

/-- What a service that follows the plan does first. -/
def Plan.decision? {α : Type} : Plan (Outcome α) → Option Decision
  | .finish (.done _) => none
  | .finish _ => some .error
  | .close s _ _ => some s.decision
  | .write _ rest => rest.decision?

namespace Occurrence

/-- What is decided by something that happens to an active call. -/
def decision? : Occurrence → Option Decision
  | .close s _ => some s.decision
  | .hear _ plan => plan.decision?

/-- The event that a guarded listener is told. -/
def event? : Occurrence → Option Event
  | .close .. => none
  | .hear e _ => some e

theorem or_findSome?_cons (d : Option Decision) (x : Occurrence) (xs : List Occurrence) :
    d.or ((x :: xs).findSome? decision?) = (d.or x.decision?).or (xs.findSome? decision?) := by
  rw [Option.or_assoc, List.findSome?_cons]
  cases x.decision? <;> rfl

end Occurrence

variable {d : Option Decision}

theorem CallState.errored_of : (CallState.of d).errored = true ↔ d = some .error := by
  rcases d with _ | _ | _ <;> simp [CallState.of, CallState.fresh]

theorem CallState.closed_of : (CallState.of d).closed = true ↔ d ≠ none := by
  rcases d with _ | _ | _ <;> simp [CallState.of, CallState.fresh]

/-! ### The state of a call -/

/-- Catching leaves a value, or a fault and a world in which nothing else was done. -/
theorem Run.catchFault_cases {α : Type} (x : Run α) (w : World) :
    (∃ a, (x w).1 = .done a ∧ x.catchFault w = (.done (.ok a), (x w).2)) ∨
      (x w).1.Raised ∧ ∃ f w₁, x.catchFault w = (.done (.error f), w₁) ∧
        (x w).1.RaisedAs (x w).2.nextLabel f w₁.nextLabel ∧
        w₁.states = (x w).2.states ∧ w₁.transport = (x w).2.transport := by
  by_cases hraised : (x w).1.Raised
  · obtain ⟨f, w₁, hf, hcatch, hsame⟩ := catchFault_of_raised (x := x) rfl hraised
    exact .inr ⟨hraised, f, w₁, hcatch, hf, hsame⟩
  · obtain ⟨a, ha⟩ : ∃ a, (x w).1 = .done a := by simpa [Outcome.Raised] using hraised
    exact .inl ⟨a, ha, catchFault_of_done (Prod.ext ha rfl)⟩

theorem Plan.perform_close {α : Type} {call : Call} {s : Status} {trailers : Metadata}
    (rest : CallResult → Plan (Outcome α)) {r : CallResult} {w : World}
    (hr : (call.close s trailers w).1 = .done r) :
    (Plan.close s trailers rest).perform call w =
      (rest r).perform call (call.close s trailers w).2 := by
  rw [perform, run, bind_assoc, Run.bind_of_done hr, perform]

namespace GuardedCall

variable {g : GuardedCall} {w : World}

theorem closed_of_decided (h : w.states g.slot = .of d) (hd : d ≠ none) :
    (w.states g.slot).closed = true := by
  rwa [h, CallState.closed_of]

section

variable (hg : g.Steady)

include hg

theorem close_decided (h : w.states g.slot = .of d) (s : Status) (trailers : Metadata) : ∃ r,
    (g.asCall.close s trailers w).1 = .done r ∧
    (g.asCall.close s trailers w).2.states g.slot = .of (d.or (some s.decision)) := by
  cases d with
  | none =>
    obtain ⟨r, hr, -, hstate⟩ := close_active hg h rfl s trailers
    refine ⟨r, hr, hstate.trans ?_⟩
    by_cases hesc : s.Escapes <;> simp [Status.decision, hesc, CallState.of]
  | some d =>
    rw [close_closed (closed_of_decided h nofun)]
    exact ⟨_, rfl, h⟩

theorem handleFailure_decided (h : w.states g.slot = .of d) (f : Fault) :
    (g.handleFailure f w).2.states g.slot = .of (d.or (some .error)) := by
  cases d with
  | none => exact (handleFailure_fresh hg h f rfl rfl).1
  | some d =>
    rw [handleFailure_closed (closed_of_decided h nofun)]
    exact h

/-- A service that follows a plan decides by its first close. If it raises an error at last, this
decides unless a close did. -/
theorem perform_decided {α : Type} (plan : Plan (Outcome α)) (h : w.states g.slot = .of d) : ∃ d',
    (plan.perform g.asCall w).2.states g.slot = .of d' ∧
    (∀ a, (plan.perform g.asCall w).1 = .done a → d' = d.or plan.decision?) ∧
    ((plan.perform g.asCall w).1.Raised → d'.or (some .error) = d.or plan.decision?) := by
  induction plan generalizing w d with
  | finish o =>
    refine ⟨d, h, fun a ha => ?_, fun hraised => ?_⟩
    · obtain rfl : o = .done a := ha
      simp [Plan.decision?]
    · cases o with
      | done a => exact absurd rfl (hraised a)
      | failed | panicked => rfl
  | close s trailers rest ih =>
    obtain ⟨r, hr, h₁⟩ := close_decided hg h s trailers
    obtain ⟨d', h', hdone, hraised⟩ := ih r h₁
    -- the first close has decided, whatever the rest of the plan is
    have hor : ∀ x, (d.or (some s.decision)).or x = d.or (some s.decision) := by
      intro x
      cases d <;> rfl
    rw [Plan.perform_close rest hr]
    exact ⟨d', h', fun a ha => (hdone a ha).trans (hor _), fun hr => (hraised hr).trans (hor _)⟩
  | write es rest ih => exact ih h

end

/-! ### What is handed on -/

/-- Hands an event to a listener, and handles an error that it raises. -/
def tell (g : GuardedCall) (l : Listener) (e : Event) : Run Unit := do
  g.settle (← Run.catchFault (l e))

/-- The guard hands the event on, once, to whatever listener it guards. -/
def Delivers (g : GuardedCall) (e : Event) (w : World) : Prop :=
  ∀ l, g.listener l e w = g.tell l e w

/-- The guard comes back at once, and no listener hears of the event. -/
def Withholds (g : GuardedCall) (e : Event) (w : World) : Prop :=
  ∀ l, g.listener l e w = (.done (), w)

theorem delivers_of_hears {e : Event} (hh : g.Hears e w) : g.Delivers e w := by
  have hskip : ¬(!e.isTerminal && (w.states g.slot).errored) = true := by
    rcases hh with hh | hh <;> simp [hh]
  intro l
  rw [listener, Run.bind_apply, state, Run.read_apply, Run.andThen_done, if_neg hskip]
  rfl

theorem hears_iff {e : Event} (h : w.states g.slot = .of d) :
    g.Hears e w ↔ e.isTerminal = true ∨ d ≠ some .error := by
  rw [Hears, h, ← Bool.not_eq_true, CallState.errored_of]

/-! ### Whatever happens -/

section

variable (hg : g.Steady)

include hg

theorem happen_decided (h : w.states g.slot = .of d) (x : Occurrence) :
    (g.happen x w).2.states g.slot = .of (d.or x.decision?) := by
  cases x with
  | close s trailers =>
    obtain ⟨-, -, hstate⟩ := close_decided hg h s trailers
    exact hstate
  | hear e plan =>
    change (g.listening plan e w).2.states g.slot = .of (d.or plan.decision?)
    by_cases hh : g.Hears e w
    · obtain ⟨d', hstate, hdone, hraised⟩ := perform_decided hg plan h
      obtain ⟨a, ha, hcatch⟩ | ⟨hr, f, w₁, hcatch, -, hstates, -⟩ :=
        Run.catchFault_cases (plan.perform g.asCall) w <;>
        rw [listening_of_hears hh hcatch]
      · rw [← hdone a ha]
        exact hstate
      · rw [← hraised hr]
        exact handleFailure_decided hg (hstates ▸ hstate) f
    · -- after an error nothing else is decided
      have hskipped : g.listening plan e w = (.done (), w) := listener_of_not_hears hh _
      rw [hears_iff h, not_or, Classical.not_not] at hh
      obtain ⟨-, rfl⟩ := hh
      rw [hskipped]
      exact h

/-- The state of a call tells what was decided first. -/
theorem happenAll_decided (h : w.states g.slot = .of d) (xs : List Occurrence) :
    (g.happenAll xs w).2.states g.slot = .of (d.or (xs.findSome? Occurrence.decision?)) := by
  induction xs generalizing w d with
  | nil => rwa [List.findSome?_nil, Option.or_none]
  | cons x xs ih =>
    rw [Occurrence.or_findSome?_cons]
    exact ih (happen_decided hg h x)

end

/-! ### Closed calls -/

section

variable (hc : (w.states g.slot).closed = true) (b : FragileFallback)

include hc

/-- On a closed call a plan is performed without a word to the fallback, which might as well be
another one, and nothing is done to the transport. -/
theorem perform_closed {α : Type} (plan : Plan (Outcome α)) :
    plan.perform { g with fallback := b }.asCall w = plan.perform g.asCall w ∧
    plan.reports { g with fallback := b }.asCall w = plan.reports g.asCall w ∧
    Point.Idle g.slot w (plan.perform g.asCall w).2 := by
  induction plan generalizing w with
  | finish o => exact ⟨rfl, rfl, hc, rfl⟩
  | close s trailers rest ih =>
    have hr := close_closed hc s trailers
    have hr' := close_closed (g := { g with fallback := b }) hc s trailers
    obtain ⟨hperform, hreports, hidle⟩ := ih (.error .alreadyClosed)
      (w := w.after (s.escapedCause w.nextLabel)) hc
    rw [Plan.perform_close rest (congrArg Prod.fst hr),
      Plan.perform_close rest (congrArg Prod.fst hr'), hr, hr']
    refine ⟨hperform, ?_, hidle.closed, hidle.transport⟩
    simp only [Plan.reports, hr, hr', hreports]
  | write es rest ih =>
    obtain ⟨hperform, hreports, hidle⟩ := ih (w := (Run.write es w).2) hc
    exact ⟨hperform, hreports, hidle.closed, hidle.transport⟩

/-- On a closed call every hook comes back, and errors that the listener raises are dropped. -/
theorem listening_closed (e : Event) (plan : Plan (Outcome Unit)) :
    { g with fallback := b }.listening plan e w = g.listening plan e w ∧
    (g.listening plan e w).1 = .done () ∧ Point.Idle g.slot w (g.listening plan e w).2 := by
  by_cases hh : g.Hears e w
  · obtain ⟨hperform, -, hidle⟩ := perform_closed hc b plan
    have hsame : Run.catchFault (plan.perform { g with fallback := b }.asCall) w =
        Run.catchFault (plan.perform g.asCall) w := by
      rw [Run.catchFault, Run.bind_apply, Run.attempt_apply, hperform]
      rfl
    obtain ⟨a, -, hcatch⟩ | ⟨-, f, w₁, hcatch, -, hstates, htransport⟩ :=
      Run.catchFault_cases (plan.perform g.asCall) w <;>
      rw [listening_of_hears hh hcatch,
        listening_of_hears (g := { g with fallback := b }) hh (hsame.trans hcatch)]
    · exact ⟨rfl, rfl, hidle⟩
    · -- an error that comes so late is dropped by either
      have hc₁ : (w₁.states g.slot).closed = true := hstates ▸ hidle.closed
      rw [settle, settle, handleFailure_closed hc₁,
        handleFailure_closed (g := { g with fallback := b }) hc₁]
      exact ⟨rfl, rfl, hc₁, htransport.trans hidle.transport⟩
  · have hskipped : g.listening plan e w = (.done (), w) := listener_of_not_hears hh _
    have hskipped' : { g with fallback := b }.listening plan e w = (.done (), w) :=
      listener_of_not_hears (g := { g with fallback := b }) hh _
    rw [hskipped, hskipped']
    exact ⟨rfl, rfl, hc, rfl⟩

/-- **A closed call is left alone.** Whatever happens to it is not told to the fallback and does
nothing to the transport. -/
theorem happenAll_closed (xs : List Occurrence) :
    { g with fallback := b }.happenAll xs w = g.happenAll xs w ∧
    Point.Idle g.slot w (g.happenAll xs w).2 := by
  induction xs generalizing w with
  | nil => exact ⟨rfl, hc, rfl⟩
  | cons x xs ih =>
    have hx : { g with fallback := b }.happen x w = g.happen x w ∧
        Point.Idle g.slot w (g.happen x w).2 := by
      cases x with
      | close s trailers =>
        rw [happen, happen, close_closed hc, close_closed (g := { g with fallback := b }) hc]
        exact ⟨rfl, hc, rfl⟩
      | hear e plan =>
        obtain ⟨-, hreports, -⟩ := perform_closed hc b plan
        obtain ⟨hlistening, -, hidle⟩ := listening_closed hc b e plan
        rw [happen, happen, hlistening, hreports]
        exact ⟨rfl, hidle⟩
    obtain ⟨hsame, hidle⟩ := hx
    obtain ⟨hsame', hidle'⟩ := ih hidle.closed
    rw [happenAll, happenAll, hsame, hsame']
    exact ⟨rfl, hidle'.closed, hidle'.transport.trans hidle.transport⟩

end

end GuardedCall

/-! ### What a listener notes -/

/-- The plan leaves no note that looks like one of an event. -/
def Plan.Quiet {α : Type} : Plan α → Prop
  | .finish _ => True
  | .close _ _ rest => ∀ r, (rest r).Quiet
  | .write es rest => heardEvents es = [] ∧ rest.Quiet

namespace Occurrence

/-- The same, with a listener that first notes the event. -/
def noting : Occurrence → Occurrence
  | .close s trailers => .close s trailers
  | .hear e plan => .hear e (.write [.heard e] plan)

/-- Nothing else is noted like an event. -/
def Quiet : Occurrence → Prop
  | .close .. => True
  | .hear _ plan => plan.Quiet

@[simp] theorem decision?_noting (x : Occurrence) : x.noting.decision? = x.decision? := by
  cases x <;> rfl

end Occurrence

/-- A fallback leaves no note that looks like one of an event. -/
def Fallback.Quiet (b : Fallback) : Prop :=
  ∀ f n, heardEvents (b.resolve f n).entries = []

/-- The events that a listener noted. -/
def World.heard (w : World) : List Event :=
  heardEvents w.journal

theorem Run.keeps_heard_recorded {α : Type} {x : Recorded α} {es : List Event}
    (hx : ∀ n, heardEvents (x n).entries = []) : (recorded x).Keeps fun w => w.heard = es := by
  intro w hw
  have happend : ((recorded x) w).2.heard = w.heard ++ heardEvents (x w.nextLabel).entries :=
    List.filterMap_append
  rw [happend, hx, List.append_nil, hw]

theorem Fallback.Quiet.keeps_heard {b : FragileFallback} (hb : b.Quiet) (hsteady : b.Steady)
    (es : List Event) : b.Keeps fun w => w.heard = es where
  consult f := by
    rw [FragileFallback.consult_of_steady hsteady]
    exact Run.keeps_heard_recorded (hb f)
  escapedCause s := Run.keeps_heard_recorded fun n => by rw [s.escapedCause_entries n]; rfl
  make _ _ _ := Run.keeps_heard_recorded fun _ => rfl
  log _ _ _ := Run.keeps_heard_recorded fun _ => rfl

namespace GuardedCall

variable {g : GuardedCall} {w : World} (hg : g.Steady) (hb : g.fallback.Quiet)
  {es : List Event}

include hg hb

theorem close_keeps_heard (s : Status) (trailers : Metadata) :
    (g.asCall.close s trailers).Keeps fun w => w.heard = es := by
  refine Call.keeps_closeGuarded (hb.keeps_heard hg.fallback es) (fun _ _ hw => hw) ?_ s trailers
  rw [hg.transport]
  exact fun _ _ _ hw => hw

theorem perform_keeps_heard {α : Type} {plan : Plan (Outcome α)} (hplan : plan.Quiet) :
    (plan.perform g.asCall).Keeps fun w => w.heard = es := by
  refine Run.Keeps.bind ?_ fun o => Run.keeps_raise o
  induction plan with
  | finish o => exact Run.keeps_pure o
  | close s trailers rest ih =>
    exact (close_keeps_heard hg hb s trailers).bind fun r => ih r (hplan r)
  | write notes rest ih =>
    exact (Run.keeps_heard_recorded fun _ => hplan.1).bind fun _ => ih hplan.2

theorem tell_keeps_heard {l : Listener} {e : Event} (hl : (l e).Keeps fun w => w.heard = es) :
    (g.tell l e).Keeps fun w => w.heard = es := by
  refine (hl.catchFault fun p => Run.keeps_heard_recorded fun _ => rfl).bind ?_
  intro r
  cases r with
  | ok => exact Run.keeps_pure ()
  | error f =>
    refine keeps_handleFailure (hb.keeps_heard hg.fallback es) (fun _ _ hw => hw) ?_ f
    rw [hg.transport]
    exact fun _ _ _ hw => hw

theorem heard_happen {x : Occurrence} (hx : x.Quiet) :
    (g.happen x.noting w).2.heard =
      w.heard ++ x.event?.toList.filter fun e => decide (g.Hears e w) := by
  cases x with
  | close s trailers =>
    have hkept := close_keeps_heard hg hb s trailers w rfl
    exact hkept.trans (List.append_nil _).symm
  | hear e plan =>
    rw [Occurrence.event?, Option.toList_some, List.filter_cons, List.filter_nil]
    by_cases hh : g.Hears e w
    · have hnoted : (Run.write [.heard e] w).2.heard = w.heard ++ [e] := List.filterMap_append
      have hkept := tell_keeps_heard hg hb (e := e) (l := fun _ => plan.perform g.asCall)
        (perform_keeps_heard hg hb hx) _ hnoted
      have hdelivered := delivers_of_hears hh fun _ => (Plan.write [.heard e] plan).perform g.asCall
      rw [decide_eq_true hh, if_pos rfl, ← hkept]
      exact congrArg (fun c => c.2.heard) hdelivered
    · have hskipped : g.listening (.write [.heard e] plan) e w = (.done (), w) :=
        listener_of_not_hears hh _
      rw [decide_eq_false hh, if_neg Bool.false_ne_true]
      exact (congrArg (fun c => c.2.heard) hskipped).trans (List.append_nil _).symm

end GuardedCall

/-- The events that are handed on while several things happen, when it is known what was decided
before. -/
def handedOn : Option Decision → List Occurrence → List Event
  | _, [] => []
  | d, x :: xs =>
    x.event?.toList.filter (fun e => decide (e.isTerminal = true ∨ d ≠ some .error)) ++
      handedOn (d.or x.decision?) xs

theorem handedOn_append (d : Option Decision) (xs ys : List Occurrence) :
    handedOn d (xs ++ ys) =
      handedOn d xs ++ handedOn (d.or (xs.findSome? Occurrence.decision?)) ys := by
  induction xs generalizing d with
  | nil => rw [List.findSome?_nil, Option.or_none]; rfl
  | cons x xs ih =>
    rw [List.cons_append, handedOn, handedOn, ih, List.append_assoc, Occurrence.or_findSome?_cons]

/-- Everything is handed on unless an error comes first. -/
theorem handedOn_of_ne_error {xs : List Occurrence}
    (hd : d.or (xs.findSome? Occurrence.decision?) ≠ some .error) :
    handedOn d xs = xs.filterMap Occurrence.event? := by
  induction xs generalizing d with
  | nil => rfl
  | cons x xs ih =>
    have hopen : d ≠ some .error := by
      rintro rfl
      exact hd rfl
    rw [Occurrence.or_findSome?_cons] at hd
    rw [handedOn, ih hd]
    cases hx : x.event? <;> simp [hx, hopen]

/-- After an error only the end of a call is handed on. -/
theorem handedOn_error (xs : List Occurrence) :
    handedOn (some .error) xs = (xs.filterMap Occurrence.event?).filter Event.isTerminal := by
  induction xs with
  | nil => rfl
  | cons x xs ih =>
    rw [handedOn, Option.some_or, ih]
    cases hx : x.event? with
    | none => simp [hx]
    | some e => by_cases he : e.isTerminal = true <;> simp [hx, he]

/-- A listener that notes the events that it hears notes what is handed on. -/
theorem GuardedCall.heard_happenAll {g : GuardedCall} {w : World} (hg : g.Steady)
    (hb : g.fallback.Quiet) (h : w.states g.slot = .of d) {xs : List Occurrence}
    (hxs : ∀ x ∈ xs, x.Quiet) :
    (g.happenAll (xs.map Occurrence.noting) w).2.heard = w.heard ++ handedOn d xs := by
  induction xs generalizing w d with
  | nil => exact (List.append_nil _).symm
  | cons x xs ih =>
    have hstate : (g.happen x.noting w).2.states g.slot = .of (d.or x.decision?) := by
      rw [happen_decided hg h, x.decision?_noting]
    have hheard := heard_happen hg hb (w := w) (hxs x List.mem_cons_self)
    simp only [hears_iff h] at hheard
    rw [List.map_cons, happenAll, handedOn, ← List.append_assoc, ← hheard]
    exact ih hstate fun y hy => hxs y (List.mem_cons_of_mem _ hy)

/-! ### Intercepted calls -/

/-- What becomes of hooks from now on, by what was decided before. -/
structure GuardedCall.Hooks (g : GuardedCall) (d : Option Decision) (w : World) : Prop where
  /-- Unless an error was first, every event is handed on. -/
  delivered : d ≠ some .error → ∀ e, g.Delivers e w
  /-- The end of the call is handed on in any case. -/
  ended : ∀ e, e.isTerminal = true → g.Delivers e w
  /-- After an error nothing else is handed on. -/
  withheld : d = some .error → ∀ e, e.isTerminal = false → g.Withholds e w
  /-- A call that was closed first has no error. -/
  unerrored : d = some .close → (w.states g.slot).errored = false
  /-- Once something was decided, errors and panics of the listener do not come back. -/
  dropped : d ≠ none → ∀ e plan, (g.listening plan e w).1 = .done ()
  /-- They are not resolved either, so that any other fallback would do, and nothing is closed. -/
  settled : d ≠ none → ∀ b xs, { g with fallback := b }.happenAll xs w = g.happenAll xs w ∧
    (g.happenAll xs w).2.transport = w.transport

theorem GuardedCall.hooks_of_decided {g : GuardedCall} {w : World} (h : w.states g.slot = .of d) :
    g.Hooks d w where
  delivered hd e := delivers_of_hears ((hears_iff h).2 (.inr hd))
  ended e he := delivers_of_hears (.inl he)
  withheld := by
    rintro rfl e he
    have hdeaf : ¬g.Hears e w := by simp [hears_iff h, he]
    exact listener_of_not_hears hdeaf
  unerrored := by
    rintro rfl
    rw [h]
    rfl
  dropped hd e plan := (listening_closed (closed_of_decided h hd) g.fallback e plan).2.1
  settled hd b xs := by
    obtain ⟨hsame, hidle⟩ := happenAll_closed (closed_of_decided h hd) b xs
    exact ⟨hsame, hidle.transport⟩

namespace Interception

variable (i : Interception)

/-- What is decided first for a call: while the service is started, or by what happens then. -/
def decision? (xs : List Occurrence) : Option Decision :=
  (i.start i.headers).decision?.or (xs.findSome? Occurrence.decision?)

theorem intercepted_decided {l : Listener} (hl : i.started.1 = .done l) :
    i.intercepted = (.done (i.call.listener l), i.started.2) ∧
      i.intercepted.2.states i.call.slot = .of (i.start i.headers).decision? := by
  have hfresh : (Run.noteStart i.call.asCall i.begun).2.states i.call.slot = .of none := i.fresh
  obtain ⟨d, hstate, hdone, -⟩ :=
    GuardedCall.perform_decided (g := i.call) i.call_steady (i.start i.headers) hfresh
  have hl' : ((i.start i.headers).perform i.call.asCall
      (Run.noteStart i.call.asCall i.begun).2).1 = .done l := hl
  have hintercepted : i.intercepted = Run.andThen _ (Run.catchFault
      ((i.start i.headers).perform i.call.asCall) (Run.noteStart i.call.asCall i.begun).2) := rfl
  have hreceived : i.intercepted = (.done (i.call.listener l), i.started.2) := by
    rw [hintercepted, Run.catchFault_of_done (Prod.ext hl' rfl)]
    rfl
  rw [hreceived]
  exact ⟨rfl, hstate.trans (by rw [hdone l hl', Option.none_or])⟩

/-- While all this happens, a listener that notes the events that it hears notes these. -/
def Notes (xs : List Occurrence) (es : List Event) : Prop :=
  (i.call.happenAll (xs.map Occurrence.noting) i.intercepted.2).2.heard =
    i.intercepted.2.heard ++ es

/-- **Hooks are delivered until the first error.** Whatever a service and its listener do with an
intercepted call, each hook is handed on once until an error comes first, and after it only the end
of the call is. When the call was closed first there is no error: each later hook is handed on, and
what the listener raises is dropped. So a listener hears all events in their order up to the first
error, the one in whose hook it is raised included, and after that the terminal ones. -/
theorem hooks_delivered {l : Listener} (hl : i.started.1 = .done l) :
    i.intercepted.1 = .done (i.call.listener l) ∧
    (∀ xs reports w, i.call.happenAll xs i.intercepted.2 = (reports, w) →
      i.call.Hooks (i.decision? xs) w) ∧
    (i.fallback.Quiet → ∀ xs, (∀ x ∈ xs, x.Quiet) →
      (i.decision? xs ≠ some .error → i.Notes xs (xs.filterMap Occurrence.event?)) ∧
      (i.decision? [] = some .error →
        i.Notes xs ((xs.filterMap Occurrence.event?).filter Event.isTerminal)) ∧
      ∀ before x after, xs = before ++ x :: after →
        i.decision? before = none → x.decision? = some .error →
        i.Notes xs ((before ++ [x]).filterMap Occurrence.event? ++
          (after.filterMap Occurrence.event?).filter Event.isTerminal)) := by
  obtain ⟨hreceived, hstate⟩ := i.intercepted_decided hl
  refine ⟨congrArg Prod.fst hreceived, ?_, ?_⟩
  · intro xs reports w hxs
    have hdecided := GuardedCall.happenAll_decided (g := i.call) i.call_steady hstate xs
    rw [hxs] at hdecided
    exact GuardedCall.hooks_of_decided hdecided
  · intro hb xs hquiet
    have hnotes : i.Notes xs (handedOn (i.start i.headers).decision? xs) :=
      GuardedCall.heard_happenAll (g := i.call) i.call_steady hb hstate hquiet
    refine ⟨fun hd => ?_, fun hd => ?_, ?_⟩
    · rwa [handedOn_of_ne_error hd] at hnotes
    · rw [decision?, List.findSome?_nil, Option.or_none] at hd
      rwa [hd, handedOn_error] at hnotes
    · rintro before x after rfl hbefore hx
      have hbefore' : handedOn (i.start i.headers).decision? before =
          before.filterMap Occurrence.event? := by
        refine handedOn_of_ne_error ?_
        rw [← decision?, hbefore]
        exact nofun
      -- the hook in which the error is raised was handed on before
      have hafter : handedOn none (x :: after) = [x].filterMap Occurrence.event? ++
          (after.filterMap Occurrence.event?).filter Event.isTerminal := by
        rw [handedOn, hx, Option.none_or, handedOn_error]
        cases he : x.event? <;> simp [he]
      rw [handedOn_append, ← decision?, hbefore, hbefore', hafter] at hnotes
      rwa [List.filterMap_append, List.append_assoc]

/-- A call that is served by a listener which does nothing on its own. -/
def served : Interception where
  fallback := ⟨.declining, .silent⟩
  start _ := .finish (.done .silent)
  headers := .empty
  world := .fresh 8 (.fresh ⟨"svc/M", .unary⟩)
  fresh := rfl

/-- A plan to do nothing. -/
def waiting : Plan (Outcome Unit) :=
  .finish (.done ())

/-- The listener fails at the first of two messages: it hears no more but the end of the call. When
the call was closed before, it hears a message and its failure is dropped. -/
theorem hooks_delivered_failing :
    served.Notes [.hear .ready waiting, .hear (.message "first") failing,
        .hear (.message "second") waiting, .hear .halfClose waiting, .hear .complete waiting]
      [.ready, .message "first", .complete] ∧
    ∀ reports w, served.call.happenAll [.close (.plain .ok "") .empty, .hear .ready failing]
        served.intercepted.2 = (reports, w) →
      served.call.Delivers (.message "late") w ∧
        (served.call.listening failing (.message "late") w).1 = .done () := by
  obtain ⟨-, hhooks, hnotes⟩ := served.hooks_delivered (l := .silent) rfl
  have hquiet : served.fallback.Quiet := fun _ _ => rfl
  constructor
  · refine (hnotes hquiet _ ?_).2.2 [.hear .ready waiting] (.hear (.message "first") failing) _ rfl
      rfl rfl
    simp [Occurrence.Quiet, Plan.Quiet, waiting, failing]
  · intro reports w hw
    have hclosed : served.decision? [.close (.plain .ok "") .empty, .hear .ready failing] =
        some .close := rfl
    have hlate := hhooks _ _ _ hw
    rw [hclosed] at hlate
    exact ⟨hlate.delivered nofun _, hlate.dropped nofun _ _⟩

end Interception

end CallGuard
