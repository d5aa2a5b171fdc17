import CallGuard.Proofs.Call.Unmapped
import CallGuard.Proofs.Interceptor.Outermost
import CallGuard.Rehearsal.Script

/-!
# Guards on guards

A chain may put a call under guard several times. When no handler maps an error, the innermost guard
closes the call below it with what is derived from the error. If the code of that is unknown, the
guard there takes the close for an error that escaped, gets the same error back, derives the same
from it again and closes the call below in turn; otherwise it passes the close on. The trailers are
merged with themselves. So the transport is closed once, as if there were a single guard, and
whoever started the chain or told a listener of an event is told of no error.

* `Call.slots`, `Call.Unmapping`, `Call.Open` : calls under guards that derive, on which nothing has
  ended yet;
* `Call.close_derive` : a close with what is derived from an error goes down through all guards;
* `Call.shield_of_done`, `Call.shield_of_raised` : what guards on guards make of a hook of a
  listener;
* `Chain.start_guards_of_done`, `Chain.start_guards_of_raised` : what they make of a start;
* `Chain.stacked_stable` : a whole chain of guards and interceptors that delegate.
-/

namespace CallGuard

/-- From the first transport to the second one a single close was attempted; it was accepted, and is
the only one. -/
structure Transport.Records (t : Transport) (v : Verdict) (u : Transport) : Prop where
  attempts : u.attempts = t.attempts + 1
  closes : u.closes = [v]

/-- An error was handled: what handles it ended with a value, and the transport recorded a single
close with what is derived from the error. -/
def Handled {α β : Type} (raised : Outcome α × World) (handled : Outcome β × World) : Prop :=
  ∃ f n n', raised.1.RaisedAs n f n' ∧ (∃ a, handled.1 = .done a) ∧
    raised.2.transport.Records f.derive handled.2.transport

/-! ### Calls under several guards -/

variable {slot : Nat} {b : FragileFallback} {inner c : Call} {w w' : World} {f : Fault}

namespace Call

/-- The slots of the guards on a call. -/
def slots : Call → List Nat
  | transport _ => []
  | guarded slot _ inner => slot :: inner.slots

/-- The guards on a call have slots of their own, handlers that decline and hooks that come back.
The transport comes back from every close. -/
inductive Unmapping : Call → Prop
  | transport : Unmapping transport
  | guarded {slot : Nat} {b : FragileFallback} {inner : Call} (hslot : slot ∉ inner.slots)
      (hb : b.handler.Declines) (hsteady : b.Steady) (hinner : Unmapping inner) :
      Unmapping (guarded slot b inner)

/-- Nothing has ended the call: its guards are active and its transport accepts a close. -/
structure Open (c : Call) (w : World) : Prop where
  fresh : ∀ slot ∈ c.slots, w.states slot = .fresh
  accepts : w.transport.Accepts

theorem Open.fresh_slot (h : (guarded slot b inner).Open w) : w.states slot = .fresh :=
  h.fresh slot List.mem_cons_self

theorem Open.below (h : (guarded slot b inner).Open w) : inner.Open w :=
  ⟨fun i hi => h.fresh i (List.mem_cons_of_mem _ hi), h.accepts⟩

theorem Open.of_agreesOff (h : c.Open w) (hw : w.AgreesOff slot w') (hslot : slot ∉ c.slots) :
    c.Open w' where
  fresh i hi := (hw.states i fun heq => hslot (heq ▸ hi)).trans (h.fresh i hi)
  accepts := hw.transport ▸ h.accepts

/-- **What is derived from an error is stable.** A close with it goes down through all guards, each
of which resolves the error again or passes the close on. -/
theorem close_derive (hc : c.Unmapping) (hw : c.Open w) (f : Fault) : ∃ w',
    c.close f.derive.status f.derive.trailers w = (.done (.ok ()), w') ∧
      w.transport.Records f.derive w'.transport := by
  induction hc generalizing w with
  | transport =>
    obtain ⟨hdone, hcloses⟩ := hw.accepts.close f.derive.status f.derive.trailers
    rw [close_transport, Run.onTransport_apply, hdone]
    exact ⟨_, rfl, Transport.attempts_close .., hcloses⟩
  | @guarded slot b inner hslot hb hsteady _ ih =>
    by_cases hcode : f.derive.status.code = .unknown
    · -- the close is taken for an error that escaped, which is the same error
      have hcause : (f.derive.status.escapedCause w.nextLabel).value = some f := by
        rw [Status.escapedCause, if_pos hcode, f.derive_source]
        rfl
      obtain ⟨n, w₁, hw₁, hclose⟩ :=
        close_escaped inner f.derive.trailers hsteady hw.fresh_slot hcause
      rw [Fallback.resolve_of_declines hb, Metadata.merge_self] at hclose
      rw [hclose, ← hw₁.transport]
      exact ih (hw.below.of_agreesOff hw₁ hslot)
    · have hcause : (f.derive.status.escapedCause w.nextLabel).value = none := by
        rw [Status.escapedCause, if_neg hcode]
        rfl
      obtain ⟨w₁, hw₁, hclose⟩ := close_plain (b := b) inner f.derive.trailers hw.fresh_slot hcause
      rw [hclose, ← hw₁.transport]
      exact ih (hw.below.of_agreesOff hw₁ hslot)

end Call

/-! ### Errors under several guards -/

theorem GuardedCall.handleFailure_of_open {g : GuardedCall} (hg : g.asCall.Unmapping)
    (hw : g.asCall.Open w) (f : Fault) : ∃ w', g.handleFailure f w = (.done (), w') ∧
      w.transport.Records f.derive w'.transport := by
  rcases hg with _ | ⟨hslot, hb, hsteady, hinner⟩
  obtain ⟨n, w₁, hw₁, hhandle⟩ := handleFailure_of_closes hsteady hw.fresh_slot f
  rw [Fallback.resolve_of_declines hb] at hhandle
  obtain ⟨w₂, hclose, hrecords⟩ := Call.close_derive hinner (hw.below.of_agreesOff hw₁ hslot) f
  exact ⟨w₂, hhandle w₂ hclose, hw₁.transport ▸ hrecords⟩

namespace Call

/-- A listener under all guards of a call, the innermost guard first. -/
def shield : Call → Listener → Listener
  | transport _, l => l
  | guarded slot b inner, l => inner.shield ((⟨slot, b, inner⟩ : GuardedCall).listener l)

variable {l : Listener} {e : Event}

theorem Open.hears (h : (guarded slot b inner).Open w) (e : Event) :
    GuardedCall.Hears ⟨slot, b, inner⟩ e w := by
  refine .inr ?_
  rw [h.fresh_slot]
  rfl

/-- The guards leave a hook alone that ends without an error. -/
theorem shield_of_done (hw : c.Open w) (h : l e w = (.done (), w')) :
    c.shield l e w = (.done (), w') := by
  induction c generalizing l with
  | transport => exact h
  | guarded slot b inner ih =>
    exact ih hw.below (GuardedCall.listener_of_hears (hw.hears e) (Run.catchFault_of_done h))

/-- **An error of a hook is handled once.** The innermost guard does that, and the others hear of no
error. -/
theorem shield_of_raised (hne : c ≠ .transport) (hc : c.Unmapping) (hw : c.Open w)
    (hraised : (l e w).1.Raised) (hopen : c.Open (l e w).2) : Handled (l e w) (c.shield l e w) := by
  cases c with
  | transport =>
    cases hc
    exact absurd rfl hne
  | guarded slot b inner =>
    obtain ⟨f, w₁, hf, hcatch, hstates, htransport⟩ :=
      Run.catchFault_of_raised (x := l e) (w := w) rfl hraised
    have hopen₁ : (guarded slot b inner).Open w₁ :=
      ⟨fun i hi => hstates ▸ hopen.fresh i hi, htransport ▸ hopen.accepts⟩
    obtain ⟨w₂, hhandle, hrecords⟩ :=
      GuardedCall.handleFailure_of_open (g := ⟨slot, b, inner⟩) hc hopen₁ f
    have hlistener := GuardedCall.listener_of_hears (hw.hears e) hcatch
    have hshield := shield_of_done hw.below (hlistener.trans hhandle)
    refine ⟨f, _, _, hf, ⟨(), ?_⟩, ?_⟩
    · rw [shield, hshield]
    · rw [shield, hshield, ← htransport]
      exact hrecords

/-- A call that was put under guard by each of the fallbacks in turn, in slots from `n` on. -/
def stack (n : Nat) : List Fallback → Call → Call
  | [], c => c
  | b :: bs, c => stack (n + 1) bs (guarded n b c)

variable {n : Nat} {bs : List Fallback}

theorem Unmapping.stack (hb : ∀ b ∈ bs, b.handler.Declines) (hc : c.Unmapping)
    (hn : ∀ slot ∈ c.slots, slot < n) : (stack n bs c).Unmapping := by
  induction bs generalizing n c with
  | nil => exact hc
  | cons b bs ih =>
    refine ih (fun b' hb' => hb b' (List.mem_cons_of_mem _ hb')) (c := Call.guarded n b c) ?_ ?_
    · exact .guarded (fun hslot => Nat.lt_irrefl n (hn n hslot)) (hb b List.mem_cons_self)
        b.steady_steady hc
    · rintro slot hslot
      rcases List.mem_cons.1 hslot with rfl | hslot
      · exact Nat.lt_succ_self _
      · exact Nat.lt_succ_of_lt (hn slot hslot)

theorem stack_ne_transport (hbs : bs ≠ []) (n : Nat) (c : Call) : stack n bs c ≠ .transport := by
  have hguarded : ∀ bs n slot b c, stack n bs (guarded slot b c) ≠ .transport := by
    intro bs
    induction bs with
    | nil => exact fun n slot b c => nofun
    | cons b' bs ih => exact fun n slot b c => ih (n + 1) n b' (guarded slot b c)
  cases bs with
  | nil => exact absurd rfl hbs
  | cons b bs => exact hguarded bs (n + 1) n b c

end Call

/-! ### Starts under several guards -/

namespace Interceptor

variable {st : Start} {headers : Metadata} {l : Listener}

theorem interceptGuarded_apply (b : FragileFallback) (st : Start) (c : Call) (headers : Metadata)
    (w : World) : interceptGuarded b st c headers w =
      Run.andThen (GuardedCall.receive ⟨w.nextSlot, b, c⟩)
        ((st (.guarded w.nextSlot b c) headers).catchFault
          { w with nextSlot := w.nextSlot + 1 }) :=
  rfl

theorem interceptGuarded_of_done
    (h : st (.guarded w.nextSlot b c) headers { w with nextSlot := w.nextSlot + 1 } =
      (.done l, w')) :
    interceptGuarded b st c headers w =
      (.done ((⟨w.nextSlot, b, c⟩ : GuardedCall).listener l), w') := by
  rw [interceptGuarded_apply, Run.catchFault_of_done h]
  rfl

theorem interceptGuarded_of_raised (hc : (Call.guarded w.nextSlot b c).Unmapping)
    {started : Outcome Listener × World}
    (h : st (.guarded w.nextSlot b c) headers { w with nextSlot := w.nextSlot + 1 } = started)
    (hraised : started.1.Raised) (hopen : (Call.guarded w.nextSlot b c).Open started.2) :
    Handled started (interceptGuarded b st c headers w) := by
  obtain ⟨f, w₁, hf, hcatch, hstates, htransport⟩ := Run.catchFault_of_raised h hraised
  obtain ⟨t, -, hreceive⟩ := GuardedCall.receive_error ⟨w.nextSlot, b, c⟩ f w₁
  have hopen₁ : (Call.guarded w.nextSlot b c).Open (w₁.after t) :=
    ⟨fun i hi => hstates ▸ hopen.fresh i hi, htransport ▸ hopen.accepts⟩
  obtain ⟨w₂, hhandle, hrecords⟩ :=
    GuardedCall.handleFailure_of_open (g := ⟨w.nextSlot, b, c⟩) hc hopen₁ f
  rw [interceptGuarded_apply, hcatch, Run.andThen_done, hreceive, hhandle]
  exact ⟨f, _, _, hf, ⟨.silent, rfl⟩, htransport ▸ hrecords⟩

end Interceptor

namespace Chain

open Interceptor (guarding)

variable {bs : List Fallback} {st : Start} {headers : Metadata} {l : Listener}

theorem start_guards_of_done
    (h : st (.stack w.nextSlot bs c) headers { w with nextSlot := w.nextSlot + bs.length } =
      (.done l, w')) : ∃ l', start ⟨bs.map guarding, st⟩ c headers w = (.done l', w') ∧
        c.shield l' = (Call.stack w.nextSlot bs c).shield l := by
  induction bs generalizing c w with
  | nil => exact ⟨l, h, rfl⟩
  | cons b bs ih =>
    rw [List.length_cons, Nat.add_comm bs.length, ← Nat.add_assoc] at h
    obtain ⟨l', hstart, hshield⟩ := ih (w := { w with nextSlot := w.nextSlot + 1 }) h
    exact ⟨_, Interceptor.interceptGuarded_of_done hstart, hshield⟩

/-- **An error of a start is handled once.** -/
theorem start_guards_of_raised (hbs : bs ≠ []) (hc : (Call.stack w.nextSlot bs c).Unmapping)
    {started : Outcome Listener × World}
    (h : st (.stack w.nextSlot bs c) headers { w with nextSlot := w.nextSlot + bs.length } =
      started)
    (hraised : started.1.Raised) (hopen : (Call.stack w.nextSlot bs c).Open started.2) :
    Handled started (start ⟨bs.map guarding, st⟩ c headers w) := by
  induction bs generalizing c w with
  | nil => exact absurd rfl hbs
  | cons b bs ih =>
    cases bs with
    | nil => exact Interceptor.interceptGuarded_of_raised hc h hraised hopen
    | cons b' bs =>
      rw [List.length_cons, Nat.add_comm (b' :: bs).length, ← Nat.add_assoc] at h
      obtain ⟨f, n, n', hf, ⟨l, hdone⟩, hrecords⟩ :=
        ih (w := { w with nextSlot := w.nextSlot + 1 }) (List.cons_ne_nil b' bs) hc h hopen
      -- the guards below have handled the error, and this one receives their listener
      have hstart : start ⟨(b :: b' :: bs).map guarding, st⟩ c headers w = _ :=
        Interceptor.interceptGuarded_of_done (Prod.ext hdone rfl)
      rw [hstart]
      exact ⟨f, n, n', hf, ⟨_, rfl⟩, hrecords⟩

end Chain

/-! ### Interceptors that delegate -/

/-- The worlds differ in labels and the journal alone. -/
structure World.SameCalls (w w' : World) : Prop where
  transport : w'.transport = w.transport
  nextSlot : w'.nextSlot = w.nextSlot
  states : w'.states = w.states
  started : w'.started = w.started

namespace World.SameCalls

theorem refl (w : World) : w.SameCalls w :=
  ⟨rfl, rfl, rfl, rfl⟩

theorem trans {w₁ w₂ w₃ : World} (h : w₁.SameCalls w₂) (h' : w₂.SameCalls w₃) :
    w₁.SameCalls w₃ where
  transport := h'.transport.trans h.transport
  nextSlot := h'.nextSlot.trans h.nextSlot
  states := h'.states.trans h.states
  started := h'.started.trans h.started

end World.SameCalls

/-- Whoever starts `st` has `next` started with the call, once, and gets whatever comes back. The
headers may be others, labels may be taken and entries written. -/
def Start.PassesTo (st next : Start) : Prop :=
  ∀ call headers w, ∃ headers' w₀ w₁, w.SameCalls w₀ ∧
    (next call headers' w₀).2.SameCalls w₁ ∧
    st call headers w = ((next call headers' w₀).1, w₁)

/-- The interceptor goes on with the call that it is given, and hands out whatever comes back. -/
def Interceptor.Delegates (i : Interceptor) : Prop :=
  ∀ next, (i.intercept next).PassesTo next

theorem Chain.start_passesTo {is : List Interceptor} (his : ∀ i ∈ is, i.Delegates)
    (service : Start) : (start ⟨is, service⟩).PassesTo service := by
  induction is with
  | nil => exact fun call headers w => ⟨headers, w, _, .refl w, .refl _, rfl⟩
  | cons i is ih =>
    intro call headers w
    obtain ⟨headers₁, w₀, w₁, hw₀, hw₁, hstart⟩ :=
      his i List.mem_cons_self (start ⟨is, service⟩) call headers w
    obtain ⟨headers', w₀', w₁', hw₀', hw₁', hrest⟩ :=
      ih (fun j hj => his j (List.mem_cons_of_mem _ hj)) call headers₁ w₀
    rw [hrest] at hstart hw₁
    exact ⟨headers', w₀', w₁, hw₀.trans hw₀', hw₁'.trans hw₁, hstart⟩

/-- An interceptor delegates that writes entries and goes on, with headers that may be others. -/
theorem Interceptor.delegates_following (name : String) (order : Int)
    (entries : Metadata → List Entry) (change : Metadata → Metadata) :
    (following name order fun headers =>
      .write (entries headers) (.finish (.goOn (change headers) .finish))).Delegates := by
  intro next call headers w
  exact ⟨change headers, w.after (Recorded.write (entries headers) w.nextLabel), _,
    ⟨rfl, rfl, rfl, rfl⟩, .refl _, rfl⟩

/-- So does one that adds headers, following a script. -/
theorem InterceptorScript.delegates_addHeader (name : String) (order : Int) (extra : Metadata) :
    (interceptor ⟨name, order, .addHeader extra⟩).Delegates :=
  Interceptor.delegates_following name order (fun headers => [.entered name headers])
    (·.merge extra)

/-! ### Chains -/

/-- What becomes of a listener under guards on a call, as long as the call is open: a hook that ends
with an error is handled, and one that does not is left alone. -/
structure Call.Covers (c : Call) (l l' : Listener) : Prop where
  quiet : ∀ e w, c.Open w → (l e w).1 = .done () → l' e w = l e w
  raised : ∀ e w, c.Open w → (l e w).1.Raised → c.Open (l e w).2 → Handled (l e w) (l' e w)

/-- What becomes of a start with a call under guards: an error is handled if the call is open by
then, and the listener that comes back is put under the guards. -/
structure Call.Absorbs (c : Call) (started outer : Outcome Listener × World) : Prop where
  raised : started.1.Raised → c.Open started.2 → Handled started outer
  done : ∀ l, started.1 = .done l →
    ∃ l', outer.1 = .done l' ∧ started.2.SameCalls outer.2 ∧ c.Covers l l'

theorem Call.covers_shield (hne : c ≠ .transport) (hc : c.Unmapping) (l : Listener) :
    c.Covers l (c.shield l) where
  quiet e w hopen hdone := by
    rw [← Prod.eta (l e w), hdone]
    exact shield_of_done hopen (Prod.ext hdone rfl)
  raised _ _ := shield_of_raised hne hc

namespace Chain

open Interceptor (guarding)

/-- **Stacked guards are stable.** In a chain of one or more guards, whose handlers decline, and of
interceptors that delegate, the service is started with a call that is put under all guards. The
first error, of the start or of a hook, has the transport closed once, with what is derived from the
error, however many guards there are, and whoever started the chain or told the listener is told of
no error. -/
theorem stacked_stable {bs : List Fallback} (hbs : bs ≠ []) (hb : ∀ b ∈ bs, b.handler.Declines)
    {others : List Interceptor} (hothers : ∀ i ∈ others, i.Delegates) (service : Start)
    (headers : Metadata) (w : World) :
    ∃ headers' w₀, World.SameCalls { w with nextSlot := w.nextSlot + bs.length } w₀ ∧
      (Call.stack w.nextSlot bs .transport).Absorbs
        (service (.stack w.nextSlot bs .transport) headers' w₀)
        (start ⟨bs.map guarding ++ others, service⟩ .transport headers w) := by
  have hunmapping : (Call.stack w.nextSlot bs .transport).Unmapping := .stack hb .transport nofun
  have hne := Call.stack_ne_transport hbs w.nextSlot .transport
  obtain ⟨headers', w₀, w₁, hw₀, hw₁, hrest⟩ := start_passesTo hothers service
    (.stack w.nextSlot bs .transport) headers { w with nextSlot := w.nextSlot + bs.length }
  refine ⟨headers', w₀, hw₀, ?_⟩
  rw [start, List.foldr_append]
  constructor
  · intro hraised hopen
    obtain ⟨f, n, n', hf, hdone, hrecords⟩ := start_guards_of_raised hbs hunmapping hrest hraised
      ⟨fun i hi => hw₁.states ▸ hopen.fresh i hi, hw₁.transport ▸ hopen.accepts⟩
    exact ⟨f, n, n', hf, hdone, hw₁.transport ▸ hrecords⟩
  · intro l hl
    rw [hl] at hrest
    obtain ⟨l', hstart, hshield⟩ := start_guards_of_done hrest
    obtain rfl : l' = Call.shield _ l := hshield
    refine ⟨_, congrArg Prod.fst hstart, ?_, Call.covers_shield hne hunmapping l⟩
    exact congrArg Prod.snd hstart ▸ hw₁

/-- A service that fails with a fault from which a status of unknown code is derived. -/
def failingService : Start :=
  .following fun _ => .finish (.failed statusFault)

/-- An interceptor that adds a header. -/
def tagging : Interceptor :=
  InterceptorScript.interceptor ⟨"tagging", 0, .addHeader (Metadata.empty.add "tag" "7")⟩

/-- Two guards before an interceptor that adds a header: the outer guard gets the fault back from
the close of the inner one, and the call is closed once. -/
theorem stacked_stable_twice : ∃ l w,
    start ⟨[⟨.declining, .silent⟩, ⟨.declining, .silent⟩].map guarding ++ [tagging],
      failingService⟩ .transport .empty calledWorld = (.done l, w) ∧
    w.transport.closes = [statusFault.derive] := by
  have hb : ∀ b ∈ ([⟨.declining, .silent⟩, ⟨.declining, .silent⟩] : List Fallback),
      b.handler.Declines := by
    simp [Handler.Declines, Handler.declining]
  have hothers : ∀ i ∈ [tagging], i.Delegates := by
    simp [tagging, InterceptorScript.delegates_addHeader]
  obtain ⟨headers', w₀, hw₀, habsorbs⟩ :=
    stacked_stable (List.cons_ne_nil _ _) hb hothers failingService .empty calledWorld
  obtain ⟨f, n, n', hf, ⟨l, hdone⟩, hrecords⟩ := habsorbs.raised (Outcome.raised_failed _)
    ⟨fun i _ => congrFun hw₀.states i, hw₀.transport ▸ ⟨rfl, rfl⟩⟩
  cases hf
  have hcloses := hrecords.closes
  generalize start _ _ _ _ = c at hdone hcloses ⊢
  obtain ⟨_, w⟩ := c
  exact ⟨l, w, Prod.ext hdone rfl, hcloses⟩

end Chain

end CallGuard
