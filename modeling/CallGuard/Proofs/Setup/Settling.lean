import CallGuard.Setup
import CallGuard.Proofs.Advice.Argument

/-!
# How a fault is settled

A fault comes to its verdict in one of five ways: a method maps it, a method fails, a handler beside
the advices answers, or the verdict is derived because all decline or because one panics. The
observer is told of four of them, and never of an answer that a handler beside the advices gives
(`Setup.Settles`).

What the observer is told stands in the journal in some form, which a view of the journal shows
(`Setup.Viewed`).

* `Setup.build_eq_ok_some_iff` : what a setup builds;
* `Setup.Viewed.handle_says` : what a dispatcher says to a fault, and what it tells its observer;
* `Setup.Viewed.resolve_settles` : how a fault is settled by what a setup builds.
-/

namespace CallGuard

/-! ### Views of the journal -/

section

variable {α β ε : Type} {view : Entry → Option ε}

/-- What a view shows of what was written. -/
def Trace.shown (view : Entry → Option ε) (t : Trace α) : List ε :=
  t.entries.filterMap view

namespace Recorded

/-- The computation writes nothing that a view shows. -/
def Hides (view : Entry → Option ε) (x : Recorded α) : Prop :=
  ∀ n, (x n).shown view = []

/-- What a view shows of the computation and its value always meet a condition. -/
def Ensures (view : Entry → Option ε) (x : Recorded α) (q : List ε → α → Prop) : Prop :=
  ∀ n, q ((x n).shown view) (x n).value

variable {x : Recorded α} {a : α}

theorem shown_bind (x : Recorded α) (f : α → Recorded β) (n : Label) :
    ((x >>= f) n).shown view =
      (x n).shown view ++ (f (x n).value (n + (x n).minted)).shown view := by
  rw [Trace.shown, bind_entries, List.filterMap_append]
  rfl

theorem hides_pure (a : α) : Hides view (pure a : Recorded α) :=
  fun _ => rfl

theorem hides_fresh : Hides view fresh :=
  fun _ => rfl

theorem Hides.bind_ensures (hx : Hides view x) {f : α → Recorded β} {q : List ε → β → Prop}
    (hf : ∀ a, Ensures view (f a) q) : Ensures view (x >>= f) q := by
  intro n
  rw [shown_bind, hx, List.nil_append, bind_value]
  exact hf _ _

theorem Hides.bind (hx : Hides view x) {f : α → Recorded β} (hf : ∀ a, Hides view (f a)) :
    Hides view (x >>= f) :=
  hx.bind_ensures (q := fun es _ => es = []) hf

theorem Ensures.bind_pure {g : α → β} {q : List ε → β → Prop}
    (hx : Ensures view x fun es a => q es (g a)) : Ensures view (x >>= fun a => pure (g a)) q := by
  intro n
  rw [shown_bind, bind_value]
  exact (List.append_nil ((x n).shown view)).symm ▸ hx n

end Recorded

end

open Recorded (Hides Ensures)

variable {ε : Type} {view : Entry → Option ε} {told : Notification → List ε}

namespace Handler

theorem first_append (hs gs : List Handler) (f : Fault) : first (hs ++ gs) f = (do
    match ← first hs f with
    | .declined => first gs f
    | reply => pure reply) := by
  induction hs with
  | nil => simp only [List.nil_append, first, declining, pure_bind]
  | cons h hs ih =>
    rw [List.cons_append, first, first, bind_assoc]
    refine bind_congr fun reply => ?_
    cases reply with
    | declined => exact ih
    | answered v => rfl
    | panicked p => rfl

theorem first_singleton (h : Handler) (f : Fault) : first [h] f = h f := by
  have hpure : (fun reply : Reply => match reply with
      | .declined => first [] f
      | reply => pure reply) = pure := by
    funext reply
    cases reply <;> rfl
  exact (congrArg (h f >>= ·) hpure).trans (bind_pure (h f))

theorem first_hides {hs : List Handler} (hh : ∀ h ∈ hs, ∀ f, Hides view (h f)) (f : Fault) :
    Hides view (first hs f) := by
  induction hs with
  | nil => exact Recorded.hides_pure _
  | cons h hs ih =>
    refine (hh h List.mem_cons_self f).bind fun reply => ?_
    cases reply with
    | declined => exact ih fun g hg => hh g (List.mem_cons_of_mem _ hg)
    | answered v => exact Recorded.hides_pure _
    | panicked p => exact Recorded.hides_pure _

end Handler

/-! ### What is built -/

namespace Registry

theorem registerAll_value_eq_ok_iff {r r' : Registry} {i : Nat} {advices : List Advice}
    {n : Label} : (registerAll r i advices n).value = .ok r' ↔ r.addAll advices = .ok r' := by
  induction advices generalizing r i n with
  | nil =>
    rw [registerAll, addAll, Recorded.pure_apply]
    simp only [Except.ok.injEq]
  | cons a advices ih =>
    have hreg : ∀ n, (r.register a n).value = r.add a := fun _ => rfl
    rw [registerAll, Recorded.bind_value, hreg, addAll]
    cases r.add a with
    | error e => simp
    | ok r₁ => exact ih

end Registry

namespace Setup

variable {s : Setup} {r : Registry} {b : Fallback} {n : Label}

/-- What dispatches faults to the methods of the advices. -/
def dispatcher (s : Setup) (r : Registry) : Dispatcher :=
  ⟨r, s.observer, s.handler.failureDescription⟩

/-- The methods of the advices as handlers, if there are any. -/
def advised (s : Setup) (r : Registry) : List Handler :=
  if r.isEmpty then [] else [(s.dispatcher r).handle]

theorem build_value_of_enabled (he : s.handler.enabled = true) : (s.build n).value =
    match (Registry.registerAll (.empty s.hierarchy) 0 s.advices n).value with
    | .error e => .error e
    | .ok r => .ok (some ⟨.first (s.chain r), s.observer⟩) := by
  unfold build
  rw [he, Bool.not_true, if_neg Bool.false_ne_true, Recorded.bind_value]
  cases (Registry.registerAll (.empty s.hierarchy) 0 s.advices n).value <;> rfl

/-- What a handler beside the advices answers to a fault, when the methods of the advices leave it
open. -/
def answerBeside? (s : Setup) (r : Registry) (f : Fault) (n : Label) : Option Verdict :=
  match Handler.first (s.advised r) f n with
  | ⟨.declined, m, _⟩ =>
    match (Handler.first s.handlers f (n + m)).value with
    | .answered v => some v
    | _ => none
  | _ => none

/-- **What is built.** When errors are handled and the advices can be registered, the methods of
the advices and the further handlers, with a fallback behind them. -/
theorem build_eq_ok_some_iff : (s.build n).value = .ok (some b) ↔ s.handler.enabled = true ∧
    ∃ r, (Registry.empty s.hierarchy).addAll s.advices = .ok r ∧
      b = ⟨.first (s.advised r ++ s.handlers), s.observer⟩ := by
  cases he : s.handler.enabled with
  | false =>
    have hoff : (s.build n).value = .ok none := by
      unfold build
      rw [he]
      rfl
    simp [hoff]
  | true =>
    rw [build_value_of_enabled he]
    simp only [true_and, ← Registry.registerAll_value_eq_ok_iff (i := 0) (n := n)]
    cases (Registry.registerAll (.empty s.hierarchy) 0 s.advices n).value with
    | error e => simp
    | ok r =>
      simp only [Except.ok.injEq, Option.some.injEq, exists_eq_left']
      exact eq_comm

end Setup

/-! ### What the observer is told -/

/-- What a dispatcher says to a fault, and what it tells its observer. -/
inductive Dispatcher.Says (f : Fault) : List Notification → Reply → Prop
  | nothing : Says f [] .declined
  | mapped (v : Verdict) : Says f [.dispatched f v] (.answered v)
  | failed (failure : Fault) {v : Verdict} (hv : v.code = .internal) :
      Says f [.handlerFailed failure] (.answered v)

/-- How a fault is settled: what the observer is told, the verdict, and the answer of a handler
beside the advices, if it is one. -/
inductive Setup.Settles (f : Fault) : List Notification → Verdict → Option Verdict → Prop
  | mapped (v : Verdict) : Settles f [.dispatched f v] v none
  | failed (failure : Fault) {v : Verdict} (hv : v.code = .internal) :
      Settles f [.handlerFailed failure] v none
  | beside (v : Verdict) : Settles f [] v (some v)
  | declined : Settles f [.unmapped f, .derived f f.derive] f.derive none
  | panicked : Settles f [.derived f f.derive] f.derive none

/-- A view shows what the observer of a setup is told, and nothing that methods and handlers
write. -/
structure Setup.Viewed (s : Setup) (view : Entry → Option ε) (told : Notification → List ε) :
    Prop where
  log : ∀ e, view (.logged e) = none
  observer : ∀ notice, (s.observer notice).filterMap view = told notice
  methods : ∀ a ∈ s.advices, ∀ m ∈ a.methods, ∀ args, Hides view (m.run args)
  handlers : ∀ h ∈ s.handlers, ∀ f, Hides view (h f)

namespace Setup.Viewed

variable {s : Setup} (hs : s.Viewed view told)

include hs

theorem hides_log {level : Level} {message : String} {fields : List (String × LogValue)} :
    Hides view (Recorded.log level message fields) := by
  intro n
  simp [Trace.shown, Recorded.log, Entry.log, hs.log]

theorem shown_tell (notice : Notification) (n : Label) :
    (Recorded.write (s.observer notice) n).shown view = told notice :=
  hs.observer notice

/-- The method that is found for a kind is one of the advices. -/
theorem hides_invoke {r : Registry} (hr : (Registry.empty s.hierarchy).addAll s.advices = .ok r)
    (f : Fault) : Hides view ((s.dispatcher r).invoke f) := by
  unfold Dispatcher.invoke
  split
  · exact Recorded.hides_pure _
  · next b hb =>
    refine hs.hides_log.bind fun _ => ?_
    obtain ⟨hmem, -⟩ := Binding.mapped_of_resolve? hr hb
    obtain ⟨a, ha, hmem⟩ := List.mem_flatMap.1 hmem
    obtain ⟨⟨m, i⟩, hm, rfl⟩ := List.mem_map.1 hmem
    exact hs.methods a ha m (List.fst_mem_of_mem_zipIdx hm) _

theorem ensures_tell {α : Type} {a : α} {q : List ε → α → Prop} (notice : Notification)
    (hq : q (told notice) a) :
    Ensures view (do Recorded.write (s.observer notice); return a) q := by
  refine Recorded.Ensures.bind_pure fun n => ?_
  rw [hs.shown_tell]
  exact hq

theorem failureVerdict_says {r : Registry} (f failure : Fault) :
    Ensures view ((s.dispatcher r).failureVerdict f failure) fun es v =>
      ∃ ns, Dispatcher.Says f ns (.answered v) ∧ es = ns.flatMap told := by
  have htell : ∀ (failure : Fault) (v : Verdict), v.code = .internal →
      Ensures view (do Recorded.write (s.observer (.handlerFailed failure)); return v)
        fun es v => ∃ ns, Dispatcher.Says f ns (.answered v) ∧ es = ns.flatMap told :=
    fun failure v hv =>
      hs.ensures_tell _ ⟨_, .failed failure hv, (List.flatMap_singleton ..).symm⟩
  unfold Dispatcher.failureVerdict
  dsimp only
  -- a method that fails with the fault that it was asked about does not suppress it
  split
  · rw [pure_bind]
    exact htell _ _ rfl
  · refine Recorded.Hides.bind_ensures ?_ fun failure => htell failure _ rfl
    exact Recorded.hides_fresh.bind fun _ => Recorded.hides_pure _

theorem handle_says {r : Registry} (hr : (Registry.empty s.hierarchy).addAll s.advices = .ok r)
    (f : Fault) : Ensures view ((s.dispatcher r).handle f) fun es reply =>
      ∃ ns, Dispatcher.Says f ns reply ∧ es = ns.flatMap told := by
  refine hs.hides_log.bind_ensures fun _ => (hs.hides_invoke hr f).bind_ensures fun outcome => ?_
  match outcome with
  | .done none => exact fun n => ⟨_, .nothing, rfl⟩
  | .done (some answer) =>
    exact hs.ensures_tell _ ⟨_, .mapped _, (List.flatMap_singleton ..).symm⟩
  | .failed failure => exact (hs.failureVerdict_says f failure).bind_pure
  | .panicked payload =>
    -- the panic becomes a fault, which takes a label and leaves nothing in the journal
    refine Recorded.Hides.bind_ensures ?_ fun failure =>
      (hs.failureVerdict_says f failure).bind_pure
    exact Recorded.hides_fresh.bind fun _ => Recorded.hides_pure _

theorem advised_says {r : Registry} (hr : (Registry.empty s.hierarchy).addAll s.advices = .ok r)
    (f : Fault) : Ensures view (Handler.first (s.advised r) f) fun es reply =>
      ∃ ns, Dispatcher.Says f ns reply ∧ es = ns.flatMap told := by
  unfold Setup.advised
  split
  · exact fun n => ⟨_, .nothing, rfl⟩
  · rw [Handler.first_singleton]
    exact hs.handle_says hr f

variable {b : Fallback}

theorem derive_tells (ho : b.observer = s.observer) (f : Fault) :
    Ensures view (b.derive f) fun es v => v = f.derive ∧ es = told (.derived f f.derive) := by
  rw [Fallback.derive_eq, Fallback.tell, ho]
  exact hs.ensures_tell _ ⟨rfl, rfl⟩

theorem settle_declined (ho : b.observer = s.observer) (f : Fault) :
    Ensures view (b.settle f .declined) fun es v =>
      v = f.derive ∧ es = [.unmapped f, .derived f f.derive].flatMap told := by
  intro n
  refine ⟨rfl, ?_⟩
  rw [Fallback.settle_declined, Fallback.tell, Recorded.shown_bind, ho, hs.shown_tell,
    (hs.derive_tells ho f _).2]
  simp

theorem settle_panicked (ho : b.observer = s.observer) (f : Fault) (p : Payload) :
    Ensures view (b.settle f (.panicked p)) fun es v =>
      v = f.derive ∧ es = [.derived f f.derive].flatMap told := by
  rw [Fallback.settle_panicked]
  refine Recorded.Hides.bind_ensures ?_ fun panic => hs.hides_log.bind_ensures fun _ => ?_
  · exact Recorded.hides_fresh.bind fun _ => Recorded.hides_pure _
  · simpa using hs.derive_tells ho f

/-- **How one fault is settled.** -/
theorem resolve_settles {r : Registry}
    (hr : (Registry.empty s.hierarchy).addAll s.advices = .ok r)
    (hb : b = ⟨.first (s.advised r ++ s.handlers), s.observer⟩) (f : Fault) (n : Label) : ∃ ns,
      Setup.Settles f ns (b.resolve f n).value (s.answerBeside? r f n) ∧
        (b.resolve f n).shown view = ns.flatMap told := by
  have ho : b.observer = s.observer := by rw [hb]
  have hhandler : b.handler f = Handler.first (s.advised r ++ s.handlers) f := by rw [hb]
  obtain ⟨ns, hsays, hshown⟩ := hs.advised_says hr f n
  rw [Fallback.resolve_eq, hhandler, Handler.first_append, bind_assoc, Recorded.shown_bind,
    Recorded.bind_value, hshown, Setup.answerBeside?]
  generalize Handler.first (s.advised r) f n = t at *
  obtain ⟨reply, m, es⟩ := t
  cases hsays with
  | mapped v => exact ⟨_, .mapped v, List.append_nil _⟩
  | failed failure hv => exact ⟨_, .failed failure hv, List.append_nil _⟩
  | nothing =>
    -- the advices leave the fault open, and the further handlers are asked
    dsimp only
    rw [Recorded.shown_bind, Handler.first_hides hs.handlers f, Recorded.bind_value]
    generalize Handler.first s.handlers f (n + m) = t
    obtain ⟨reply, m', es'⟩ := t
    cases reply with
    | answered v => exact ⟨[], .beside v, rfl⟩
    | declined =>
      obtain ⟨hv, hes⟩ := hs.settle_declined ho f (n + m + m')
      refine ⟨_, ?_, hes⟩
      rw [hv]
      exact .declined
    | panicked p =>
      obtain ⟨hv, hes⟩ := hs.settle_panicked ho f p (n + m + m')
      refine ⟨_, ?_, hes⟩
      rw [hv]
      exact .panicked

end Setup.Viewed

end CallGuard
