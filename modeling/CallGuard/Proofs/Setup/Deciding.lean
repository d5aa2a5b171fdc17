import CallGuard.Proofs.Advice.Handling
import CallGuard.Proofs.Setup.Settling

/-!
# Who decides about a fault

What a setup builds asks the methods of the advices first, if there are any, and then the further
handlers in order. The first who does not decline decides; when that is a handler that panics, or
when all decline, the verdict is derived from the fault (`Setup.Resolves`). Handlers that note what
they are asked show who takes part (`Setup.Noting`): each handler up to the one that decides, once.

* `Handler.first_of_decides`, `Handler.first_of_allDecline` : what joined handlers say;
* `Registry.registerAll_value_eq_error_iff` : at which advice a registration fails;
* `Setup.build_resolves` : what a setup builds, and what that makes of every fault.
-/

namespace CallGuard

open Recorded (Hides)

theorem Recorded.bind_of_value {α β : Type} {x : Recorded α} {a : α} {n : Label}
    (h : (x n).value = a) (g : α → Recorded β) : (x >>= g) n = (x >>= fun _ => g a) n := by
  subst h
  rfl

/-! ### Joined handlers -/

/-- The number of a handler and the fault that it notes to be asked about. -/
def Entry.asked? : Entry → Option (Nat × Fault)
  | .asked i f => some (i, f)
  | _ => none

namespace Handler

/-- The handlers are asked about the fault one after the other, and all decline. `n` is the first
label not in use before, and `m` is the first one afterwards. -/
inductive AllDecline (f : Fault) : List Handler → Label → Label → Prop
  | nil (n : Label) : AllDecline f [] n n
  | cons {h : Handler} {hs : List Handler} {n m : Label} (hh : (h f n).value = .declined)
      (hhs : AllDecline f hs (n + (h f n).minted) m) : AllDecline f (h :: hs) n m

/-- The handlers note what they are asked, each once and under its number, counted from `k` on. -/
def Note (k : Nat) (hs : List Handler) : Prop :=
  ∀ i h, hs[i]? = some h → ∀ f n, (h f n).shown Entry.asked? = [(k + i, f)]

variable {f : Fault} {h : Handler} {before after hs : List Handler} {n m : Label} {k : Nat}

theorem Note.head (hn : Note k (h :: hs)) (f : Fault) (n : Label) :
    (h f n).shown Entry.asked? = [(k, f)] :=
  hn 0 h rfl f n

theorem Note.tail (hn : Note k (h :: hs)) : Note (k + 1) hs := by
  intro i g hg f n
  rw [Nat.add_right_comm]
  exact hn (i + 1) g hg f n

theorem Note.append {xs ys : List Handler} (hn : Note k (xs ++ ys)) :
    Note k xs ∧ Note (k + xs.length) ys := by
  constructor
  · intro i g hg
    obtain ⟨hi, -⟩ := List.getElem?_eq_some_iff.1 hg
    exact hn i g (by rw [List.getElem?_append_left hi, hg])
  · intro i g hg
    rw [Nat.add_assoc]
    refine hn (xs.length + i) g ?_
    rw [List.getElem?_append_right (Nat.le_add_right ..), Nat.add_sub_cancel_left]
    exact hg

/-- Numbering handlers that note nothing themselves makes them note what they are asked. -/
theorem note_numbered {hs : List Handler} (hh : ∀ h ∈ hs, ∀ f, Hides Entry.asked? (h f)) :
    Note 0 (hs.zipIdx.map fun (h, i) => h.counted i) := by
  intro i g hg f n
  simp only [List.getElem?_map, List.getElem?_zipIdx, Option.map_eq_some_iff] at hg
  obtain ⟨_, ⟨h, hi, rfl⟩, rfl⟩ := hg
  rw [counted, Recorded.shown_bind, hh h (List.mem_of_getElem? hi) f]
  rfl

theorem allDecline_or_decides (f : Fault) (hs : List Handler) (n : Label) :
    (∃ m, AllDecline f hs n m) ∨ ∃ before h after m, hs = before ++ h :: after ∧
      AllDecline f before n m ∧ (h f m).value ≠ .declined := by
  induction hs generalizing n with
  | nil => exact .inl ⟨n, .nil n⟩
  | cons h hs ih =>
    by_cases hh : (h f n).value = .declined
    · rcases ih (n + (h f n).minted) with ⟨m, hm⟩ | ⟨before, g, after, m, rfl, hb, hg⟩
      · exact .inl ⟨m, .cons hh hm⟩
      · exact .inr ⟨h :: before, g, after, m, rfl, .cons hh hb, hg⟩
    · exact .inr ⟨[], h, hs, n, rfl, .nil n, hh⟩

theorem first_cons_of_declined (hh : (h f n).value = .declined) (hs : List Handler) :
    first (h :: hs) f n = (h f >>= fun _ => first hs f) n :=
  Recorded.bind_of_value hh _

theorem first_cons_of_decides (hh : (h f n).value ≠ .declined) (hs : List Handler) :
    first (h :: hs) f n = h f n := by
  have hlast : first (h :: hs) f n = (h f >>= pure) n := by
    refine (Recorded.bind_of_value rfl _).trans ?_
    cases hv : (h f n).value with
    | declined => exact absurd hv hh
    | answered v => exact (Recorded.bind_of_value hv pure).symm
    | panicked p => exact (Recorded.bind_of_value hv pure).symm
  rw [hlast, bind_pure]

/-- Handlers that all decline leave the fault to those after them, having noted it. -/
theorem AllDecline.first_append (hb : AllDecline f before n m) (hs : List Handler) :
    (first (before ++ hs) f n).value = (first hs f m).value ∧
      (Note k before → (first (before ++ hs) f n).shown Entry.asked? =
        (List.range' k before.length).map (·, f) ++ (first hs f m).shown Entry.asked?) := by
  induction hb generalizing k with
  | nil n => exact ⟨rfl, fun _ => rfl⟩
  | cons hh _ ih =>
    rw [List.cons_append, first_cons_of_declined hh, Recorded.bind_value, Recorded.shown_bind]
    refine ⟨(ih (k := k)).1, ?_⟩
    intro hn
    rw [hn.head, ih.2 hn.tail]
    rfl

/-- The first handler that does not decline decides, and those after it are not asked. -/
theorem first_of_decides (hb : AllDecline f before n m) (hh : (h f m).value ≠ .declined)
    (after : List Handler) :
    (first (before ++ h :: after) f n).value = (h f m).value ∧
      (Note k (before ++ h :: after) → (first (before ++ h :: after) f n).shown Entry.asked? =
        (List.range' k (before.length + 1)).map (·, f)) := by
  obtain ⟨hvalue, hshown⟩ := hb.first_append (k := k) (h :: after)
  rw [first_cons_of_decides hh] at hvalue hshown
  refine ⟨hvalue, ?_⟩
  intro hn
  obtain ⟨hbefore, hafter⟩ := hn.append
  rw [hshown hbefore, hafter.head, List.range'_concat, List.map_append]
  simp

theorem first_of_allDecline (hd : AllDecline f hs n m) : (first hs f n).value = .declined ∧
    (Note k hs → (first hs f n).shown Entry.asked? = (List.range' k hs.length).map (·, f)) := by
  obtain ⟨hvalue, hshown⟩ := hd.first_append (k := k) []
  rw [List.append_nil] at hvalue hshown
  refine ⟨hvalue, ?_⟩
  intro hn
  rw [hshown hn]
  exact List.append_nil _

end Handler

/-- A handler that declines and takes no label can be left out. -/
theorem Fallback.resolve_first_cons {h : Handler} {f : Fault} {n : Label}
    (hh : (h f n).value = .declined) (hm : (h f n).minted = 0) (hs : List Handler) (o : Observer) :
    (resolve ⟨.first (h :: hs), o⟩ f n).value = (resolve ⟨.first hs, o⟩ f n).value := by
  rw [resolve_eq, resolve_eq, Recorded.bind_value, Recorded.bind_value]
  simp only [Handler.first_cons_of_declined hh, Recorded.bind_value, Recorded.bind_minted, hm,
    Nat.add_zero, Nat.zero_add]
  rfl

/-! ### The methods of the advices -/

theorem Dispatcher.handle_of_isEmpty {d : Dispatcher} (hr : d.registry.isEmpty = true) (f : Fault)
    (n : Label) : (d.handle f n).value = .declined ∧ (d.handle f n).minted = 0 := by
  have hnone : d.registry.resolve? f.kind = none := by
    rw [Registry.resolve?_eq_none_iff, List.isEmpty_iff.1 hr]
    simp
  have hinvoke : d.invoke f = pure (.done none) := by
    rw [invoke, hnone]
  simp only [handle, hinvoke, pure_bind]
  exact ⟨rfl, rfl⟩

namespace Registry

variable {r r' : Registry} {advices : List Advice} {e : Error} {i j : Nat} {n : Label}

/-- Registering the advices in order works before the one at a position and fails there. -/
def FailsAt (r : Registry) (advices : List Advice) (i : Nat) (e : Error) : Prop :=
  ∃ before a after r', advices = before ++ a :: after ∧ before.length = i ∧
    r.addAll before = .ok r' ∧ r'.add a = .error e

theorem failsAt_cons_of_error {a : Advice} (ha : r.add a = .error e) {e' : Error} :
    r.FailsAt (a :: advices) i e' ↔ i = 0 ∧ e' = e := by
  constructor
  · rintro ⟨_ | ⟨b, before⟩, c, after, r', heq, rfl, hr', hc⟩
    · obtain ⟨rfl, -⟩ := List.cons.inj heq
      obtain rfl := Except.ok.inj hr'
      exact ⟨rfl, Except.error.inj (hc.symm.trans ha)⟩
    · obtain ⟨rfl, -⟩ := List.cons.inj heq
      rw [addAll, ha] at hr'
      cases hr'
  · rintro ⟨rfl, rfl⟩
    exact ⟨[], a, advices, r, rfl, rfl, rfl, ha⟩

theorem failsAt_cons_of_ok {a : Advice} (ha : r.add a = .ok r') :
    r.FailsAt (a :: advices) i e ↔ ∃ j, i = j + 1 ∧ r'.FailsAt advices j e := by
  constructor
  · rintro ⟨_ | ⟨b, before⟩, c, after, r'', heq, rfl, hr'', hc⟩
    · obtain ⟨rfl, -⟩ := List.cons.inj heq
      obtain rfl := Except.ok.inj hr''
      cases ha.symm.trans hc
    · obtain ⟨rfl, rfl⟩ := List.cons.inj heq
      rw [addAll, ha] at hr''
      exact ⟨before.length, rfl, before, c, after, r'', rfl, rfl, hr'', hc⟩
  · rintro ⟨j, rfl, before, c, after, r'', rfl, rfl, hr'', hc⟩
    refine ⟨a :: before, c, after, r'', rfl, rfl, ?_, hc⟩
    rw [addAll, ha]
    exact hr''

theorem addAll_eq_error_iff_failsAt :
    r.addAll advices = .error e ↔ ∃ i, r.FailsAt advices i e := by
  induction advices generalizing r with
  | nil =>
    constructor
    · nofun
    · rintro ⟨i, before, a, after, -, heq, -⟩
      simp at heq
  | cons a advices ih =>
    rw [addAll]
    cases ha : r.add a with
    | error e' => simp [failsAt_cons_of_error ha, eq_comm]
    | ok r' => simp [failsAt_cons_of_ok ha, ih]

theorem registerAll_value_eq_error_iff : (registerAll r i advices n).value = .error (j, e) ↔
    ∃ k, j = i + k ∧ r.FailsAt advices k e := by
  induction advices generalizing r i n with
  | nil =>
    constructor
    · nofun
    · rintro ⟨k, -, before, a, after, -, heq, -⟩
      simp at heq
  | cons a advices ih =>
    have hreg : ∀ n, (r.register a n).value = r.add a := fun _ => rfl
    rw [registerAll, Recorded.bind_value, hreg]
    cases ha : r.add a with
    | error e' => simp [failsAt_cons_of_error ha, eq_comm]
    | ok r' =>
      simp only [ih, failsAt_cons_of_ok ha]
      constructor
      · rintro ⟨k, rfl, hk⟩
        exact ⟨k + 1, by omega, k, rfl, hk⟩
      · rintro ⟨_, rfl, k, rfl, hk⟩
        exact ⟨k, by omega, hk⟩

end Registry

/-! ### What becomes of a fault -/

namespace Setup

variable {s : Setup} {r : Registry} {b : Fallback} {f : Fault} {n : Label}

/-- What a fault is resolved to, and how many of the further handlers are asked about it: those up
to the first that does not decline, unless a method of the advices answers. -/
inductive Resolves (s : Setup) (r : Registry) (f : Fault) (n : Label) : Verdict → Nat → Prop
  /-- A method answers or fails. -/
  | advised {v : Verdict} (hv : ((s.dispatcher r).handle f n).value = .answered v) :
      Resolves s r f n v 0
  /-- A further handler answers. -/
  | answered {before after : List Handler} {h : Handler} {m : Label} {v : Verdict}
      (hd : ((s.dispatcher r).handle f n).value = .declined)
      (hs : s.handlers = before ++ h :: after)
      (hb : Handler.AllDecline f before (n + ((s.dispatcher r).handle f n).minted) m)
      (hv : (h f m).value = .answered v) : Resolves s r f n v (before.length + 1)
  /-- A further handler panics. -/
  | panicked {before after : List Handler} {h : Handler} {m : Label} {p : Payload}
      (hd : ((s.dispatcher r).handle f n).value = .declined)
      (hs : s.handlers = before ++ h :: after)
      (hb : Handler.AllDecline f before (n + ((s.dispatcher r).handle f n).minted) m)
      (hp : (h f m).value = .panicked p) : Resolves s r f n f.derive (before.length + 1)
  /-- All decline. -/
  | declined {m : Label} (hd : ((s.dispatcher r).handle f n).value = .declined)
      (hs : Handler.AllDecline f s.handlers (n + ((s.dispatcher r).handle f n).minted) m) :
      Resolves s r f n f.derive s.handlers.length

/-- The further handlers note what they are asked, and nothing else does. -/
structure Noting (s : Setup) : Prop where
  methods : ∀ a ∈ s.advices, ∀ m ∈ a.methods, ∀ args, Hides Entry.asked? (m.run args)
  observers : ∀ o ∈ s.observers, ∀ notice, (o notice).filterMap Entry.asked? = []
  handlers : Handler.Note 0 s.handlers

/-- The setup without its further handlers. -/
def unassisted (s : Setup) : Setup :=
  { s with handlers := [] }

/-- Apart from the further handlers nothing is noted. -/
theorem Noting.viewed (hs : s.Noting) : s.unassisted.Viewed Entry.asked? fun _ => [] where
  log _ := rfl
  methods := hs.methods
  handlers := nofun
  observer notice := by
    have hobservers : (s.observers.flatMap fun o => o notice).filterMap Entry.asked? = [] := by
      simp only [List.filterMap_flatMap, List.flatMap_eq_nil_iff]
      exact fun o ho => hs.observers o ho notice
    have htracing :
        (Observer.tracing s.handler.logUnmapped notice).filterMap Entry.asked? = [] := by
      cases notice with
      | unmapped f => cases s.handler.logUnmapped <;> rfl
      | _ => rfl
    have hmetrics : (Observer.metrics notice).filterMap Entry.asked? = [] := by
      cases notice <;> rfl
    cases hm : s.metrics <;>
      simp [unassisted, observer, Observer.all, hm, hobservers, htracing, hmetrics]

/-- Leaving out a dispatcher without methods makes no difference to what is said. -/
theorem first_advised (s : Setup) (r : Registry) (f : Fault) (n : Label) :
    (Handler.first (s.advised r) f n).value = ((s.dispatcher r).handle f n).value ∧
      (Handler.first (s.advised r) f n).minted = ((s.dispatcher r).handle f n).minted := by
  by_cases hr : r.isEmpty = true
  · obtain ⟨hvalue, hminted⟩ := Dispatcher.handle_of_isEmpty (d := s.dispatcher r) hr f n
    rw [advised, if_pos hr, hvalue, hminted]
    exact ⟨rfl, rfl⟩
  · rw [advised, if_neg hr, Handler.first_singleton]
    exact ⟨rfl, rfl⟩

theorem Noting.settle_quiet (hs : s.Noting) (hb : b.observer = s.observer) (f : Fault)
    (reply : Reply) (n : Label) : (b.settle f reply n).shown Entry.asked? = [] := by
  cases reply with
  | answered v => rfl
  | declined => exact (hs.viewed.settle_declined hb f n).2
  | panicked p => exact (hs.viewed.settle_panicked hb f p n).2

theorem Noting.advised_quiet (hs : s.Noting)
    (hr : (Registry.empty s.hierarchy).addAll s.advices = .ok r) (f : Fault) (n : Label) :
    (Handler.first (s.advised r) f n).shown Entry.asked? = [] := by
  obtain ⟨ns, -, hshown⟩ := hs.viewed.advised_says hr f n
  exact hshown.trans (List.flatMap_eq_nil_iff.2 fun _ _ => rfl)

theorem settle_first (hd : ((s.dispatcher r).handle f n).value = .declined) : ∃ asked,
    s.Resolves r f n ((Handler.first s.handlers f >>= b.settle f)
      (n + ((s.dispatcher r).handle f n).minted)).value asked ∧
    (s.Noting → b.observer = s.observer → ((Handler.first s.handlers f >>= b.settle f)
      (n + ((s.dispatcher r).handle f n).minted)).shown Entry.asked? =
        (List.range asked).map (·, f)) := by
  rcases Handler.allDecline_or_decides f s.handlers (n + ((s.dispatcher r).handle f n).minted) with
    ⟨m, hall⟩ | ⟨before, h, after, m, heq, hb, hh⟩
  · obtain ⟨hvalue, hshown⟩ := Handler.first_of_allDecline (k := 0) hall
    refine ⟨s.handlers.length, ?_, ?_⟩
    · rw [Recorded.bind_value, hvalue]
      exact .declined hd hall
    · intro hs ho
      rw [Recorded.shown_bind, hs.settle_quiet ho, List.append_nil, hshown hs.handlers,
        List.range_eq_range']
  · obtain ⟨hvalue, hshown⟩ := Handler.first_of_decides (k := 0) hb hh after
    refine ⟨before.length + 1, ?_, ?_⟩
    · rw [heq, Recorded.bind_value, hvalue]
      cases hv : (h f m).value with
      | declined => exact absurd hv hh
      | answered v => exact .answered hd heq hb hv
      | panicked p => exact .panicked hd heq hb hv
    · intro hs ho
      rw [Recorded.shown_bind, hs.settle_quiet ho, List.append_nil, heq, hshown (heq ▸ hs.handlers),
        List.range_eq_range']

/-- What a fault is resolved to, and who is asked about it. -/
theorem resolve_resolves (hr : (Registry.empty s.hierarchy).addAll s.advices = .ok r)
    (hb : b = ⟨.first (s.advised r ++ s.handlers), s.observer⟩) (f : Fault) (n : Label) :
    ∃ asked, s.Resolves r f n (b.resolve f n).value asked ∧
      (s.Noting → (b.resolve f n).shown Entry.asked? = (List.range asked).map (·, f)) := by
  have ho : b.observer = s.observer := by rw [hb]
  have hhandler : b.handler f = Handler.first (s.advised r ++ s.handlers) f := by rw [hb]
  obtain ⟨hvalue, hminted⟩ := first_advised s r f n
  rw [Fallback.resolve_eq, hhandler, Handler.first_append, bind_assoc]
  cases hd : ((s.dispatcher r).handle f n).value with
  | panicked p => exact absurd hd (Dispatcher.handle_ne_panicked _ f n p)
  | answered v =>
    rw [Recorded.bind_of_value (hvalue.trans hd)]
    refine ⟨0, .advised hd, ?_⟩
    intro hs
    rw [Recorded.shown_bind, hs.advised_quiet hr]
    rfl
  | declined =>
    rw [Recorded.bind_of_value (hvalue.trans hd)]
    obtain ⟨asked, hres, hshown⟩ := settle_first (b := b) hd
    refine ⟨asked, ?_, ?_⟩
    · rw [Recorded.bind_value, hminted]
      exact hres
    · intro hs
      rw [Recorded.shown_bind, hs.advised_quiet hr, hminted]
      exact hshown hs ho

theorem build_eq_ok_none_iff : (s.build n).value = .ok none ↔ s.handler.enabled = false := by
  cases he : s.handler.enabled with
  | false =>
    have hoff : (s.build n).value = .ok none := by
      unfold build
      rw [he]
      rfl
    simp [hoff]
  | true =>
    rw [build_value_of_enabled he]
    cases (Registry.registerAll (.empty s.hierarchy) 0 s.advices n).value <;> simp

theorem build_eq_error_iff {i : Nat} {e : Registry.Error} : (s.build n).value = .error (i, e) ↔
    s.handler.enabled = true ∧ (Registry.empty s.hierarchy).FailsAt s.advices i e := by
  cases he : s.handler.enabled with
  | false => simp [build_eq_ok_none_iff.2 he]
  | true =>
    have hreg : (Registry.registerAll (.empty s.hierarchy) 0 s.advices n).value = .error (i, e) ↔
        (Registry.empty s.hierarchy).FailsAt s.advices i e := by
      rw [Registry.registerAll_value_eq_error_iff]
      simp
    rw [build_value_of_enabled he, ← hreg]
    cases (Registry.registerAll (.empty s.hierarchy) 0 s.advices n).value with
    | error e' => simp
    | ok r => simp

/-- **What a setup builds, and what that makes of every fault.** Nothing is built exactly when
errors are not handled. Otherwise building fails exactly when the advices cannot be registered, at
the first one that cannot. What is built resolves a fault to the answer of the dispatcher over the
registered methods; when that declines, to the answer of the first further handler that does not
decline; and when there is none or it panics, to what is derived from the fault. The further
handlers up to that one are asked, each once, and no others are. The dispatcher can be left out when
there are no methods. -/
theorem build_resolves (s : Setup) (n₀ : Label) :
    ((s.build n₀).value = .ok none ↔ s.handler.enabled = false) ∧
    (s.handler.enabled = true → ∀ e,
      ((∃ i, (s.build n₀).value = .error (i, e)) ↔
        (Registry.empty s.hierarchy).addAll s.advices = .error e) ∧
      ∀ i, (s.build n₀).value = .error (i, e) →
        (Registry.empty s.hierarchy).FailsAt s.advices i e) ∧
    ∀ b, (s.build n₀).value = .ok (some b) → ∃ r,
      (Registry.empty s.hierarchy).addAll s.advices = .ok r ∧ ∀ f n,
        (∃ asked, s.Resolves r f n (b.resolve f n).value asked ∧
          (s.Noting → (b.resolve f n).shown Entry.asked? = (List.range asked).map (·, f))) ∧
        (r.isEmpty = true → (b.resolve f n).value = (Fallback.resolve
          ⟨.first ((s.dispatcher r).handle :: s.handlers), s.observer⟩ f n).value) := by
  refine ⟨build_eq_ok_none_iff, ?_, ?_⟩
  · intro he e
    simp only [build_eq_error_iff, he, true_and, Registry.addAll_eq_error_iff_failsAt]
    exact fun i hi => hi
  · intro b hb
    obtain ⟨-, r, hr, hb⟩ := build_eq_ok_some_iff.1 hb
    refine ⟨r, hr, ?_⟩
    intro f n
    refine ⟨resolve_resolves hr hb f n, ?_⟩
    intro hempty
    obtain ⟨hvalue, hminted⟩ := Dispatcher.handle_of_isEmpty (d := s.dispatcher r) hempty f n
    rw [hb, advised, if_pos hempty, List.nil_append]
    exact (Fallback.resolve_first_cons hvalue hminted s.handlers s.observer).symm

/-- One handler declines, one panics, and one would answer. -/
def silentHandlers : List Handler :=
  [.declining, fun _ => pure (.panicked .other),
    fun _ => pure (.answered (.ofStatus (.plain .aborted "late")))]

/-- A method that leaves everything open, and handlers that note what they are asked. -/
def undecided : Setup where
  handler := .default
  metrics := true
  hierarchy := .empty
  advices := [Registry.catching [⟨"Io"⟩]]
  handlers := silentHandlers.zipIdx.map fun (h, i) => h.counted i
  observers := []

theorem noting_undecided : undecided.Noting where
  methods a ha m hm args := by
    obtain rfl := List.mem_singleton.1 ha
    obtain rfl := List.mem_singleton.1 hm
    exact Recorded.hides_pure _
  observers := nofun
  handlers := by
    refine Handler.note_numbered (List.forall_mem_cons.2 ⟨?_, List.forall_mem_cons.2 ⟨?_, ?_⟩⟩)
    · exact fun f => Recorded.hides_pure _
    · exact fun f => Recorded.hides_pure _
    · exact List.forall_mem_singleton.2 fun f => Recorded.hides_pure _

/-- A fault of input. -/
def inputFault : Fault :=
  ⟨0, ⟨"Io"⟩, none, none, []⟩

/-- The method leaves a fault of input open and the handler that panics decides: the two handlers up
to it are asked. -/
theorem build_resolves_undecided : ∃ b r, (undecided.build 0).value = .ok (some b) ∧
    (Registry.empty undecided.hierarchy).addAll undecided.advices = .ok r ∧
    undecided.Resolves r inputFault 1 (b.resolve inputFault 1).value 2 ∧
    (b.resolve inputFault 1).shown Entry.asked? = [(0, inputFault), (1, inputFault)] := by
  obtain ⟨b, hb, hshown⟩ : ∃ b, (undecided.build 0).value = .ok (some b) ∧
      (b.resolve inputFault 1).shown Entry.asked? = [(0, inputFault), (1, inputFault)] :=
    ⟨_, rfl, rfl⟩
  obtain ⟨r, hr, hres⟩ := (build_resolves undecided 0).2.2 b hb
  obtain ⟨⟨asked, hasked, hnoted⟩, -⟩ := hres inputFault 1
  have htwo : asked = 2 := by
    have hlength := congrArg List.length (hnoted noting_undecided)
    rw [hshown] at hlength
    simpa using hlength.symm
  exact ⟨b, r, hb, hr, htwo ▸ hasked, hshown⟩

end Setup

end CallGuard
