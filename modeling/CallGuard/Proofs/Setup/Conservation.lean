import CallGuard.Metrics
import CallGuard.Proofs.Setup.Settling
import CallGuard.Rehearsal.Recording

/-!
# Which errors are counted

The counters book what the observer is told, so they miss the faults that a handler beside the
advices answers.

* `Setup.Settles.resolved`, `Setup.Settles.coded` : what is booked for one fault;
* `Setup.counters_conserved` : over any number of faults, the counters and the answers from beside
  the advices together account for each fault once;
* `Setup.counters_miss_answer` : without those answers they do not.
-/

namespace CallGuard

open Recorded (Hides)

/-! ### What is counted -/

namespace Metrics

/-- The increment that an entry is. -/
def increment? : Entry → Option Series
  | .counted s => some s
  | _ => none

theorem total_eq (s : Series) (journal : List Entry) :
    total s journal = (journal.filterMap increment?).count s := by
  unfold total increments
  congr 2

theorem total_append (s : Series) (xs ys : List Entry) :
    total s (xs ++ ys) = total s xs + total s ys := by
  rw [total_eq, total_eq, total_eq, List.filterMap_append, List.count_append]

/-- How many errors came to a status, in whatever way. -/
def resolvedTotal (journal : List Entry) : Nat :=
  total (.resolved .mapped) journal + total (.resolved .handlerFailure) journal +
    total (.resolved .fallback) journal

theorem resolvedTotal_append (xs ys : List Entry) :
    resolvedTotal (xs ++ ys) = resolvedTotal xs + resolvedTotal ys := by
  simp only [resolvedTotal, total_append]
  omega

/-- The increments that the counters get for a notification. -/
def booked (notice : Notification) : List Series :=
  (Observer.metrics notice).filterMap increment?

end Metrics

/-- The notification tells how a fault came to its verdict. -/
def Notification.decides : Notification → Bool
  | .unmapped _ => false
  | _ => true

namespace Setup

open Metrics

section

variable {f : Fault} {ns : List Notification} {v : Verdict} {beside : Option Verdict}

/-- One notification that decides, or an answer from beside the advices. -/
theorem Settles.decides (h : Settles f ns v beside) :
    ns.countP Notification.decides + beside.toList.length = 1 := by
  cases h <;> rfl

/-- One increment for the way to the verdict, or an answer from beside the advices. -/
theorem Settles.resolved (h : Settles f ns v beside) :
    (ns.flatMap booked).count (.resolved .mapped) +
      (ns.flatMap booked).count (.resolved .handlerFailure) +
      (ns.flatMap booked).count (.resolved .fallback) + beside.toList.length = 1 := by
  cases h <;> rfl

/-- One increment for the code of the verdict, or an answer with that code. -/
theorem Settles.coded (h : Settles f ns v beside) (c : Code) :
    (ns.flatMap booked).count (.coded c) + beside.toList.countP (·.code = c) =
      if v.code = c then 1 else 0 := by
  cases h with
  | failed failure hv =>
    -- the counters take the code for granted
    rw [hv]
    simp [booked, Observer.metrics, increment?, List.count_cons]
  | beside v => simp [List.countP_cons]
  | _ => simp [booked, Observer.metrics, increment?, List.count_cons]

end

/-- Nothing but the counters counts. -/
structure Uncounting (s : Setup) : Prop where
  methods : ∀ a ∈ s.advices, ∀ m ∈ a.methods, ∀ args, Hides increment? (m.run args)
  handlers : ∀ h ∈ s.handlers, ∀ f, Hides increment? (h f)
  observers : ∀ o ∈ s.observers, ∀ notice, (o notice).filterMap increment? = []

theorem Uncounting.viewed {s : Setup} (hs : s.Uncounting) (hm : s.metrics = true) :
    s.Viewed increment? booked where
  log _ := rfl
  methods := hs.methods
  handlers := hs.handlers
  observer notice := by
    have hobservers : (s.observers.flatMap fun o => o notice).filterMap increment? = [] := by
      simp only [List.filterMap_flatMap, List.flatMap_eq_nil_iff]
      exact fun o ho => hs.observers o ho notice
    have htracing : (Observer.tracing s.handler.logUnmapped notice).filterMap increment? = [] := by
      cases notice with
      | unmapped f => cases s.handler.logUnmapped <;> rfl
      | _ => rfl
    simp [observer, Observer.all, hm, hobservers, htracing, booked]

end Setup

/-! ### Several faults -/

/-- Faults that are resolved in order, each with the first label not in use by then. -/
def Fallback.occasions (b : Fallback) : List Fault → Label → List (Fault × Label)
  | [], _ => []
  | f :: fs, n => (f, n) :: occasions b fs (n + (b.resolve f n).minted)

namespace Setup

open Metrics

variable {s : Setup} {r : Registry} {b : Fallback}

/-- What handlers beside the advices answer to faults that are resolved in order. -/
def answersBeside (s : Setup) (r : Registry) (b : Fallback) (fs : List Fault) (n : Label) :
    List Verdict :=
  (b.occasions fs n).filterMap fun o => s.answerBeside? r o.1 o.2

theorem answersBeside_cons (f : Fault) (fs : List Fault) (n : Label) :
    s.answersBeside r b (f :: fs) n = (s.answerBeside? r f n).toList ++
      s.answersBeside r b fs (n + (b.resolve f n).minted) := by
  rw [answersBeside, Fallback.occasions, List.filterMap_cons]
  cases s.answerBeside? r f n <;> rfl

theorem mapM_resolve_value (f : Fault) (fs : List Fault) (n : Label) :
    ((f :: fs).mapM b.resolve n).value = (b.resolve f n).value ::
      (fs.mapM b.resolve (n + (b.resolve f n).minted)).value := by
  rw [List.mapM_cons]
  rfl

theorem mapM_resolve_entries (f : Fault) (fs : List Fault) (n : Label) :
    ((f :: fs).mapM b.resolve n).entries = (b.resolve f n).entries ++
      (fs.mapM b.resolve (n + (b.resolve f n).minted)).entries := by
  rw [List.mapM_cons, Recorded.bind_entries, Recorded.bind_entries, Recorded.pure_apply,
    List.append_nil]

section

variable (hs : s.Viewed increment? booked)
  (hr : (Registry.empty s.hierarchy).addAll s.advices = .ok r)
  (hb : b = ⟨.first (s.advised r ++ s.handlers), s.observer⟩)

include hs hr hb

theorem resolvedTotal_mapM (fs : List Fault) (n : Label) :
    resolvedTotal (fs.mapM b.resolve n).entries + (s.answersBeside r b fs n).length =
      fs.length := by
  induction fs generalizing n with
  | nil => rfl
  | cons f fs ih =>
    obtain ⟨ns, hset, hshown⟩ := hs.resolve_settles hr hb f n
    have hfirst : resolvedTotal (b.resolve f n).entries +
        (s.answerBeside? r f n).toList.length = 1 := by
      rw [Trace.shown] at hshown
      simpa only [resolvedTotal, total_eq, hshown] using hset.resolved
    have hrest := ih (n + (b.resolve f n).minted)
    rw [mapM_resolve_entries, resolvedTotal_append, answersBeside_cons, List.length_append,
      List.length_cons]
    omega

theorem total_coded_mapM (c : Code) (fs : List Fault) (n : Label) :
    total (.coded c) (fs.mapM b.resolve n).entries +
        (s.answersBeside r b fs n).countP (·.code = c) =
      (fs.mapM b.resolve n).value.countP (·.code = c) := by
  induction fs generalizing n with
  | nil => rfl
  | cons f fs ih =>
    obtain ⟨ns, hset, hshown⟩ := hs.resolve_settles hr hb f n
    have hfirst : total (.coded c) (b.resolve f n).entries +
        (s.answerBeside? r f n).toList.countP (·.code = c) =
          if (b.resolve f n).value.code = c then 1 else 0 := by
      rw [total_eq, ← hset.coded c, ← hshown, Trace.shown]
    have hrest := ih (n + (b.resolve f n).minted)
    rw [mapM_resolve_entries, mapM_resolve_value, total_append, answersBeside_cons,
      List.countP_append, List.countP_cons]
    simp only [decide_eq_true_eq]
    omega

end

/-- **The counters account for every fault, apart from answers beside the advices.** A setup with
counters, in which nothing else counts, builds a fallback that resolves faults one after the other.
The faults that are counted by the way they came to a verdict and those that a handler beside the
advices answered are all the faults, and the codes that are counted and those of such answers are
all the codes. Any view of what the observer is told shows one deciding notification for each fault,
or none when a handler beside the advices answered. -/
theorem counters_conserved (hm : s.metrics = true) (hq : s.Uncounting) {n₀ : Label}
    (hb : (s.build n₀).value = .ok (some b)) : ∃ r,
    (Registry.empty s.hierarchy).addAll s.advices = .ok r ∧
    (∀ fs n, resolvedTotal (fs.mapM b.resolve n).entries + (s.answersBeside r b fs n).length =
      fs.length) ∧
    (∀ fs n c, total (.coded c) (fs.mapM b.resolve n).entries +
        (s.answersBeside r b fs n).countP (·.code = c) =
      (fs.mapM b.resolve n).value.countP (·.code = c)) ∧
    ∀ view, s.Viewed view (fun notice => [notice]) → ∀ f n,
      ((b.resolve f n).shown view).countP Notification.decides +
        (s.answerBeside? r f n).toList.length = 1 := by
  obtain ⟨-, r, hr, hb⟩ := build_eq_ok_some_iff.1 hb
  have hs := hq.viewed hm
  refine ⟨r, hr, resolvedTotal_mapM hs hr hb, fun fs n c => total_coded_mapM hs hr hb c fs n,
    fun view hview f n => ?_⟩
  obtain ⟨ns, hset, hshown⟩ := hview.resolve_settles hr hb f n
  rw [hshown, List.flatMap_singleton']
  exact hset.decides

/-- Counters, a recording, and a handler beside the advices that answers what comes of storage. -/
def offline : Setup where
  handler := .default
  metrics := true
  hierarchy := .empty
  advices := []
  handlers := [fun f => pure (if f.kind = ⟨"Storage"⟩ then
    .answered (.ofStatus (.plain .unavailable "storage offline")) else .declined)]
  observers := [.recording 0]

/-- A fault of storage. -/
def storageFault : Fault :=
  ⟨0, ⟨"Storage"⟩, none, none, []⟩

/-- A fault of storage and another one. -/
def offlineFaults : List Fault :=
  [storageFault, ⟨1, ⟨"Io"⟩, none, none, []⟩]

theorem uncounting_offline : offline.Uncounting where
  methods := nofun
  handlers h hh f := by
    rw [List.mem_singleton.1 hh]
    exact Recorded.hides_pure _
  observers o ho notice := by
    rw [List.mem_singleton.1 ho]
    rfl

/-- Of two faults, one is counted and the other is answered from beside the advices. -/
theorem counters_conserved_offline : ∃ b r, (offline.build 0).value = .ok (some b) ∧
    resolvedTotal (offlineFaults.mapM b.resolve 2).entries +
      (offline.answersBeside r b offlineFaults 2).length = 2 := by
  obtain ⟨b, hb⟩ : ∃ b, (offline.build 0).value = .ok (some b) := ⟨_, rfl⟩
  obtain ⟨r, -, hresolved, -⟩ := counters_conserved rfl uncounting_offline hb
  exact ⟨b, r, hb, hresolved _ _⟩

/-- **An answer from beside the advices is not counted.** No counter tells of it, neither by the way
nor by the code, and no observer is told. -/
theorem counters_miss_answer : ∃ b, (offline.build 0).value = .ok (some b) ∧
    resolvedTotal ([storageFault].mapM b.resolve 1).entries ≠ [storageFault].length ∧
    total (.coded .unavailable) ([storageFault].mapM b.resolve 1).entries ≠
      ([storageFault].mapM b.resolve 1).value.countP (·.code = .unavailable) ∧
    notifications 0 (b.resolve storageFault 1).entries = [] :=
  ⟨_, rfl, by decide, by decide, rfl⟩

end Setup

end CallGuard
