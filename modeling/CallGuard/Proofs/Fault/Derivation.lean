import CallGuard.Fault.Derive
import CallGuard.Fault.Make

/-!
# What is derived from a chain of causes

Two walks over the sources of a fault decide what a call is closed with when no handler maps it: one
looks for the first status, and one for the first verdict, which brings trailers. A verdict is one
step nearer than its own status, so both walks end at the same verdict unless a status stands before
it.

* `Cause.sourceAt` : the walk, one source after the other, and `Cause.FirstAt` : where it first comes
  to an error of some sort;
* `Fault.together_derive` : status and trailers come from one verdict, or a status stands before it;
* `Fault.visible_derive_unsuppressed` : suppressed errors have no influence, however deep they are;
* `Fault.derive_reads_chain` : all of it, and that a derived verdict is derived again from itself.
-/

namespace CallGuard

/-- What a client can see of a verdict: all but the error that led to it. -/
def Verdict.visible (v : Verdict) : Verdict :=
  { v with status := { v.status with source := none } }

namespace Cause

variable {α : Type} {sort : Cause → Option α} {a : α} {c d : Cause} {n : Nat}

/-- Where following sources from an error a number of times leads. -/
def sourceAt : Nat → Cause → Option Cause
  | 0, c => some c
  | n + 1, c => c.source.bind (sourceAt n)

/-- The first error of a sort is found after following `n` sources. -/
def FirstAt (sort : Cause → Option α) (c : Cause) (n : Nat) (a : α) : Prop :=
  (c.sourceAt n).bind sort = some a ∧ ∀ m, m < n → (c.sourceAt m).bind sort = none

theorem sourceAt_succ (n : Nat) (c : Cause) : c.sourceAt (n + 1) = (c.sourceAt n).bind source := by
  induction n generalizing c with
  | zero => cases h : c.source <;> simp [sourceAt, h]
  | succ n ih =>
    rw [sourceAt, sourceAt]
    cases c.source with
    | none => rfl
    | some s => exact ih s

/-- The chain of an error is what following its sources leads to. -/
theorem getElem?_chain (c : Cause) (n : Nat) : c.chain[n]? = c.sourceAt n := by
  induction n generalizing c with
  | zero => rw [chain_eq, List.getElem?_cons_zero, sourceAt]
  | succ n ih =>
    rw [chain_eq, List.getElem?_cons_succ, sourceAt]
    cases c.source with
    | none => rfl
    | some s => exact ih s

theorem findSome?_chain_eq_some_iff :
    c.chain.findSome? sort = some a ↔ ∃ n, c.FirstAt sort n a := by
  simp only [FirstAt, ← getElem?_chain]
  rw [List.findSome?_eq_some_iff]
  constructor
  · rintro ⟨before, d, after, hchain, hd, hbefore⟩
    rw [hchain]
    refine ⟨before.length, by simpa using hd, fun m hm => ?_⟩
    rw [List.getElem?_append_left hm, List.getElem?_eq_getElem hm]
    exact hbefore _ (List.getElem_mem hm)
  · rintro ⟨n, hn, hfirst⟩
    obtain ⟨d, hd, ha⟩ := Option.bind_eq_some_iff.1 hn
    obtain ⟨hlt, rfl⟩ := List.getElem?_eq_some_iff.1 hd
    refine ⟨c.chain.take n, _, c.chain.drop (n + 1), ?_, ha, fun x hx => ?_⟩
    · rw [List.getElem_cons_drop, List.take_append_drop]
    · obtain ⟨m, hm⟩ := List.mem_iff_getElem?.1 hx
      rw [List.getElem?_take] at hm
      split at hm
      · next hmn => simpa [hm] using hfirst m hmn
      · cases hm

theorem findSome?_chain_eq_none_iff :
    c.chain.findSome? sort = none ↔ ∀ n, (c.sourceAt n).bind sort = none := by
  simp only [← getElem?_chain]
  rw [List.findSome?_eq_none_iff]
  constructor
  · intro hnone n
    cases hn : c.chain[n]? with
    | none => rfl
    | some d => exact hnone d (List.mem_of_getElem? hn)
  · intro hnone d hd
    obtain ⟨n, hn⟩ := List.mem_iff_getElem?.1 hd
    simpa [hn] using hnone n

end Cause

/-! ### Without suppressed errors -/

mutual

/-- The fault as if no error had ever been suppressed, neither in its own favour nor in favour of one
in its chain. Suppressing gives a fault a new label, so that labels are left out. -/
def Fault.unsuppressed : Fault → Fault
  | ⟨_, kind, message, source, _⟩ => ⟨0, kind, message, unsuppressedSource source, []⟩

/-- The status with no error suppressed in its chain. -/
def Status.unsuppressed : Status → Status
  | ⟨code, message, details, metadata, source⟩ =>
    ⟨code, message, details, metadata, unsuppressedSource source⟩

/-- The verdict with no error suppressed in its chain. -/
def Verdict.unsuppressed : Verdict → Verdict
  | ⟨status, trailers⟩ => ⟨status.unsuppressed, trailers⟩

/-- The error with no error suppressed in its chain. -/
def Cause.unsuppressed : Cause → Cause
  | .fault f => .fault f.unsuppressed
  | .status s => .status s.unsuppressed
  | .verdict v => .verdict v.unsuppressed
  | .call e => .call e
  | .plain text source => .plain text (unsuppressedSource source)

/-- The source, if there is one, with no error suppressed in its chain. -/
def unsuppressedSource : Option Cause → Option Cause
  | none => none
  | some c => some c.unsuppressed

end

theorem unsuppressedSource_eq (source : Option Cause) :
    unsuppressedSource source = source.map Cause.unsuppressed := by
  cases source <;> simp [unsuppressedSource]

namespace Cause

theorem source_unsuppressed (c : Cause) : c.unsuppressed.source = c.source.map unsuppressed := by
  rw [← unsuppressedSource_eq]
  cases c with
  | fault f =>
    cases f
    simp [unsuppressed, Fault.unsuppressed, source]
  | status s =>
    cases s
    simp [unsuppressed, Status.unsuppressed, source]
  | verdict v =>
    cases v
    simp [unsuppressed, Verdict.unsuppressed, source, unsuppressedSource]
  | call e => simp [unsuppressed, source, unsuppressedSource]
  | plain text s => simp [unsuppressed, source]

theorem sourceAt_unsuppressed (n : Nat) (c : Cause) :
    c.unsuppressed.sourceAt n = (c.sourceAt n).map unsuppressed := by
  induction n generalizing c with
  | zero => rfl
  | succ n ih =>
    rw [sourceAt, sourceAt, source_unsuppressed]
    cases c.source with
    | none => rfl
    | some s => exact ih s

theorem chain_unsuppressed (c : Cause) : c.unsuppressed.chain = c.chain.map unsuppressed := by
  apply List.ext_getElem?
  intro n
  rw [List.getElem?_map, getElem?_chain, getElem?_chain, sourceAt_unsuppressed]

/-- Searching for a sort of errors finds the same one without suppressed errors. -/
theorem findSome?_chain_unsuppressed {g : α → α}
    (hsort : ∀ d : Cause, sort d.unsuppressed = (sort d).map g) (c : Cause) :
    c.unsuppressed.chain.findSome? sort = (c.chain.findSome? sort).map g := by
  rw [chain_unsuppressed, List.findSome?_map, List.map_findSome?]
  congr 1
  funext d
  exact hsort d

end Cause

namespace Fault

theorem firstStatus?_unsuppressed (f : Fault) :
    f.unsuppressed.firstStatus? = f.firstStatus?.map Status.unsuppressed := by
  refine Eq.trans ?_ (Cause.findSome?_chain_unsuppressed (fun d => ?_) (.fault f))
  · rw [firstStatus?, chain, Cause.unsuppressed]
  · cases d <;> simp [Cause.unsuppressed, Cause.status?]

theorem firstVerdict?_unsuppressed (f : Fault) :
    f.unsuppressed.firstVerdict? = f.firstVerdict?.map Verdict.unsuppressed := by
  refine Eq.trans ?_ (Cause.findSome?_chain_unsuppressed (fun d => ?_) (.fault f))
  · rw [firstVerdict?, chain, Cause.unsuppressed]
  · cases d <;> simp [Cause.unsuppressed, Cause.verdict?]

theorem text_unsuppressed (f : Fault) : f.unsuppressed.text = f.text := by
  cases f
  simp [unsuppressed, text]

theorem visible_derive (f : Fault) : f.derive.visible =
    ⟨(f.firstStatus?.map fun s => { s with source := none }).getD (.plain .unknown f.text),
      (f.firstVerdict?.map (·.trailers)).getD .empty⟩ := by
  rw [derive, Cause.toStatus, firstStatus?, chain]
  cases (Cause.fault f).chain.findSome? Cause.status? <;> rfl

/-- **Suppressed errors have no influence.** -/
theorem visible_derive_unsuppressed (f : Fault) :
    f.unsuppressed.derive.visible = f.derive.visible := by
  have hstatus : ∀ s : Status, { s.unsuppressed with source := none } = { s with source := none } := by
    rintro ⟨code, message, details, metadata, source⟩
    simp [Status.unsuppressed]
  have htrailers : ∀ v : Verdict, v.unsuppressed.trailers = v.trailers := by
    rintro ⟨status, trailers⟩
    simp [Verdict.unsuppressed]
  rw [visible_derive, visible_derive, firstStatus?_unsuppressed, firstVerdict?_unsuppressed,
    text_unsuppressed, Option.map_map, Option.map_map]
  congr 3
  · funext s
    exact hstatus s
  · funext v
    exact htrailers v

/-! ### What a derived verdict consists of -/

/-- The verdict is put together from what following sources from the fault comes to. -/
structure Derives (f : Fault) (v : Verdict) : Prop where
  /-- All but the source of the first status is kept. -/
  copied : ∀ n s, (Cause.fault f).FirstAt Cause.status? n s →
    v.status = { s with source := some (.fault f) }
  /-- Without a status the text of the fault is all that the client is told. -/
  unknown : (∀ n, ((Cause.fault f).sourceAt n).bind Cause.status? = none) →
    v.status = ⟨.unknown, f.text, [], .empty, some (.fault f)⟩
  /-- The trailers are those of the first verdict. -/
  carried : ∀ n e, (Cause.fault f).FirstAt Cause.verdict? n e → v.trailers = e.trailers
  /-- Without a verdict there are no trailers. -/
  bare : (∀ n, ((Cause.fault f).sourceAt n).bind Cause.verdict? = none) → v.trailers = .empty

theorem derives_derive (f : Fault) : f.Derives f.derive where
  copied n s h := by
    rw [derive, Cause.toStatus, Cause.findSome?_chain_eq_some_iff.2 ⟨n, h⟩]
  unknown h := by
    rw [derive, Cause.toStatus, Cause.findSome?_chain_eq_none_iff.2 h]
    rfl
  carried n e h := by
    rw [derive, firstVerdict?, chain, Cause.findSome?_chain_eq_some_iff.2 ⟨n, h⟩]
    rfl
  bare h := by
    rw [derive, firstVerdict?, chain, Cause.findSome?_chain_eq_none_iff.2 h]
    rfl

/-- The status of the first verdict comes right after it. So the two walks come to one verdict, or a
status stands before it. -/
theorem together_derive {f : Fault} {n : Nat} {e : Verdict}
    (h : (Cause.fault f).FirstAt Cause.verdict? n e) :
    (∃ m s, m < n ∧ (Cause.fault f).sourceAt m = some (.status s)) ∨
      f.derive.visible = e.visible := by
  by_cases hbefore : ∃ m s, m < n ∧ (Cause.fault f).sourceAt m = some (.status s)
  · exact .inl hbefore
  · refine .inr ?_
    have hverdict : (Cause.fault f).sourceAt n = some (.verdict e) := by
      obtain ⟨c, hc, hce⟩ := Option.bind_eq_some_iff.1 h.1
      cases c <;> cases hce
      exact hc
    have hnext : (Cause.fault f).sourceAt (n + 1) = some (.status e.status) := by
      rw [Cause.sourceAt_succ, hverdict]
      rfl
    -- neither the verdict nor anything before it is a status
    have hfirst : (Cause.fault f).FirstAt Cause.status? (n + 1) e.status := by
      refine ⟨by rw [hnext]; rfl, fun m hm => ?_⟩
      rcases Nat.lt_succ_iff_lt_or_eq.1 hm with hm | rfl
      · cases hc : (Cause.fault f).sourceAt m with
        | none => rfl
        | some c =>
          cases c with
          | status s => exact absurd ⟨m, s, hm, hc⟩ hbefore
          | _ => rfl
      · rw [hverdict]
        rfl
    rw [Verdict.visible, (derives_derive f).copied _ _ hfirst, (derives_derive f).carried _ _ h]
    rfl

theorem visible_derive_ofVerdict (v : Verdict) (n : Label) :
    (ofVerdict v n).value.derive.visible = v.visible := by
  have hfirst : (Cause.fault (ofVerdict v n).value).FirstAt Cause.verdict? 1 v := by
    refine ⟨rfl, fun m hm => ?_⟩
    obtain rfl := Nat.lt_one_iff.1 hm
    rfl
  rcases together_derive hfirst with ⟨m, s, hm, hs⟩ | h
  · -- only the fault itself stands before the verdict
    obtain rfl := Nat.lt_one_iff.1 hm
    cases hs
  · exact h

/-- **What is derived from a fault is read off its chain.** The status is the first one that
following sources comes to, or an unknown one with the text of the fault; its source is the fault.
The trailers are those of the first verdict. Both come from that verdict unless a status stands
before it, suppressed errors have no influence, and for a client a verdict that is derived again is
the same. -/
theorem derive_reads_chain (f : Fault) :
    f.Derives f.derive ∧
    (∀ s, f.firstStatus? = some s ↔ ∃ n, (Cause.fault f).FirstAt Cause.status? n s) ∧
    (∀ e, f.firstVerdict? = some e ↔ ∃ n, (Cause.fault f).FirstAt Cause.verdict? n e) ∧
    (∀ n e, (Cause.fault f).FirstAt Cause.verdict? n e →
      (∃ m s, m < n ∧ (Cause.fault f).sourceAt m = some (.status s)) ∨
        f.derive.visible = e.visible) ∧
    (∀ g : Fault, f.unsuppressed = g.unsuppressed → f.derive.visible = g.derive.visible) ∧
    (∀ v n, (ofVerdict v n).value.derive.visible = v.visible) ∧
    ∀ n, (ofVerdict f.derive n).value.derive.visible = f.derive.visible := by
  refine ⟨derives_derive f, fun s => Cause.findSome?_chain_eq_some_iff,
    fun e => Cause.findSome?_chain_eq_some_iff, fun n e => together_derive, fun g h => ?_,
    visible_derive_ofVerdict, visible_derive_ofVerdict f.derive⟩
  rw [← visible_derive_unsuppressed, h, visible_derive_unsuppressed]

/-- The verdict that a store gives. -/
def storeVerdict : Verdict :=
  ⟨.plain .resourceExhausted "slow down", Metadata.empty.add "reason" "quota"⟩

/-- A status about the verdict of the store. -/
def lookupStatus : Status :=
  ⟨.notFound, "user 42", [1], .empty, some (.verdict storeVerdict)⟩

/-- A fault with that status as its source. -/
def lookupFault : Fault :=
  ⟨3, ⟨"Lookup"⟩, none, some (.status lookupStatus), []⟩

/-- The status that stands before the verdict is derived, with the trailers of the verdict; that
another error was suppressed does not matter. -/
theorem derive_reads_chain_shadowed :
    lookupFault.derive.status = { lookupStatus with source := some (.fault lookupFault) } ∧
    lookupFault.derive.trailers = storeVerdict.trailers ∧
    { lookupFault with label := 4, suppressed := [.call .alreadyClosed] }.derive.visible =
      lookupFault.derive.visible := by
  have hstatus : (Cause.fault lookupFault).FirstAt Cause.status? 1 lookupStatus := by
    refine ⟨rfl, fun m hm => ?_⟩
    obtain rfl := Nat.lt_one_iff.1 hm
    rfl
  have hverdict : (Cause.fault lookupFault).FirstAt Cause.verdict? 2 storeVerdict := by
    refine ⟨rfl, fun m hm => ?_⟩
    obtain rfl | rfl : m = 0 ∨ m = 1 := by omega
    all_goals rfl
  obtain ⟨hderives, -, -, -, hsuppressed, -, -⟩ := derive_reads_chain lookupFault
  exact ⟨hderives.copied 1 _ hstatus, hderives.carried 2 _ hverdict,
    (hsuppressed _ (by simp [lookupFault, unsuppressed])).symm⟩

end Fault

end CallGuard
