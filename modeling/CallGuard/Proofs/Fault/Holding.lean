import CallGuard.Proofs.Fault.Detaching
import CallGuard.Rehearsal.Shared

/-!
# Steps on shared faults

Whether a step can be made, and what fault it comes to, is told by the faults that are held under
the names (`NamedFaults.Step.outcome?`). Steps on faults with labels and steps on handles both come
to it:

* `NamedFaults.make_of_outcome?` : a fault that is made takes a fresh label, and a copy keeps the
  label;
* `SharedFaults.Sound.make` : a fault that is made is in a cell that no other handle is on, and the
  faults under the other names stay as they are (`SharedFaults.Leaves`).
-/

namespace CallGuard

open NamedFaults Heap

/-! ### What a step is about -/

namespace NamedFaults

/-- The names that an operand asks for. -/
def Operand.asked : Operand → List String
  | named name => [name]
  | other _ => []
  | within _ e => e.asked

namespace Step

/-- The names that a step asks for. -/
def asked : Step → List String
  | create _ _ => []
  | wrap _ _ _ e => e.asked
  | copy name _ => [name]
  | suppress name e _ => name :: e.asked
  | changeSource name e _ => name :: e.asked

/-- The name under which the fault is held that the step comes to. -/
def target : Step → String
  | create target _ => target
  | wrap target _ _ _ => target
  | copy _ target => target
  | suppress _ _ target => target
  | changeSource _ _ target => target

/-- The name that gives up its fault, to have it changed. -/
def taken? : Step → Option String
  | suppress name _ _ => some name
  | changeSource name _ _ => some name
  | _ => none

/-- The step makes a fault, or a fault out of another. -/
def makes : Step → Bool
  | copy _ _ => false
  | _ => true

/-- What is left when the fault that is changed is given up. -/
def rest {α : Type} (step : Step) (held : Named α) : Named α :=
  match step.taken? with
  | some name => held.release name
  | none => held

/-- The fault that a change comes to, given the faults held under the names. -/
def changed? (get? : String → Option Fault) (name : String) (e : Operand) (edit : Edit) :
    Option Fault :=
  (get? name).bind fun f => (e.error? get?).map (edit.fault f)

/-- The fault that the step comes to, but for its label, given the faults held under the names. -/
def outcome? (get? : String → Option Fault) : Step → Option Fault
  | create _ pattern => some pattern
  | wrap _ kind message e => (e.error? get?).map fun e => ⟨0, kind, message, some e, []⟩
  | copy name _ => get? name
  | suppress name e _ => changed? get? name e .suppressed
  | changeSource name e _ => changed? get? name e .source

variable {get? : String → Option Fault} {α : Type} {held : Named α} {step : Step} {k : String}

theorem get?_rest :
    (step.rest held).get? k = if step.taken? = some k then none else held.get? k := by
  rw [rest]
  split
  · rename_i name h
    rw [Named.get?_release, h]
    simp only [Option.some.injEq, eq_comm]
  · rename_i h
    rw [h, if_neg nofun]

end Step

theorem Operand.isSome_error? (get? : String → Option Fault) (e : Operand) :
    (e.error? get?).isSome ↔ ∀ name ∈ e.asked, (get? name).isSome := by
  induction e with
  | named name => simp [error?, asked]
  | other e => simp [error?, asked]
  | within w e ih => simpa [error?, asked] using ih

theorem Step.isSome_changed? (get? : String → Option Fault) (name : String) (e : Operand)
    (edit : Edit) : (changed? get? name e edit).isSome ↔
      ∀ k ∈ name :: e.asked, (get? k).isSome := by
  rw [List.forall_mem_cons, ← e.isSome_error? get?, changed?]
  cases get? name <;> simp

/-- A step can be made if there is a fault under each name that it asks for. -/
theorem Step.isSome_outcome? (get? : String → Option Fault) (step : Step) :
    (step.outcome? get?).isSome ↔ ∀ name ∈ step.asked, (get? name).isSome := by
  cases step with
  | create target pattern => simp [outcome?, asked]
  | wrap target kind message e => simpa [outcome?, asked] using e.isSome_error? get?
  | copy name target => simp [outcome?, asked]
  | suppress name e target => exact isSome_changed? ..
  | changeSource name e target => exact isSome_changed? ..

/-! ### Steps on faults with labels -/

/-- The fault that a step comes to, with its label: a fresh one, or that of the copied fault. -/
def Step.labelled (step : Step) (n : Label) (f : Fault) : Fault :=
  if step.makes then { f with label := n } else f

variable {held : NamedFaults} {step : Step} {f : Fault}

theorem change_of_changed? {name target : String} {e : Operand} {edit : Edit}
    {g : Fault → Cause → Recorded Fault} (h : Step.changed? held.get? name e edit = some f)
    {n : Label} (hg : ∀ old c, g old c n = ⟨{ edit.fault old c with label := n }, 1, []⟩) :
    change held name target e g n = ⟨some ({ f with label := n },
      (held.release name).hold target { f with label := n }), 1, []⟩ := by
  obtain ⟨old, hold, h⟩ := Option.bind_eq_some_iff.1 h
  obtain ⟨c, hc, rfl⟩ := Option.map_eq_some_iff.1 h
  simp only [change, hold, hc]
  change (⟨some ((g old c n).value, (held.release name).hold target (g old c n).value),
    (g old c n).minted + 0, (g old c n).entries ++ []⟩ : Trace _) = _
  rw [hg]
  rfl

theorem change_of_none {name target : String} {e : Operand} {edit : Edit}
    {g : Fault → Cause → Recorded Fault} (h : Step.changed? held.get? name e edit = none) :
    change held name target e g = pure none := by
  rw [change]
  cases hold : held.get? name with
  | none => rfl
  | some old =>
    rw [Step.changed?, hold, Option.bind_some, Option.map_eq_none_iff] at h
    rw [h]

/-- A step comes to its outcome, and a label is taken if it makes a fault. -/
theorem make_of_outcome? (h : step.outcome? held.get? = some f) (n : Label) :
    make held step n = ⟨some (step.labelled n f,
      (step.rest held).hold step.target (step.labelled n f)), step.makes.toNat, []⟩ := by
  cases step with
  | create target pattern =>
    cases h
    rfl
  | wrap target kind message e =>
    obtain ⟨c, hc, rfl⟩ := Option.map_eq_some_iff.1 h
    simp only [make, hc]
    rfl
  | copy name target =>
    change held.get? name = some f at h
    simp only [make, h]
    rfl
  | suppress name e target => exact change_of_changed? h fun _ _ => rfl
  | changeSource name e target => exact change_of_changed? h fun _ _ => rfl

theorem make_of_none (h : step.outcome? held.get? = none) : make held step = pure none := by
  cases step with
  | create target pattern => cases h
  | wrap target kind message e =>
    rw [Step.outcome?, Option.map_eq_none_iff] at h
    simp only [make, h]
  | copy name target =>
    change held.get? name = none at h
    simp only [make, h]
    rfl
  | suppress name e target => exact change_of_none h
  | changeSource name e target => exact change_of_none h

end NamedFaults

/-! ### Steps on handles -/

namespace SharedFaults

/-- All counts are right, and each name holds a handle on a fault. -/
structure Sound (s : SharedFaults) : Prop where
  heap : s.heap.Sound s.names.values
  fault : ∀ p ∈ s.names.values, ∃ i, s.heap.cell? p = some (.fault i)

variable {s s' : SharedFaults} {label label' : Address → Label} {k name target : String}
  {p q : Address} {made : Heap × Address} {names : Named Address} (al : Allocator)

theorem view?_of_none (hk : s.names.get? k = none) : s.view? label k = none := by
  rw [view?, hk]
  rfl

namespace Sound

theorem empty : SharedFaults.empty.Sound :=
  ⟨Heap.Sound.empty, nofun⟩

section
variable (hs : s.Sound)
include hs

theorem exists_inner (hk : s.names.get? k = some p) : ∃ i, s.heap.cell? p = some (.fault i) ∧
    ∀ label, s.heap.read label p = .fault (i.content (label p) (s.heap.read label)) ∧
      s.view? label k = some (i.content (label p) (s.heap.read label)) := by
  obtain ⟨i, hi⟩ := hs.fault p (Named.mem_values hk)
  refine ⟨i, hi, fun label => ?_⟩
  have hread : s.heap.read label p = _ := hs.heap.read_eq_content hi
  refine ⟨hread, ?_⟩
  rw [view?, hk, Option.bind_some, hread]
  rfl

theorem isSome_view? (label : Address → Label) (k : String) :
    (s.view? label k).isSome = (s.names.get? k).isSome := by
  cases hk : s.names.get? k with
  | none => rw [view?_of_none hk]; rfl
  | some p =>
    obtain ⟨i, -, hi⟩ := hs.exists_inner hk
    rw [(hi label).2]
    rfl

/-- The handles in the error of an operand are on cells, and the error is what the operand stands
for. -/
theorem boxed?_eq_some {o : Operand} {e : Boxed} (he : s.boxed? o = some e) :
    (∀ r ∈ e.refs, ∃ c, s.heap.cell? r = some c) ∧
      ∀ label, o.error? (s.view? label) = some (e.content (s.heap.read label)) := by
  induction o generalizing e with
  | named name =>
    obtain ⟨p, hp, rfl⟩ := Option.map_eq_some_iff.1 he
    obtain ⟨i, hi, hview⟩ := hs.exists_inner hp
    refine ⟨fun r hr => ⟨_, (List.mem_singleton.1 hr) ▸ hi⟩, fun label => ?_⟩
    rw [Operand.error?, (hview label).2, Boxed.content, (hview label).1]
    rfl
  | other c =>
    cases he
    exact ⟨fun r hr => absurd hr List.not_mem_nil, fun _ => rfl⟩
  | within w o ih =>
    obtain ⟨e, ho, rfl⟩ := Option.map_eq_some_iff.1 he
    obtain ⟨hlive, herror⟩ := ih ho
    refine ⟨hlive, fun label => ?_⟩
    rw [Operand.error?, herror]
    rfl

theorem isSome_boxed? (o : Operand) (label : Address → Label) :
    (s.boxed? o).isSome = (o.error? (s.view? label)).isSome := by
  induction o with
  | named name => simp [boxed?, Operand.error?, hs.isSome_view?]
  | other c => rfl
  | within w o ih => simpa [boxed?, Operand.error?] using ih

theorem exists_handle {f : Fault} (hk : s.view? label k = some f) :
    ∃ p, s.names.get? k = some p := by
  rw [← Option.isSome_iff_exists, ← hs.isSome_view? label, hk]
  rfl

theorem exists_boxed {o : Operand} {c : Cause} (ho : o.error? (s.view? label) = some c) :
    ∃ e, s.boxed? o = some e := by
  rw [← Option.isSome_iff_exists, hs.isSome_boxed? o label, ho]
  rfl

theorem boxed?_eq_none {o : Operand} (ho : o.error? (s.view? label) = none) :
    s.boxed? o = none := by
  rw [← Option.not_isSome_iff_eq_none, hs.isSome_boxed? o label, ho]
  exact nofun

end

end Sound

/-! #### Holding a handle -/

section
variable (hm : made.1.Sound (made.2 :: names.values))
include hm

theorem sound_release : made.1.Sound
    ((names.get? target).toList ++ made.2 :: (names.release target).values) :=
  hm.perm (((names.values_perm target).cons made.2).trans List.perm_middle.symm)

theorem sound_hold
    (hfault : ∀ p ∈ made.2 :: names.values, ∃ i, made.1.cell? p = some (.fault i)) :
    (hold names target made).Sound where
  heap := (sound_release hm).release
  fault p hp := by
    have hmem : p ∈ made.2 :: names.values := by
      refine (List.mem_cons.1 hp).elim (fun h => h ▸ List.mem_cons_self) fun hp => ?_
      exact List.mem_cons_of_mem _
        ((names.values_perm target).mem_iff.2 (List.mem_append_right _ hp))
    obtain ⟨i, hi⟩ := hfault p hmem
    exact ⟨i, ((sound_release hm).cell?_release (List.mem_append_left _ hp)).trans hi⟩

theorem view?_hold (label : Address → Label) (k : String) :
    (hold names target made).view? label k =
      if k = target then (made.1.read label made.2).fault?
      else (names.get? k).bind fun p => (made.1.read label p).fault? := by
  have hread : ∀ p ∈ made.2 :: (names.release target).values,
      (hold names target made).heap.read label p = made.1.read label p := fun p hp =>
    (sound_release hm).read_release (List.mem_append_left _ hp)
  rw [view?]
  change ((names.hold target made.2).get? k).bind _ = _
  rw [Named.get?_hold]
  split
  · rw [Option.bind_some, hread _ List.mem_cons_self]
  · rename_i hk
    refine Option.bind_congr fun p hp => ?_
    rw [hread p]
    refine List.mem_cons_of_mem _ (Named.mem_values (k := k) ?_)
    rw [Named.get?_release, if_neg hk, hp]

end

/-! #### What a step leaves -/

/-- What a step leaves that comes to a fault, with a handle on the fault. The fault is told but for
its label. -/
structure Leaves (s : SharedFaults) (step : Step) (f : (Address → Label) → Fault)
    (s' : SharedFaults) (q : Address) : Prop where
  sound : s'.Sound
  names : s'.names = (step.rest s.names).hold step.target q
  /-- The other names hold the faults that they held. -/
  view : ∀ {label label'}, (∀ r, (step.makes → r ≠ q) → label' r = label r) →
    ∀ k, s'.view? label' k = if k = step.target then some { f label with label := label' q }
      else if step.taken? = some k then none else s.view? label k
  /-- There is no other handle on a fault that is made. -/
  apart : step.makes → q ∉ (step.rest s.names).values ++ s'.heap.refs
  /-- All other faults were there before. -/
  old : ∀ r i, (step.makes → r ≠ q) → s'.heap.cell? r = some (.fault i) →
    s.heap.cell? r = some (.fault i)
  /-- A copy has the label of the fault. -/
  copied : ¬step.makes → ∀ label, (f label).label = label q

variable {step : Step} {f : (Address → Label) → Fault}

theorem leaves_of_makes (hs : s.Sound) (hmakes : step.makes)
    (hm : Makes s.heap (step.rest s.names).values f made) :
    Leaves s step f (hold (step.rest s.names) step.target made) made.2 := by
  have hrest : ∀ p ∈ (step.rest s.names).values, p ∈ s.names.values := fun p hp => by
    obtain ⟨k, hk⟩ := Named.exists_of_mem_values hp
    rw [Step.get?_rest] at hk
    split at hk
    · cases hk
    · exact Named.mem_values hk
  have hfault : ∀ p ∈ made.2 :: (step.rest s.names).values,
      ∃ i, made.1.cell? p = some (.fault i) := fun p hp => by
    refine (List.mem_cons.1 hp).elim (fun h => h ▸ hm.fault) fun hp => ?_
    rw [hm.cell p hp]
    exact hs.fault p (hrest p hp)
  exact {
    sound := sound_hold hm.sound hfault
    names := rfl
    view := fun {label label'} hlabel k => by
      have hlabel : ∀ r, r ≠ made.2 → label' r = label r := fun r hr => hlabel r fun _ => hr
      rw [view?_hold hm.sound]
      split
      · rw [hm.read_self hlabel]
        rfl
      · rw [Step.get?_rest]
        split
        · rfl
        · rename_i hk
          refine Option.bind_congr fun p hp => ?_
          rw [hm.read hlabel p (Named.mem_values (k := k) ?_)]
          rw [Step.get?_rest, if_neg hk, hp]
    apart := fun _ hmem => hm.alone ((List.mem_append.1 hmem).elim (List.mem_append_left _)
      fun hmem => List.mem_append_right _ (refs_subset (fun _ _ => cell?_of_release) hmem))
    old := fun r i hr hi => hm.old r i (hr hmakes) (cell?_of_release hi)
    copied := fun h => absurd hmakes h }

theorem leaves_copy (hs : s.Sound) (hp : s.names.get? name = some p) :
    ∃ f, (∀ label, s.view? label name = some (f label)) ∧
      Leaves s (.copy name target) f (hold s.names target (s.heap.retain [p], p)) p := by
  obtain ⟨i, hi, hview⟩ := hs.exists_inner hp
  have hretain : (s.heap.retain [p]).Sound (p :: s.names.values) :=
    hs.heap.retain fun r hr => ⟨_, (List.mem_singleton.1 hr) ▸ hi⟩
  have hfault : ∀ r ∈ p :: s.names.values,
      ∃ i, (s.heap.retain [p]).cell? r = some (.fault i) := fun r hr => by
    rw [cell?_retain]
    exact (List.mem_cons.1 hr).elim (fun h => ⟨i, h ▸ hi⟩) (hs.fault r)
  refine ⟨_, fun label => (hview label).2, ?_⟩
  exact {
    sound := sound_hold hretain hfault
    names := rfl
    view := fun {label label'} hlabel k => by
      obtain rfl : label' = label := funext fun r => hlabel r nofun
      rw [view?_hold hretain]
      rw [hs.heap.read_retain]
      by_cases hk : k = target
      · rw [if_pos hk, if_pos (show k = (Step.copy name target).target from hk), (hview label').1]
        rfl
      · rw [if_neg hk, if_neg (show k ≠ (Step.copy name target).target from hk),
          if_neg (show (Step.copy name target).taken? ≠ some k from nofun)]
        rfl
    apart := nofun
    old := fun r j _ hj => (cell?_retain ..).symm.trans (cell?_of_release hj)
    copied := fun _ _ => rfl }

theorem Sound.change (hs : s.Sound) {o : Operand} {edit : Edit} {f₀ : Fault}
    (h : Step.changed? (s.view? label) name o edit = some f₀) : ∃ made f,
      s.change al name target o edit = some (hold (s.names.release name) target made) ∧
      (∀ label, Step.changed? (s.view? label) name o edit = some (f label)) ∧
      Makes s.heap (s.names.release name).values f made := by
  obtain ⟨old, hold, h⟩ := Option.bind_eq_some_iff.1 h
  obtain ⟨c, hc, -⟩ := Option.map_eq_some_iff.1 h
  obtain ⟨p, hp⟩ := hs.exists_handle hold
  obtain ⟨e, he⟩ := hs.exists_boxed hc
  obtain ⟨i, hi, hview⟩ := hs.exists_inner hp
  obtain ⟨hlive, herror⟩ := hs.boxed?_eq_some he
  have hperm : (e.refs ++ s.names.values).Perm (p :: (e.refs ++ (s.names.release name).values)) := by
    have hvalues := s.names.values_perm name
    rw [hp] at hvalues
    exact (hvalues.append_left e.refs).trans List.perm_middle
  have hi' : (s.heap.retain e.refs).cell? p = some (.fault i) := (cell?_retain ..).trans hi
  have hmakes := (((hs.heap.retain hlive).perm hperm).change al edit hi').1
  refine ⟨_, fun label => edit.fault (i.content (label p) (s.heap.read label))
    (e.content (s.heap.read label)), ?_, fun label => ?_, hmakes.retained hs.heap fun label => ?_⟩
  · simp only [SharedFaults.change, hp, he]
  · rw [Step.changed?, (hview label).2, Option.bind_some, herror]
    rfl
  · rw [hs.heap.read_retain]

theorem Sound.make (hs : s.Sound) {f₀ : Fault} (h : step.outcome? (s.view? label) = some f₀) :
    ∃ s' f q, s.make al step = some s' ∧ (∀ label, step.outcome? (s.view? label) = some (f label)) ∧
      Leaves s step f s' q := by
  cases step with
  | create target pattern =>
    exact ⟨_, _, _, rfl, fun _ => rfl, leaves_of_makes hs rfl (hs.heap.create al pattern)⟩
  | wrap target kind message o =>
    obtain ⟨c, hc, -⟩ := Option.map_eq_some_iff.1 h
    obtain ⟨e, he⟩ := hs.exists_boxed hc
    obtain ⟨hlive, herror⟩ := hs.boxed?_eq_some he
    have hmakes : Makes _ s.names.values _
        ((s.heap.retain e.refs).build al kind message (some e)) :=
      Sound.build al (hs.heap.retain hlive)
    refine ⟨_, _, _, ?_, fun label => ?_, leaves_of_makes hs rfl (hmakes.retained hs.heap
      (g := fun label => ⟨0, kind, message, some (e.content (s.heap.read label)), []⟩)
      fun label => ?_)⟩
    · simp only [SharedFaults.make, he, Option.map_some]
      rfl
    · rw [Step.outcome?, herror]
      rfl
    · rw [hs.heap.read_retain]
      rfl
  | copy name target =>
    obtain ⟨p, hp⟩ := hs.exists_handle h
    obtain ⟨f, hf, hleaves⟩ := leaves_copy hs hp
    refine ⟨_, f, p, ?_, hf, hleaves⟩
    simp only [SharedFaults.make, hp, Option.map_some]
  | suppress name o target =>
    obtain ⟨made, f, hmade, hf, hmakes⟩ := hs.change al h
    exact ⟨_, f, _, hmade, hf, leaves_of_makes hs rfl hmakes⟩
  | changeSource name o target =>
    obtain ⟨made, f, hmade, hf, hmakes⟩ := hs.change al h
    exact ⟨_, f, _, hmade, hf, leaves_of_makes hs rfl hmakes⟩

theorem Sound.change_of_none (hs : s.Sound) {o : Operand} {edit : Edit}
    (h : Step.changed? (s.view? label) name o edit = none) :
    s.change al name target o edit = none := by
  cases hp : s.names.get? name with
  | none => simp only [SharedFaults.change, hp]
  | some p =>
    obtain ⟨i, -, hview⟩ := hs.exists_inner hp
    rw [Step.changed?, (hview label).2, Option.bind_some, Option.map_eq_none_iff] at h
    simp only [SharedFaults.change, hp, hs.boxed?_eq_none h]

theorem Sound.make_of_none (hs : s.Sound) (h : step.outcome? (s.view? label) = none) :
    s.make al step = none := by
  cases step with
  | create target pattern => cases h
  | wrap target kind message o =>
    rw [Step.outcome?, Option.map_eq_none_iff] at h
    simp only [SharedFaults.make, hs.boxed?_eq_none h, Option.map_none]
  | copy name target =>
    have hname : s.names.get? name = none := Option.not_isSome_iff_eq_none.1 fun hsome => by
      rw [← hs.isSome_view? label, show s.view? label name = none from h] at hsome
      cases hsome
    simp only [SharedFaults.make, hname, Option.map_none]
  | suppress name o target => exact hs.change_of_none al h
  | changeSource name o target => exact hs.change_of_none al h

end SharedFaults

end CallGuard
