import CallGuard.Proofs.Fault.Holding

/-!
# Identity of shared faults

The creations and the changes of a run are numbered, and every fault under a name stems from one of
them through copies only (`Origins`). Two names hold the same fault exactly if their faults have one
origin, however many handles there are on a cell and whether a change was made in its place or on a
copy. No step changes another fault than the one it takes.

The faults with labels keep up with the faults in cells: under some labelling of the cells, with a
label of its own for each fault, every name holds the same fault in both (`Mirrors`).
-/

namespace CallGuard

open NamedFaults Heap

/-! ### Origins -/

/-- Where the faults under the names stem from. -/
structure Origins where
  /-- How many faults were made. -/
  made : Nat
  /-- For each name how many were made before its fault. -/
  names : Named Nat

namespace Origins

/-- Where the fault of a step stems from: a copy stems from where the fault under the name does. -/
def origin? (o : Origins) : Step → Option Nat
  | .copy name _ => o.names.get? name
  | _ => some o.made

/-- Where the fault stems from that a step comes to, if it can be made. -/
def outcome? (o : Origins) (step : Step) : Option Nat :=
  if ∀ name ∈ step.asked, (o.names.get? name).isSome then o.origin? step else none

/-- The origins when a step was made, which are those before if it cannot be made. -/
def after (o : Origins) (step : Step) : Origins :=
  match o.outcome? step with
  | some k => ⟨o.made + step.makes.toNat, (step.rest o.names).hold step.target k⟩
  | none => o

/-- The origins when steps were made one after the other. -/
def run (steps : List Step) : Origins :=
  steps.foldl after ⟨0, .empty⟩

/-- The labels of faults are their origins, counted from some label on. -/
def Tells (o : Origins) (n : Label) (held : NamedFaults) : Prop :=
  ∀ k, (held.get? k).map Fault.label = (o.names.get? k).map (n + ·)

variable {o : Origins} {n : Label} {held : NamedFaults} {step : Step} {f : Fault} {k : String}

theorem Tells.isSome (h : o.Tells n held) (k : String) :
    (held.get? k).isSome = (o.names.get? k).isSome := by
  have hk := congrArg Option.isSome (h k)
  rwa [Option.isSome_map, Option.isSome_map] at hk

theorem Tells.isSome_outcome? (h : o.Tells n held) (step : Step) :
    (∀ name ∈ step.asked, (o.names.get? name).isSome) ↔ (step.outcome? held.get?).isSome := by
  simp only [Step.isSome_outcome?, h.isSome]

theorem Tells.after_of_outcome? (h : o.Tells n held) (hf : step.outcome? held.get? = some f) :
    (o.after step).made = o.made + step.makes.toNat ∧
      (o.after step).Tells n ((step.rest held).hold step.target (step.labelled (n + o.made) f)) := by
  have hasked := (h.isSome_outcome? step).2 (Option.isSome_iff_exists.2 ⟨f, hf⟩)
  have hout : ∃ k, o.origin? step = some k ∧ (step.labelled (n + o.made) f).label = n + k := by
    cases step with
    | copy name target =>
      have hname := h name
      rw [show held.get? name = some f from hf] at hname
      obtain ⟨k, hk, hlabel⟩ := Option.map_eq_some_iff.1 hname.symm
      exact ⟨k, hk, hlabel.symm⟩
    | _ => exact ⟨_, rfl, rfl⟩
  obtain ⟨k, hk, hlabel⟩ := hout
  rw [after, Origins.outcome?, if_pos hasked, hk]
  refine ⟨rfl, fun name => ?_⟩
  rw [Named.get?_hold, Named.get?_hold]
  split
  · rw [Option.map_some, Option.map_some, hlabel]
  · rw [Step.get?_rest, Step.get?_rest]
    split
    · rfl
    · exact h name

theorem Tells.after_of_none (h : o.Tells n held) (hf : step.outcome? held.get? = none) :
    o.after step = o := by
  have hasked : ¬∀ name ∈ step.asked, (o.names.get? name).isSome := fun hasked => by
    rw [h.isSome_outcome?, hf] at hasked
    cases hasked
  rw [after, Origins.outcome?, if_neg hasked]

end Origins

/-! ### Labels and cells -/

namespace NamedFaults.Step

variable {step : Step} {q r : Address} {n : Label} {label : Address → Label} {f : Fault}

/-- A labelling with another label for the cell of what the step made. -/
def relabel (step : Step) (q : Address) (n : Label) (label : Address → Label) : Address → Label :=
  fun r => if step.makes ∧ r = q then n else label r

theorem relabel_of_made (h : step.makes ∧ r = q) : step.relabel q n label r = n :=
  if_pos h

theorem relabel_of_old (h : step.makes → r ≠ q) : step.relabel q n label r = label r :=
  if_neg fun hr => h hr.1 hr.2

theorem labelled_eq (hcopied : ¬step.makes → f.label = label q) :
    { f with label := step.relabel q n label q } = step.labelled n f := by
  rw [labelled]
  split
  · rename_i hmakes
    rw [relabel_of_made ⟨hmakes, rfl⟩]
  · rename_i hmakes
    rw [relabel_of_old fun h => absurd h hmakes, ← hcopied hmakes]
    cases f
    rfl

end NamedFaults.Step

/-- The faults under the names, with their labels, are those in the cells under some labelling. -/
structure Mirrors (s : SharedFaults) (held : NamedFaults) (o : Origins) (n : Label)
    (label : Address → Label) : Prop where
  sound : s.Sound
  view : ∀ k, s.view? label k = held.get? k
  origin : o.Tells n held
  /-- The labels of all faults were taken before. -/
  below : ∀ p i, s.heap.cell? p = some (.fault i) → label p < n + o.made
  /-- Each fault has a label of its own. -/
  injective : ∀ p q i j, s.heap.cell? p = some (.fault i) → s.heap.cell? q = some (.fault j) →
    label p = label q → p = q

namespace Mirrors

variable {s : SharedFaults} {held : NamedFaults} {o : Origins} {n : Label}
  {label : Address → Label} (al : Allocator)

theorem empty (n : Label) (label : Address → Label) :
    Mirrors .empty .empty ⟨0, .empty⟩ n label where
  sound := .empty
  view _ := rfl
  origin _ := rfl
  below := nofun
  injective := nofun

theorem after (h : Mirrors s held o n label) (step : Step) :
    (make held step (n + o.made)).minted + o.made = (o.after step).made ∧
    ∃ label', Mirrors (s.after al step)
      (((make held step (n + o.made)).value.map Prod.snd).getD held) (o.after step) n label' := by
  have hview : s.view? label = held.get? := funext h.view
  cases hf : step.outcome? held.get? with
  | none =>
    have hmake := h.sound.make_of_none al (hview ▸ hf)
    rw [NamedFaults.make_of_none hf, SharedFaults.after, hmake, h.origin.after_of_none hf]
    exact ⟨Nat.zero_add _, label, h⟩
  | some f =>
    obtain ⟨s', g, q, hmake, hg, hleaves⟩ := h.sound.make al (hview ▸ hf)
    obtain ⟨hmade, htells⟩ := h.origin.after_of_outcome? hf
    obtain rfl : g label = f := Option.some.inj ((hg label).symm.trans (hview ▸ hf))
    rw [NamedFaults.make_of_outcome? hf, SharedFaults.after, hmake]
    refine ⟨by rw [hmade]; exact Nat.add_comm .., step.relabel q (n + o.made) label, ?_⟩
    -- a fault in a cell is the one that was made, or was there with its label before
    have hcases : ∀ p i, s'.heap.cell? p = some (.fault i) → (step.makes ∧ p = q) ∨
        (step.makes → p ≠ q) ∧ s.heap.cell? p = some (.fault i) := fun p i hi => by
      by_cases hp : step.makes ∧ p = q
      · exact .inl hp
      · have hne : step.makes → p ≠ q := fun hmakes hpq => hp ⟨hmakes, hpq⟩
        exact .inr ⟨hne, hleaves.old p i hne hi⟩
    exact {
      sound := hleaves.sound
      view := fun k => by
        rw [Option.getD_some, hleaves.view fun _ => Step.relabel_of_old, Option.map_some,
          Option.getD_some, Named.get?_hold, Step.get?_rest, hview,
          Step.labelled_eq fun hmakes => hleaves.copied hmakes label]
      origin := htells
      below := fun p i hi => by
        rw [hmade]
        obtain hp | ⟨hne, hp⟩ := hcases p i hi
        · rw [Step.relabel_of_made hp, hp.1]
          exact Nat.lt_succ_self _
        · rw [Step.relabel_of_old hne]
          exact Nat.lt_of_lt_of_le (h.below p i hp) (Nat.add_le_add_left (Nat.le_add_right ..) n)
      injective := fun p r i j hi hj heq => by
        obtain hp | ⟨hpne, hp⟩ := hcases p i hi <;> obtain hr | ⟨hrne, hr⟩ := hcases r j hj
        · exact hp.2.trans hr.2.symm
        · rw [Step.relabel_of_made hp, Step.relabel_of_old hrne] at heq
          exact absurd heq (Nat.ne_of_gt (h.below r j hr))
        · rw [Step.relabel_of_old hpne, Step.relabel_of_made hr] at heq
          exact absurd heq (Nat.ne_of_lt (h.below p i hp))
        · rw [Step.relabel_of_old hpne, Step.relabel_of_old hrne] at heq
          exact h.injective p r i j hp hr heq }

theorem run (h : Mirrors s held o n label) (steps : List Step) :
    ∃ label', Mirrors (steps.foldl (fun s step => s.after al step) s)
      (NamedFaults.run steps held (n + o.made)).value (steps.foldl Origins.after o) n label' := by
  induction steps generalizing s held o label with
  | nil => exact ⟨label, h⟩
  | cons step steps ih =>
    obtain ⟨hmade, label', hafter⟩ := h.after al step
    obtain ⟨label'', hrun⟩ := ih hafter
    have hminted : n + o.made + (make held step (n + o.made)).minted = n + (o.after step).made := by
      rw [← hmade, Nat.add_assoc, Nat.add_comm o.made]
    refine ⟨label'', ?_⟩
    rw [NamedFaults.run, Recorded.bind_value, hminted]
    exact hrun

variable {al} {a b : String} {p : Address} {k : Nat}

/-- The label of the cell of a fault is its origin. -/
theorem exists_origin (h : Mirrors s held o n label) (hp : s.names.get? a = some p) :
    ∃ k, o.names.get? a = some k ∧ n + k = label p := by
  obtain ⟨i, -, hview⟩ := h.sound.exists_inner hp
  have horigin := h.origin a
  rw [← h.view, (hview label).2] at horigin
  exact Option.map_eq_some_iff.1 horigin.symm

theorem exists_handle (h : Mirrors s held o n label) (hk : o.names.get? a = some k) :
    ∃ p, s.names.get? a = some p ∧ n + k = label p := by
  have hsome : (s.names.get? a).isSome := by
    rw [← h.sound.isSome_view? label, h.view, h.origin.isSome, hk]
    rfl
  obtain ⟨p, hp⟩ := Option.isSome_iff_exists.1 hsome
  obtain ⟨l, hl, hlabel⟩ := h.exists_origin hp
  cases hk.symm.trans hl
  exact ⟨p, hp, hlabel⟩

theorem isSame_iff (h : Mirrors s held o n label) :
    s.isSame a b ↔ ∃ k, o.names.get? a = some k ∧ o.names.get? b = some k := by
  rw [SharedFaults.isSame_iff]
  constructor
  · rintro ⟨p, hp, hq⟩
    obtain ⟨k, hk, hpk⟩ := h.exists_origin hp
    obtain ⟨l, hl, hpl⟩ := h.exists_origin hq
    exact ⟨k, hk, Nat.add_left_cancel (hpk.trans hpl.symm) ▸ hl⟩
  · rintro ⟨k, hk, hl⟩
    obtain ⟨p, hp, hpk⟩ := h.exists_handle hk
    obtain ⟨q, hq, hqk⟩ := h.exists_handle hl
    obtain ⟨i, hi, -⟩ := h.sound.exists_inner hp
    obtain ⟨j, hj, -⟩ := h.sound.exists_inner hq
    exact ⟨p, hp, h.injective p q i j hi hj (hpk.symm.trans hqk) ▸ hq⟩

/-- Labels tell the faults under the names apart as their cells do. -/
theorem isSame_eq (h : Mirrors s held o n label) {f g : Fault} (ha : held.get? a = some f)
    (hb : held.get? b = some g) : f.isSame g = s.isSame a b := by
  have hlabel : ∀ {name f}, held.get? name = some f →
      ∃ k, o.names.get? name = some k ∧ n + k = f.label := fun {name f} hf => by
    have horigin := h.origin name
    rw [hf] at horigin
    exact Option.map_eq_some_iff.1 horigin.symm
  obtain ⟨k, hk, hf⟩ := hlabel ha
  obtain ⟨l, hl, hg⟩ := hlabel hb
  rw [Bool.eq_iff_iff, h.isSame_iff, Fault.isSame, beq_iff_eq, ← hf, ← hg, hk, hl]
  constructor
  · intro hkl
    exact ⟨l, congrArg some (Nat.add_left_cancel hkl), rfl⟩
  · rintro ⟨m, hkm, hlm⟩
    rw [Option.some.inj hkm, Option.some.inj hlm]

end Mirrors

/-! ### Identity -/

namespace SharedFaults

variable {s s' : SharedFaults}

/-- The names that hold a fault. -/
def Held (s : SharedFaults) : Type :=
  { name : String // (s.names.get? name).isSome }

theorem equivalence_isSame (s : SharedFaults) :
    Equivalence fun a b : s.Held => s.isSame a.1 b.1 where
  refl a := by
    obtain ⟨p, hp⟩ := Option.isSome_iff_exists.1 a.2
    exact isSame_iff.2 ⟨p, hp, hp⟩
  symm h := by
    obtain ⟨p, ha, hb⟩ := isSame_iff.1 h
    exact isSame_iff.2 ⟨p, hb, ha⟩
  trans h h' := by
    obtain ⟨p, ha, hb⟩ := isSame_iff.1 h
    obtain ⟨q, hb', hc⟩ := isSame_iff.1 h'
    cases hb.symm.trans hb'
    exact isSame_iff.2 ⟨p, ha, hc⟩

/-- A step changes no fault but the one that it takes. -/
structure Spares (s : SharedFaults) (step : Step) (s' : SharedFaults) : Prop where
  /-- The other names hold the faults that they held, with all that these are made of. -/
  others : ∀ name, name ≠ step.target → step.taken? ≠ some name →
    s'.names.get? name = s.names.get? name ∧ ∀ label, s'.view? label name = s.view? label name
  /-- The name that gave its fault up holds nothing, unless it holds what the fault became. -/
  taken : ∀ name, name ≠ step.target → step.taken? = some name → s'.names.get? name = none
  /-- The fault that the step comes to is made of what was there before. -/
  outcome : ∃ p, s'.names.get? step.target = some p ∧ ∀ label, s'.view? label step.target =
    (step.outcome? (s.view? label)).map fun f => { f with label := label p }
  /-- The other faults were there before with the same kind, message, source and suppressed errors,
  those that are met inside others included. -/
  cells : ∀ p i, s'.heap.cell? p = some (.fault i) →
    (step.makes ∧ s'.names.get? step.target = some p) ∨ s.heap.cell? p = some (.fault i)
  /-- A fault that is made is the same as no other, and it is met inside no other. -/
  apart : step.makes → (∀ name, name ≠ step.target → s'.isSame name step.target = false) ∧
    ∀ p, s'.names.get? step.target = some p → p ∉ s'.heap.refs

theorem Sound.spares {al : Allocator} (hs : s.Sound) {step : Step}
    (h : s.make al step = some s') : Spares s step s' := by
  cases hf : step.outcome? (s.view? id) with
  | none =>
    rw [hs.make_of_none al hf] at h
    cases h
  | some f =>
    obtain ⟨s', g, q, hmake, hg, hleaves⟩ := hs.make al hf
    obtain rfl := Option.some.inj (hmake.symm.trans h)
    have htarget : s'.names.get? step.target = some q := by
      rw [hleaves.names, Named.get?_hold, if_pos rfl]
    have hothers : ∀ name, name ≠ step.target →
        s'.names.get? name = (step.rest s.names).get? name := fun name hname => by
      rw [hleaves.names, Named.get?_hold, if_neg hname]
    exact {
      others := fun name hname htaken => by
        rw [hothers name hname, Step.get?_rest, if_neg htaken]
        refine ⟨rfl, fun label => ?_⟩
        rw [hleaves.view fun _ _ => rfl, if_neg hname, if_neg htaken]
      taken := fun name hname htaken => by
        rw [hothers name hname, Step.get?_rest, if_pos htaken]
      outcome := ⟨q, htarget, fun label => by
        rw [hleaves.view fun _ _ => rfl, if_pos rfl, hg]
        rfl⟩
      cells := fun p i hi => by
        by_cases hp : step.makes ∧ p = q
        · exact .inl ⟨hp.1, hp.2 ▸ htarget⟩
        · exact .inr (hleaves.old p i (fun hmakes hpq => hp ⟨hmakes, hpq⟩) hi)
      apart := fun hmakes => by
        have hapart := hleaves.apart hmakes
        rw [List.mem_append, not_or] at hapart
        refine ⟨fun name hname => ?_, fun p hp => ?_⟩
        · rw [← Bool.not_eq_true, isSame_iff]
          rintro ⟨p, hp, hq⟩
          rw [hothers name hname] at hp
          cases htarget.symm.trans hq
          exact hapart.1 (Named.mem_values hp)
        · cases htarget.symm.trans hp
          exact hapart.2 }

/-- Over a whole run the faults with labels keep up with those in cells. -/
theorem mirrors_run (al : Allocator) (steps : List Step) (n : Label) :
    ∃ label, Mirrors (run al steps) (NamedFaults.run steps .empty n).value (Origins.run steps) n
      label :=
  (Mirrors.empty n fun _ => 0).run al steps

/-- **Two faults are the same exactly if they stem from one creation or change through copies.** No
step changes another fault than the one it takes, and the faults with labels tell the same as the
handles do. -/
theorem run_identity (al : Allocator) (steps : List Step) :
    (run al steps).Sound ∧
    (∀ a b, (run al steps).isSame a b ↔
      ∃ k, (Origins.run steps).names.get? a = some k ∧ (Origins.run steps).names.get? b = some k) ∧
    (Equivalence fun a b : (run al steps).Held => (run al steps).isSame a.1 b.1) ∧
    (∀ step s', (run al steps).make al step = some s' → Spares (run al steps) step s') ∧
    ∀ n, (∃ label : Address → Label,
        (∀ p q i j, (run al steps).heap.cell? p = some (.fault i) →
          (run al steps).heap.cell? q = some (.fault j) → label p = label q → p = q) ∧
        ∀ name,
          (run al steps).view? label name = (NamedFaults.run steps .empty n).value.get? name) ∧
      ∀ a b f g, (NamedFaults.run steps .empty n).value.get? a = some f →
        (NamedFaults.run steps .empty n).value.get? b = some g →
        f.isSame g = (run al steps).isSame a b := by
  obtain ⟨label, h⟩ := mirrors_run al steps 0
  refine ⟨h.sound, fun a b => h.isSame_iff, equivalence_isSame _, fun step s' => h.sound.spares,
    fun n => ?_⟩
  obtain ⟨label, h⟩ := mirrors_run al steps n
  exact ⟨⟨label, h.injective, h.view⟩, fun a b f g => h.isSame_eq⟩

/-- A copy is the same fault, until it is changed. -/
theorem run_identity_copy :
    (run .behind [.create "a" ⟨0, Kind.status, none, none, []⟩, .copy "a" "b"]).isSame "a" "b" ∧
    ¬(run .behind [.create "a" ⟨0, Kind.status, none, none, []⟩, .copy "a" "b",
      .suppress "b" (.named "a") "b"]).isSame "a" "b" := by
  refine ⟨((run_identity .behind _).2.1 "a" "b").2 ⟨0, by decide, by decide⟩, fun h => ?_⟩
  obtain ⟨k, ha, hb⟩ := ((run_identity .behind _).2.1 "a" "b").1 h
  have hzero := ha.symm.trans (show _ = some 0 by decide)
  have hone := hb.symm.trans (show _ = some 1 by decide)
  cases hzero.symm.trans hone

end SharedFaults

end CallGuard
