import CallGuard.Proofs.Hierarchy.Walk
import Mathlib.Data.List.Induction
import Mathlib.Logic.Relation

/-!
# Which declarations make a hierarchy

A kind may be declared several times, and only the last of its declarations counts
(`Hierarchy.lastDeclared?`). So what becomes of a list of declarations can be told from the last
ones alone: they are refused when the root has a parent, and otherwise when a kind can be reached
from itself over declared parents.

* `Hierarchy.parents?_table` : the table that declarations leave;
* `Hierarchy.validate_eq_rootRedeclared_iff`, `Hierarchy.exists_validate_eq_cyclic_iff`,
  `Hierarchy.validate_eq_ok_iff` : when a table is refused, and why;
* `Hierarchy.build_of_last_declarations` : both for a list of declarations, and that their order
  matters only among declarations of one kind.
-/

namespace CallGuard

namespace Hierarchy

/-- A kind was declared with another one as a parent. -/
def DeclaredParent (h : Hierarchy) (k p : Kind) : Prop :=
  ∃ ps, h.parents? k = some ps ∧ p ∈ ps

variable {h h' : Hierarchy} {k p a : Kind} {n : Nat}

/-! ### Declared circles -/

theorem DeclaredParent.mem_parents (hp : h.DeclaredParent k p) (hk : k ≠ Kind.any) :
    p ∈ h.parents k :=
  mem_parents_iff.2 (isParent_iff.2 ⟨hk, .inl hp⟩)

theorem Path.reflTransGen (hp : h.Path n k a) (ha : a ≠ Kind.any) :
    Relation.ReflTransGen h.DeclaredParent k a := by
  induction hp with
  | refl => exact .refl
  | step hq hpath ih =>
    obtain ⟨-, hd | ⟨rfl, -⟩⟩ := isParent_iff.1 (mem_parents_iff.1 hq)
    · exact .head hd (ih ha)
    · exact absurd (path_any.1 hpath).2 ha

/-- Declared parents are a path, unless the root has some. -/
theorem exists_path_of_reflTransGen (hroot : ∀ p, ¬h.DeclaredParent Kind.any p)
    (hp : Relation.ReflTransGen h.DeclaredParent k a) : ∃ n, h.Path n k a := by
  induction hp using Relation.ReflTransGen.head_induction_on with
  | refl => exact ⟨0, .refl a⟩
  | @head k p hd _ ih =>
    obtain ⟨n, hpath⟩ := ih
    have hk : k ≠ Kind.any := fun hk => hroot p (hk ▸ hd)
    exact ⟨n + 1, .step (hd.mem_parents hk) hpath⟩

/-! ### Verdicts on a table -/

theorem validate_eq_rootRedeclared_iff :
    h.validate = .error .rootRedeclared ↔ ∃ p, h.DeclaredParent Kind.any p := by
  have hroot : (∃ p, h.DeclaredParent Kind.any p) ↔
      ∃ p ps, h.parents? Kind.any = some (p :: ps) := by
    constructor
    · rintro ⟨p, _ | ⟨q, qs⟩, hd, hp⟩
      · exact absurd hp List.not_mem_nil
      · exact ⟨q, qs, hd⟩
    · rintro ⟨p, ps, hd⟩
      exact ⟨p, _, hd, List.mem_cons_self⟩
  rw [hroot, validate]
  split
  · next p ps hd => simp [hd]
  · next hd =>
    refine iff_of_false ?_ (by simpa using hd)
    split <;> exact nofun

theorem not_declaredParent_any (hv : h.validate ≠ .error .rootRedeclared) (p : Kind) :
    ¬h.DeclaredParent Kind.any p :=
  fun hp => hv (validate_eq_rootRedeclared_iff.2 ⟨p, hp⟩)

theorem transGen_of_validate (hv : h.validate = .error (.cyclic k)) :
    Relation.TransGen h.DeclaredParent k k := by
  have hroot := not_declaredParent_any (h := h) (by rw [hv]; exact nofun)
  unfold validate at hv
  split at hv
  · cases hv
  · split at hv
    · next d hfind =>
      obtain rfl : d.1 = k := by simpa using hv
      have hd : h.parents? d.1 = some d.2 :=
        parents?_eq_some_iff.2 (List.mem_of_find?_eq_some hfind)
      have hreach := List.find?_some hfind
      rw [reachesItself, List.any_eq_true] at hreach
      obtain ⟨p, hp, hpath⟩ := hreach
      obtain ⟨n, hpath⟩ := any_ancestors_eq_true_iff.1 hpath
      have hk : d.1 ≠ Kind.any := fun hk => hroot p ⟨_, hk ▸ hd, hp⟩
      exact .head' ⟨_, hd, hp⟩ (hpath.reflTransGen hk)
    · cases hv

theorem validate_cases (h : Hierarchy) :
    (h.validate = .error .rootRedeclared ∧ ∃ p, h.DeclaredParent Kind.any p) ∨
    (∃ k, h.validate = .error (.cyclic k) ∧ (∀ p, ¬h.DeclaredParent Kind.any p) ∧
      Relation.TransGen h.DeclaredParent k k) ∨
    (h.validate = .ok h ∧ (∀ p, ¬h.DeclaredParent Kind.any p) ∧
      ∀ k, ¬Relation.TransGen h.DeclaredParent k k) := by
  cases hv : h.validate with
  | error e =>
    cases e with
    | rootRedeclared => exact .inl ⟨rfl, validate_eq_rootRedeclared_iff.1 hv⟩
    | cyclic k =>
      have hroot := not_declaredParent_any (h := h) (by rw [hv]; exact nofun)
      exact .inr (.inl ⟨k, rfl, hroot, transGen_of_validate hv⟩)
  | ok h' =>
    have hroot := not_declaredParent_any (h := h) (by rw [hv]; exact nofun)
    obtain ⟨rfl, hac⟩ := acyclic_of_validate hv
    refine .inr (.inr ⟨rfl, hroot, fun k hk => ?_⟩)
    -- what reaches itself over declared parents has a path to itself
    obtain ⟨p, hp, hpath⟩ := Relation.TransGen.head'_iff.1 hk
    obtain ⟨n, hpath⟩ := exists_path_of_reflTransGen hroot hpath
    exact hac n k (.step (hp.mem_parents fun hk => hroot p (hk ▸ hp)) hpath)

theorem exists_validate_eq_cyclic_iff : (∃ k, h.validate = .error (.cyclic k)) ↔
    (∀ p, ¬h.DeclaredParent Kind.any p) ∧ ∃ k, Relation.TransGen h.DeclaredParent k k := by
  rcases h.validate_cases with ⟨hv, p, hp⟩ | ⟨k, hv, hroot, hk⟩ | ⟨hv, -, hcircle⟩
  · exact iff_of_false (by simp [hv]) fun hr => hr.1 p hp
  · exact iff_of_true ⟨k, hv⟩ ⟨hroot, k, hk⟩
  · exact iff_of_false (by simp [hv]) fun hr => hr.2.elim hcircle

theorem validate_eq_ok_iff : h.validate = .ok h' ↔ h' = h ∧
    (∀ p, ¬h.DeclaredParent Kind.any p) ∧ ∀ k, ¬Relation.TransGen h.DeclaredParent k k := by
  rcases h.validate_cases with ⟨hv, p, hp⟩ | ⟨k, hv, -, hk⟩ | ⟨hv, hpass⟩
  · exact iff_of_false (by simp [hv]) fun hr => hr.2.1 p hp
  · exact iff_of_false (by simp [hv]) fun hr => hr.2.2 k hk
  · rw [hv, Except.ok.injEq, eq_comm]
    exact (and_iff_left hpass).symm

/-- The same verdict: tables are refused for the same reason, whichever kind of a circle is named,
or they pass and give every kind the same parents. -/
inductive SameVerdict : Except Error Hierarchy → Except Error Hierarchy → Prop
  | rootRedeclared : SameVerdict (.error .rootRedeclared) (.error .rootRedeclared)
  | cyclic (k k' : Kind) : SameVerdict (.error (.cyclic k)) (.error (.cyclic k'))
  | ok {h h' : Hierarchy} (hp : ∀ k, h.parents? k = h'.parents? k) : SameVerdict (.ok h) (.ok h')

/-- The verdict depends on the declared parents of each kind alone. -/
theorem sameVerdict_validate (hp : ∀ k, h.parents? k = h'.parents? k) :
    SameVerdict h.validate h'.validate := by
  have hdeclared : h.DeclaredParent = h'.DeclaredParent := by
    funext k p
    simp only [DeclaredParent, hp]
  rcases h.validate_cases with ⟨hv, hroot⟩ | ⟨k, hv, hroot, hk⟩ | ⟨hv, hpass⟩ <;> rw [hv]
  · rw [validate_eq_rootRedeclared_iff.2 (hdeclared ▸ hroot)]
    exact .rootRedeclared
  · obtain ⟨k', hv'⟩ := exists_validate_eq_cyclic_iff.2
      (hdeclared ▸ ⟨hroot, k, hk⟩ : _ ∧ ∃ k, Relation.TransGen h'.DeclaredParent k k)
    rw [hv']
    exact .cyclic k k'
  · rw [validate_eq_ok_iff.2 ⟨rfl, hdeclared ▸ hpass⟩]
    exact .ok hp

theorem parents?_of_perm (hp : h.declared.Perm h'.declared) (k : Kind) :
    h.parents? k = h'.parents? k := by
  ext ps
  rw [parents?_eq_some_iff, parents?_eq_some_iff, hp.mem_iff]

/-! ### Last declarations -/

/-- The parents in the last declaration of a kind. -/
def lastDeclared? (declarations : List (Kind × List Kind)) (k : Kind) : Option (List Kind) :=
  (declarations.filter (·.1 = k)).getLast?.map (·.2)

/-- The last declaration of a kind gives it another one as a parent. -/
def Declares (declarations : List (Kind × List Kind)) (k p : Kind) : Prop :=
  ∃ ps, lastDeclared? declarations k = some ps ∧ p ∈ ps

/-- The table that declarations leave over the built-in kinds. -/
def table (declarations : List (Kind × List Kind)) : Hierarchy :=
  declarations.foldl (fun h d => h.declare d.1 d.2) builtin

/-- The hierarchy has the kinds that were declared, each with the parents in its last declaration,
repetitions left out, and the built-in kinds. -/
structure Describes (declarations : List (Kind × List Kind)) (h : Hierarchy) : Prop where
  declared : ∀ k ps, lastDeclared? declarations k = some ps →
    ∃ qs, h.parents? k = some qs ∧ FirstOccurrences ps qs
  builtin : ∀ k ∈ [Kind.panicked, Kind.status, Kind.illegalState],
    lastDeclared? declarations k = none → h.parents? k = some []
  others : ∀ k ∉ [Kind.panicked, Kind.status, Kind.illegalState],
    lastDeclared? declarations k = none → h.parents? k = none

variable {declarations : List (Kind × List Kind)}

theorem build_eq (declarations : List (Kind × List Kind)) :
    build declarations = (table declarations).validate := rfl

theorem lastDeclared?_snoc (declarations : List (Kind × List Kind)) (d : Kind × List Kind)
    (k : Kind) : lastDeclared? (declarations ++ [d]) k =
      if d.1 = k then some d.2 else lastDeclared? declarations k := by
  by_cases hd : d.1 = k <;> simp [lastDeclared?, List.filter_append, hd]

theorem parents?_builtin (k : Kind) : builtin.parents? k =
    if k ∈ [Kind.panicked, Kind.status, Kind.illegalState] then some [] else none := by
  simp only [parents?, builtin, Keyed.get?_cons, Keyed.get?_nil, List.mem_cons, List.not_mem_nil]
  grind

/-- A table gives each kind what its last declaration says, without repetitions. -/
theorem parents?_table (declarations : List (Kind × List Kind)) (k : Kind) :
    (table declarations).parents? k =
      ((lastDeclared? declarations k).map List.eraseDups).or (builtin.parents? k) := by
  induction declarations using List.reverseRecOn with
  | nil => rfl
  | append_singleton ds d ih =>
    rw [lastDeclared?_snoc, table, List.foldl_append, List.foldl_cons, List.foldl_nil, ← table]
    by_cases hd : d.1 = k
    · subst hd
      rw [if_pos rfl, parents?, declare, Keyed.get?_alter_self]
      rfl
    · rw [if_neg hd, parents?, declare, Keyed.get?_alter_of_ne (Ne.symm hd)]
      exact ih

theorem declaredParent_table : (table declarations).DeclaredParent = Declares declarations := by
  funext k p
  rw [DeclaredParent, Declares, parents?_table]
  cases lastDeclared? declarations k with
  | some ps => simp
  | none =>
    -- a built-in kind has no parents
    rw [parents?_builtin]
    split <;> simp

theorem describes_table (declarations : List (Kind × List Kind)) :
    Describes declarations (table declarations) where
  declared k ps hk := by
    refine ⟨ps.eraseDups, ?_, firstOccurrences_eraseDups ps⟩
    rw [parents?_table, hk]
    rfl
  builtin k hk hnone := by
    rw [parents?_table, hnone, parents?_builtin, if_pos hk]
    rfl
  others k hk hnone := by
    rw [parents?_table, hnone, parents?_builtin, if_neg hk]
    rfl

/-- What becomes of declarations, told from the last ones of each kind. -/
structure Judges (declarations : List (Kind × List Kind)) (verdict : Except Error Hierarchy) :
    Prop where
  rootRedeclared : verdict = .error .rootRedeclared ↔ ∃ p, Declares declarations Kind.any p
  cyclic : (∃ k, verdict = .error (.cyclic k)) ↔ (∀ p, ¬Declares declarations Kind.any p) ∧
    ∃ k, Relation.TransGen (Declares declarations) k k
  /-- The kind that is named is its own ancestor. -/
  named : ∀ k, verdict = .error (.cyclic k) → Relation.TransGen (Declares declarations) k k
  ok : (∃ h, verdict = .ok h) ↔ (∀ p, ¬Declares declarations Kind.any p) ∧
    ∀ k, ¬Relation.TransGen (Declares declarations) k k
  describes : ∀ h, verdict = .ok h → Describes declarations h

theorem judges_build (declarations : List (Kind × List Kind)) :
    Judges declarations (build declarations) := by
  rw [build_eq]
  constructor
  · rw [validate_eq_rootRedeclared_iff, declaredParent_table]
  · rw [exists_validate_eq_cyclic_iff, declaredParent_table]
  · intro k hk
    exact declaredParent_table ▸ transGen_of_validate hk
  · simp only [validate_eq_ok_iff, declaredParent_table, exists_eq_left]
  · intro h hh
    rw [(validate_eq_ok_iff.1 hh).1]
    exact describes_table declarations

/-- Declarations of which the last ones are the same for each kind come to the same. -/
theorem sameVerdict_build {declarations' : List (Kind × List Kind)}
    (hlast : ∀ k, lastDeclared? declarations' k = lastDeclared? declarations k) :
    SameVerdict (build declarations') (build declarations) := by
  rw [build_eq, build_eq]
  refine sameVerdict_validate fun k => ?_
  rw [parents?_table, parents?_table, hlast]

/-- **Only the last declaration of a kind counts.** Declarations are refused exactly when the last
one of the root gives it a parent, or otherwise when the last ones lead from a kind back to it; if
not, the hierarchy has just what they say. The verdict is the same for declarations with the same
last ones, for the same declarations in another order, if this keeps the order of those of each
kind, and when the kinds of the table are looked at in another order. -/
theorem build_of_last_declarations (declarations : List (Kind × List Kind)) :
    Judges declarations (build declarations) ∧
    (∀ declarations', (∀ k, lastDeclared? declarations' k = lastDeclared? declarations k) →
      SameVerdict (build declarations') (build declarations)) ∧
    (∀ declarations' : List (Kind × List Kind),
      (∀ k, declarations'.filter (·.1 = k) = declarations.filter (·.1 = k)) →
      SameVerdict (build declarations') (build declarations)) ∧
    ∀ h : Hierarchy, h.declared.Perm (table declarations).declared →
      SameVerdict h.validate (build declarations) := by
  refine ⟨judges_build declarations, fun _ => sameVerdict_build, ?_, ?_⟩
  · intro declarations' horder
    refine sameVerdict_build fun k => ?_
    rw [lastDeclared?, lastDeclared?, horder]
  · intro h hperm
    exact sameVerdict_validate (parents?_of_perm hperm)

/-- Declarations with a circle that a later one breaks. -/
def broken : List (Kind × List Kind) :=
  [(⟨"A"⟩, [⟨"B"⟩]), (⟨"B"⟩, [⟨"A"⟩]), (⟨"A"⟩, [⟨"C"⟩, ⟨"C"⟩])]

/-- The same with the declaration of another kind at the end. -/
def brokenLater : List (Kind × List Kind) :=
  [(⟨"A"⟩, [⟨"B"⟩]), (⟨"A"⟩, [⟨"C"⟩, ⟨"C"⟩]), (⟨"B"⟩, [⟨"A"⟩])]

/-- The table of the declarations, backwards. -/
def brokenBackwards : Hierarchy where
  declared := (table broken).declared.reverse
  nodup := ((List.reverse_perm _).map _).nodup_iff.2 (table broken).nodup

/-- Either way they are accepted, with the parents that were declared last. -/
theorem build_of_last_declarations_broken : ∃ h, build broken = .ok h ∧ Describes broken h ∧
    SameVerdict (build brokenLater) (.ok h) ∧ SameVerdict brokenBackwards.validate (.ok h) := by
  have hok : build broken = .ok (table broken) := validate_of_isOk (by decide +kernel)
  obtain ⟨hjudges, -, horder, hperm⟩ := build_of_last_declarations broken
  rw [hok] at hjudges horder hperm
  refine ⟨table broken, hok, hjudges.describes _ rfl, horder brokenLater fun k => ?_, ?_⟩
  · by_cases ha : (⟨"A"⟩ : Kind) = k
    · subst ha
      rfl
    · simp [broken, brokenLater, List.filter_cons, ha]
  · exact hperm _ (List.reverse_perm _)

end Hierarchy

end CallGuard
