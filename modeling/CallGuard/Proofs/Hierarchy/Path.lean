import CallGuard.Hierarchy.Declare
import Mathlib.Data.Nat.Find
import Mathlib.Order.Bounds.Basic

/-!
# Paths over parents

What the search of a hierarchy finds, in terms of the parent relation alone. `Hierarchy.Path n k a`
says that `n` steps from a kind to a parent lead from `k` up to `a`.

* `Hierarchy.mem_ancestors` : the ancestors of a kind are what paths lead to, each with the length
  of a shortest path;
* `Hierarchy.distance_eq_some_iff`, `Hierarchy.distance_eq_none_iff` : so the distance is that
  length, and there is none exactly when there is no path;
* `Hierarchy.Accepted.acyclic` : no path leads around in a hierarchy that was built, and therefore
  the root can be reached from every kind (`Hierarchy.Acyclic.exists_path_any`).
-/

namespace CallGuard

namespace Hierarchy

/-- Steps from a kind to one of its parents lead from one kind up to another. -/
inductive Path (h : Hierarchy) : Nat → Kind → Kind → Prop
  | refl (k : Kind) : Path h 0 k k
  | step {n : Nat} {k p a : Kind} (hp : p ∈ h.parents k) (hpath : Path h n p a) :
      Path h (n + 1) k a

/-- A shortest path from `k` up to `a` has this length. -/
def Shortest (h : Hierarchy) (k a : Kind) (n : Nat) : Prop :=
  IsLeast {m | h.Path m k a} n

variable {h : Hierarchy} {k a c : Kind} {m n : Nat}

theorem path_zero : h.Path 0 k a ↔ k = a := by
  constructor
  · rintro ⟨⟩
    rfl
  · rintro rfl
    exact .refl k

namespace Path

theorem append (hm : h.Path m k c) (hn : h.Path n c a) : h.Path (m + n) k a := by
  induction hm with
  | refl => rwa [Nat.zero_add]
  | step hp _ ih =>
    rw [Nat.add_right_comm]
    exact .step hp (ih hn)

theorem snoc (hn : h.Path n k c) (ha : a ∈ h.parents c) : h.Path (n + 1) k a :=
  hn.append (.step ha (.refl a))

theorem split (hp : h.Path (m + n) k a) : ∃ c, h.Path m k c ∧ h.Path n c a := by
  induction m generalizing k with
  | zero =>
    rw [Nat.zero_add] at hp
    exact ⟨k, .refl k, hp⟩
  | succ m ih =>
    rw [Nat.add_right_comm] at hp
    cases hp with
    | step hq hp =>
      obtain ⟨c, hc, hn⟩ := ih hp
      exact ⟨c, .step hq hc, hn⟩

end Path

/-! ### Shortest paths -/

theorem Path.exists_shortest (hp : h.Path n k a) : ∃ m, h.Shortest k a m := by
  classical
  have hex : ∃ m, h.Path m k a := ⟨n, hp⟩
  exact ⟨Nat.find hex, Nat.find_spec hex, fun _ hm => Nat.find_min' hex hm⟩

/-- What passes on to greater numbers holds of the lengths of all paths as soon as it holds of the
shortest. -/
theorem forall_shortest_iff {p : Nat → Prop} (hp : ∀ i j, i ≤ j → p i → p j) :
    (∀ m, h.Shortest k a m → p m) ↔ ∀ m, h.Path m k a → p m := by
  constructor
  · intro hs m hm
    obtain ⟨i, hi⟩ := hm.exists_shortest
    exact hp i m (hi.2 hm) (hs i hi)
  · intro hs m hm
    exact hs m hm.1

/-- A shortest path reaches all that it passes on shortest paths. -/
theorem Shortest.split (hs : h.Shortest k a (m + n)) : ∃ c, h.Shortest k c m ∧ h.Path n c a := by
  obtain ⟨c, hc, hn⟩ := hs.1.split
  refine ⟨c, ⟨hc, fun i hi => ?_⟩, hn⟩
  have := hs.2 (hi.append hn)
  omega

/-! ### The search -/

/-- A search from `k` has come to the layer at distance `n`: `met` is what at most `n` steps lead
to, and `frontier` is what has that distance. -/
structure SearchedTo (h : Hierarchy) (k : Kind) (met frontier : List Kind) (n : Nat) : Prop where
  met_iff : ∀ a, a ∈ met ↔ ∃ m, m ≤ n ∧ h.Path m k a
  frontier_iff : ∀ a, a ∈ frontier ↔ h.Shortest k a n

theorem searchedTo_zero : h.SearchedTo k [k] [k] 0 where
  met_iff a := by
    simp only [List.mem_singleton, Nat.le_zero, exists_eq_left, path_zero]
    exact eq_comm
  frontier_iff a := by
    rw [List.mem_singleton]
    constructor
    · rintro rfl
      exact ⟨.refl a, fun _ _ => Nat.zero_le _⟩
    · rintro ⟨hp, -⟩
      exact (path_zero.1 hp).symm

namespace SearchedTo

variable {met frontier : List Kind}

theorem mem_nextLayer_iff (hs : h.SearchedTo k met frontier n) :
    a ∈ h.nextLayer met frontier ↔ h.Shortest k a (n + 1) := by
  rw [mem_nextLayer, hs.met_iff]
  constructor
  · rintro ⟨⟨c, hc, ha⟩, hmet⟩
    refine ⟨((hs.frontier_iff c).1 hc).1.snoc ha, fun i hi => ?_⟩
    by_contra hlt
    exact hmet ⟨i, by omega, hi⟩
  · intro ha
    obtain ⟨c, hc, hp⟩ := ha.split
    refine ⟨⟨c, (hs.frontier_iff c).2 hc, ?_⟩, ?_⟩
    · cases hp with
      | step hq hp => exact path_zero.1 hp ▸ hq
    · rintro ⟨i, hi, hp⟩
      have := ha.2 hp
      omega

theorem next (hs : h.SearchedTo k met frontier n) :
    h.SearchedTo k (met ++ h.nextLayer met frontier) (h.nextLayer met frontier) (n + 1) where
  met_iff a := by
    rw [List.mem_append, hs.met_iff, hs.mem_nextLayer_iff]
    constructor
    · rintro (⟨i, hi, hp⟩ | ha)
      · exact ⟨i, Nat.le_succ_of_le hi, hp⟩
      · exact ⟨n + 1, Nat.le_refl _, ha.1⟩
    · rintro ⟨i, hi, hp⟩
      by_cases hn : ∃ j, j ≤ n ∧ h.Path j k a
      · exact .inl hn
      · -- then every path has more than `n` steps, and this one not more than `n + 1`
        have hlt : ∀ j, h.Path j k a → n + 1 ≤ j := fun j hj =>
          Nat.lt_of_not_le fun hle => hn ⟨j, hle, hj⟩
        obtain rfl : i = n + 1 := Nat.le_antisymm hi (hlt i hp)
        exact .inr ⟨hp, hlt⟩
  frontier_iff _ := hs.mem_nextLayer_iff

/-- The rest of the search finds what has a greater distance. -/
theorem mem_search (hs : h.SearchedTo k met frontier n) :
    (a, m) ∈ h.search met frontier n ↔ n < m ∧ h.Shortest k a m := by
  fun_induction search h met frontier n with
  | case1 met frontier n hempty =>
    -- what is farther has something in the next layer on its shortest path
    refine iff_of_false List.not_mem_nil ?_
    rintro ⟨hlt, ha⟩
    obtain ⟨i, rfl⟩ := Nat.exists_eq_add_of_lt hlt
    rw [Nat.add_right_comm] at ha
    obtain ⟨c, hc, -⟩ := ha.split
    rw [← hs.mem_nextLayer_iff, hempty] at hc
    exact List.not_mem_nil hc
  | case2 met frontier n hne ih =>
    rw [List.mem_append, ih hs.next, List.mem_map]
    constructor
    · rintro (⟨c, hc, ⟨⟩⟩ | ⟨hlt, ha⟩)
      · exact ⟨Nat.lt_succ_self n, hs.mem_nextLayer_iff.1 hc⟩
      · exact ⟨Nat.lt_of_succ_lt hlt, ha⟩
    · rintro ⟨hlt, ha⟩
      rcases Nat.eq_or_lt_of_le hlt with rfl | hlt
      · exact .inl ⟨a, hs.mem_nextLayer_iff.2 ha, rfl⟩
      · exact .inr ⟨hlt, ha⟩

end SearchedTo

/-- **The search is exact.** The ancestors of a kind are what paths lead to, each with the length of
a shortest path. -/
theorem mem_ancestors : (a, n) ∈ h.ancestors k ↔ h.Shortest k a n := by
  have hzero : h.Shortest k a 0 ↔ a = k := by
    rw [← searchedTo_zero.frontier_iff, List.mem_singleton]
  rw [ancestors, List.mem_cons, searchedTo_zero.mem_search, Prod.mk.injEq]
  constructor
  · rintro (⟨ha, rfl⟩ | ⟨-, ha⟩)
    · exact hzero.2 ha
    · exact ha
  · intro ha
    rcases Nat.eq_zero_or_pos n with rfl | hn
    · exact .inl ⟨hzero.1 ha, rfl⟩
    · exact .inr ⟨hn, ha⟩

theorem any_ancestors_eq_true_iff :
    ((h.ancestors k).any fun e => e.1 = a) = true ↔ ∃ n, h.Path n k a := by
  rw [List.any_eq_true]
  constructor
  · rintro ⟨⟨b, n⟩, hb, he⟩
    rw [decide_eq_true_eq] at he
    exact ⟨n, he ▸ (mem_ancestors.1 hb).1⟩
  · rintro ⟨n, hp⟩
    obtain ⟨m, hm⟩ := hp.exists_shortest
    exact ⟨(a, m), mem_ancestors.2 hm, decide_eq_true rfl⟩

theorem distance_eq_some_iff : h.distance a k = some n ↔ h.Shortest k a n := by
  rw [distance, Option.map_eq_some_iff]
  constructor
  · rintro ⟨⟨b, m⟩, hb, rfl⟩
    have hba : b = a := by simpa using List.find?_some hb
    exact hba ▸ mem_ancestors.1 (List.mem_of_find?_eq_some hb)
  · intro ha
    have hmem := mem_ancestors.2 ha
    obtain ⟨⟨b, m⟩, hb⟩ := Option.isSome_iff_exists.1
      (List.find?_isSome.2 ⟨(a, n), hmem, decide_eq_true rfl⟩ :
        ((h.ancestors k).find? (·.1 = a)).isSome)
    refine ⟨(b, m), hb, ?_⟩
    obtain rfl : b = a := by simpa using List.find?_some hb
    exact (mem_ancestors.1 (List.mem_of_find?_eq_some hb)).unique ha

theorem distance_eq_none_iff : h.distance a k = none ↔ ∀ n, ¬h.Path n k a := by
  constructor
  · intro hd n hp
    obtain ⟨m, hm⟩ := hp.exists_shortest
    rw [← distance_eq_some_iff, hd] at hm
    cases hm
  · intro hp
    cases hd : h.distance a k with
    | none => rfl
    | some n => exact absurd (distance_eq_some_iff.1 hd).1 (hp n)

theorem isAssignable_iff : h.isAssignable a k = true ↔ ∃ n, h.Path n k a := by
  rw [isAssignable, Option.isSome_iff_ne_none, ne_eq, distance_eq_none_iff]
  simp only [Classical.not_forall, Classical.not_not]

/-! ### Hierarchies that were built -/

/-- No path leads around. -/
def Acyclic (h : Hierarchy) : Prop :=
  ∀ n k, ¬h.Path (n + 1) k k

/-- The hierarchy was built from declarations, or is the one in which nothing is declared. -/
def Accepted (h : Hierarchy) : Prop :=
  (∃ declarations, build declarations = .ok h) ∨ h = empty

theorem parents_any : h.parents Kind.any = [] := by
  rw [parents, if_pos rfl]

theorem path_any : h.Path n Kind.any a ↔ n = 0 ∧ a = Kind.any := by
  constructor
  · intro hp
    cases hp with
    | refl => exact ⟨rfl, rfl⟩
    | step hq _ =>
      rw [parents_any] at hq
      exact absurd hq List.not_mem_nil
  · rintro ⟨rfl, rfl⟩
    exact .refl _

theorem acyclic_of_validate {h' : Hierarchy} (hv : h.validate = .ok h') : h' = h ∧ h.Acyclic := by
  unfold validate at hv
  split at hv
  · cases hv
  · split at hv
    · cases hv
    · next hnone =>
      obtain rfl := Except.ok.inj hv
      refine ⟨rfl, fun n k hp => ?_⟩
      cases hp with
      | @step _ _ p _ hq hp =>
        rcases h.mem_parents hq with ⟨ps, hps, hmem⟩ | rfl
        · -- the way around goes over a declared parent, which was looked at
          refine List.find?_eq_none.1 hnone (k, ps) hps ?_
          rw [reachesItself, List.any_eq_true]
          exact ⟨p, hmem, any_ancestors_eq_true_iff.2 ⟨n, hp⟩⟩
        · obtain ⟨-, rfl⟩ := path_any.1 hp
          rw [parents_any] at hq
          exact List.not_mem_nil hq

theorem validate_of_isOk (hv : h.validate.isOk = true) : h.validate = .ok h := by
  cases hval : h.validate with
  | error e => cases hval ▸ hv
  | ok h' => rw [(acyclic_of_validate hval).1]

theorem Accepted.acyclic (hh : h.Accepted) : h.Acyclic := by
  rcases hh with ⟨ds, hds⟩ | rfl
  · obtain ⟨rfl, hac⟩ := acyclic_of_validate hds
    exact hac
  · exact (acyclic_of_validate rfl : empty = empty ∧ empty.Acyclic).2

theorem parents_ne_nil (hk : k ≠ Kind.any) : h.parents k ≠ [] := by
  unfold parents
  rw [if_neg hk]
  split <;> exact List.cons_ne_nil _ _

/-- From a kind that all of `met` lead to, the root can be reached. A step to a parent takes a kind
out of the supply that was not met before, because nothing leads around. -/
theorem Acyclic.exists_path_any_of_met (hac : h.Acyclic) (k : Kind) (met : List Kind)
    (hmet : ∀ c ∈ met, ∃ n, h.Path n c k) : ∃ n, h.Path n k Kind.any := by
  by_cases hk : k = Kind.any
  · exact ⟨0, hk ▸ .refl k⟩
  · obtain ⟨p, hp⟩ := List.exists_mem_of_ne_nil _ (parents_ne_nil (h := h) hk)
    -- a parent that was met before would lead around
    have hnew : p ∉ met := fun hm => by
      obtain ⟨n, hpath⟩ := hmet p hm
      exact hac n p (hpath.snoc hp)
    have hlt : (h.unmet (p :: met)).length < (h.unmet met).length := by
      refine length_filter_lt (a := p) ?_ (mem_supply_of_mem_parents h hp) (by simpa) (by simp)
      intro a ha
      simp only [List.mem_cons, not_or, decide_eq_true_eq] at ha ⊢
      exact ha.2
    obtain ⟨n, hpath⟩ := hac.exists_path_any_of_met p (p :: met) fun c hc => by
      rcases List.mem_cons.1 hc with rfl | hc
      · exact ⟨0, .refl c⟩
      · obtain ⟨n, hpath⟩ := hmet c hc
        exact ⟨n + 1, hpath.snoc hp⟩
    exact ⟨n + 1, .step hp hpath⟩
termination_by (h.unmet met).length

/-- **The root is reached from everywhere.** -/
theorem Acyclic.exists_path_any (hac : h.Acyclic) (k : Kind) : ∃ n, h.Path n k Kind.any :=
  hac.exists_path_any_of_met k [] nofun

end Hierarchy

end CallGuard
