import CallGuard.Proofs.FirstOccurrences
import CallGuard.Proofs.Hierarchy.Path

/-!
# Walking up a hierarchy with a queue

The ancestors of a kind can also be found by a walk with a queue: the first kind in the queue is
listed and its parents are put at the end of the queue, unless it was listed before. A kind may wait
in the queue several times, with different distances, and the hierarchy may have cycles. The walk
ends nevertheless, and it lists the kinds as the search by layers does, each at its first turn.

* `Hierarchy.mem_parents_iff` : what the parents of a kind are, declared or not;
* `Hierarchy.walk_ancestors` : the walk from a kind ends and lists the ancestors;
* `Hierarchy.ancestors_breadth_first` : the ancestors are the kinds that can be reached, each once
  and with the length of a shortest path, the nearest first.
-/

namespace CallGuard

namespace Hierarchy

/-- One kind is a parent of another: it was declared as one, or it is the root and no parent was
declared. The root has no parents. -/
inductive IsParent (h : Hierarchy) (k : Kind) : Kind → Prop
  | declared {p : Kind} {ps : List Kind} (hk : k ≠ Kind.any) (hd : (k, ps) ∈ h.declared)
      (hp : p ∈ ps) : IsParent h k p
  | root (hk : k ≠ Kind.any) (hd : ∀ ps, (k, ps) ∈ h.declared → ps = []) : IsParent h k Kind.any

/-- A walk with a queue ends with a list of kinds, given the kinds that were listed before. -/
inductive Walk (h : Hierarchy) : List Kind → List (Kind × Nat) → List (Kind × Nat) → Prop
  | done (met : List Kind) : Walk h met [] []
  /-- The first kind in the queue was listed before. -/
  | skip {met : List Kind} {k : Kind} {n : Nat} {queue found : List (Kind × Nat)} (hk : k ∈ met)
      (hw : Walk h met queue found) : Walk h met ((k, n) :: queue) found
  /-- It is listed, and its parents come to wait one step farther away. -/
  | visit {met : List Kind} {k : Kind} {n : Nat} {queue found : List (Kind × Nat)} (hk : k ∉ met)
      (hw : Walk h (met ++ [k]) (queue ++ (h.parents k).map (·, n + 1)) found) :
      Walk h met ((k, n) :: queue) ((k, n) :: found)

variable {h : Hierarchy} {k p : Kind} {n : Nat} {met : List Kind}

theorem parents?_eq_some_iff {ps : List Kind} : h.parents? k = some ps ↔ (k, ps) ∈ h.declared :=
  Keyed.get?_eq_some_iff h.nodup

theorem isParent_iff : h.IsParent k p ↔ k ≠ Kind.any ∧
    ((∃ ps, h.parents? k = some ps ∧ p ∈ ps) ∨
      p = Kind.any ∧ ∀ ps, h.parents? k = some ps → ps = []) := by
  simp only [parents?_eq_some_iff]
  constructor
  · rintro (⟨hk, hd, hp⟩ | ⟨hk, hd⟩)
    · exact ⟨hk, .inl ⟨_, hd, hp⟩⟩
    · exact ⟨hk, .inr ⟨rfl, hd⟩⟩
  · rintro ⟨hk, ⟨ps, hd, hp⟩ | ⟨rfl, hd⟩⟩
    · exact .declared hk hd hp
    · exact .root hk hd

theorem mem_parents_iff : p ∈ h.parents k ↔ h.IsParent k p := by
  rw [isParent_iff, parents]
  by_cases hk : k = Kind.any
  · simp [hk]
  · cases h.parents? k with
    | none => simp [hk]
    | some ps => cases ps <;> simp [hk]

/-! ### The walk lists what the search finds -/

namespace Walk

variable {queue found found' : List (Kind × Nat)}

theorem unique (hw : h.Walk met queue found) (hw' : h.Walk met queue found') : found = found' := by
  induction hw generalizing found' with
  | done met =>
    cases hw'
    rfl
  | skip hk _ ih =>
    cases hw' with
    | skip _ hw' => exact ih hw'
    | visit hk' _ => exact absurd hk hk'
  | visit hk _ ih =>
    cases hw' with
    | skip hk' _ => exact absurd hk' hk
    | visit _ hw' => rw [ih hw']

/-- A walk goes through the kinds of one distance, which wait before those of the next one. It lists
the ones that were not listed before, each at its first turn, and puts their parents behind. -/
theorem layer (ks later : List Kind)
    (hw : h.Walk (met ++ (ks.filter (· ∉ met)).eraseDups)
      ((later ++ (ks.filter (· ∉ met)).eraseDups.flatMap h.parents).map (·, n + 1)) found) :
    h.Walk met (ks.map (·, n) ++ later.map (·, n + 1))
      ((ks.filter (· ∉ met)).eraseDups.map (·, n) ++ found) := by
  induction ks generalizing met later with
  | nil => simpa using hw
  | cons k ks ih =>
    by_cases hk : k ∈ met
    · rw [List.filter_cons_of_neg (by simpa using hk)] at hw ⊢
      exact .skip hk (ih later hw)
    · -- what is left of the layer is without `k` now
      have hrest : ((k :: ks).filter (· ∉ met)).eraseDups =
          k :: (ks.filter (· ∉ met ++ [k])).eraseDups := by
        rw [List.filter_cons_of_pos (by simpa using hk), List.eraseDups_cons, List.filter_filter]
        refine congrArg (fun l => k :: l.eraseDups) (List.filter_congr fun a _ => ?_)
        by_cases ha : a = k <;> simp [ha]
      rw [hrest] at hw ⊢
      rw [List.map_cons, List.cons_append, List.map_cons, List.cons_append]
      refine .visit hk ?_
      have hqueue : ks.map (·, n) ++ later.map (·, n + 1) ++ (h.parents k).map (·, n + 1) =
          ks.map (·, n) ++ (later ++ h.parents k).map (·, n + 1) := by
        rw [List.append_assoc, List.map_append]
      rw [hqueue]
      refine ih (later ++ h.parents k) ?_
      simpa [List.append_assoc] using hw

/-- So it lists the next layer of the search, and goes on with the parents of that layer. -/
theorem nextLayer {frontier : List Kind}
    (hw : h.Walk (met ++ h.nextLayer met frontier)
      (((h.nextLayer met frontier).flatMap h.parents).map (·, n + 1)) found) :
    h.Walk met ((frontier.flatMap h.parents).map (·, n))
      ((h.nextLayer met frontier).map (·, n) ++ found) := by
  have hlayer := layer (frontier.flatMap h.parents) [] hw
  rwa [List.map_nil, List.append_nil] at hlayer

end Walk

theorem walk_search (h : Hierarchy) (met frontier : List Kind) (n : Nat) :
    h.Walk met ((frontier.flatMap h.parents).map (·, n + 1)) (h.search met frontier n) := by
  fun_induction search h met frontier n with
  | case1 met frontier n hempty =>
    have hdone : h.Walk (met ++ h.nextLayer met frontier)
        (((h.nextLayer met frontier).flatMap h.parents).map (·, n + 2)) [] := by
      rw [hempty]
      exact .done _
    simpa [hempty] using hdone.nextLayer
  | case2 met frontier n _ ih => exact ih.nextLayer

theorem walk_ancestors (h : Hierarchy) (k : Kind) : h.Walk [] [(k, 0)] (h.ancestors k) := by
  refine .visit List.not_mem_nil ?_
  simpa using h.walk_search [k] [k] 0

/-! ### Each kind once, the nearest first -/

theorem nodup_search (h : Hierarchy) (met frontier : List Kind) (n : Nat) :
    ((h.search met frontier n).map Prod.fst).Nodup ∧
      ∀ e ∈ h.search met frontier n, e.1 ∉ met := by
  fun_induction search h met frontier n with
  | case1 => simp
  | case2 met frontier n _ ih =>
    obtain ⟨hnodup, hout⟩ := ih
    constructor
    · rw [List.map_append, List.map_map, List.nodup_append]
      refine ⟨?_, hnodup, ?_⟩
      · simpa [Function.comp_def, nextLayer] using (firstOccurrences_eraseDups _).nodup
      · rintro a ha b hb rfl
        obtain ⟨e, he, rfl⟩ := List.mem_map.1 hb
        refine hout e he (List.mem_append_right _ ?_)
        simpa using ha
    · intro e he
      rcases List.mem_append.1 he with he | he
      · obtain ⟨a, ha, rfl⟩ := List.mem_map.1 he
        exact (h.mem_nextLayer.1 ha).2
      · exact fun hmet => hout e he (List.mem_append_left _ hmet)

theorem sorted_search (h : Hierarchy) (met frontier : List Kind) (n : Nat) :
    (h.search met frontier n).Pairwise (fun a b => a.2 ≤ b.2) ∧
      ∀ e ∈ h.search met frontier n, n < e.2 := by
  fun_induction search h met frontier n with
  | case1 => simp
  | case2 met frontier n _ ih =>
    obtain ⟨hsorted, hfar⟩ := ih
    constructor
    · rw [List.pairwise_append, List.pairwise_map]
      refine ⟨List.pairwise_of_forall fun _ _ => Nat.le_refl _, hsorted, ?_⟩
      intro a ha b hb
      obtain ⟨c, -, rfl⟩ := List.mem_map.1 ha
      exact Nat.le_of_lt (hfar b hb)
    · intro e he
      rcases List.mem_append.1 he with he | he
      · obtain ⟨a, -, rfl⟩ := List.mem_map.1 he
        exact Nat.lt_succ_self n
      · exact Nat.lt_of_succ_lt (hfar e he)

/-- The list holds what can be reached from a kind over parents, each kind once and with the length
of a shortest path, and never a kind before a nearer one. -/
structure ListsReachable (h : Hierarchy) (k : Kind) (found : List (Kind × Nat)) : Prop where
  /-- The kind itself comes first. -/
  head : ∃ others, found = (k, 0) :: others
  nodup : (found.map Prod.fst).Nodup
  sorted : found.Pairwise fun a b => a.2 ≤ b.2
  reachable : ∀ a, a ∈ found.map Prod.fst ↔ ∃ n, h.Path n k a
  shortest : ∀ a n, (a, n) ∈ found ↔ h.Shortest k a n

theorem ancestors_listsReachable (h : Hierarchy) (k : Kind) :
    h.ListsReachable k (h.ancestors k) where
  head := ⟨_, rfl⟩
  nodup := by
    obtain ⟨hnodup, hout⟩ := h.nodup_search [k] [k] 0
    refine List.nodup_cons.2 ⟨fun hk => ?_, hnodup⟩
    obtain ⟨e, he, hek⟩ := List.mem_map.1 hk
    exact hout e he (List.mem_singleton.2 hek)
  sorted := List.pairwise_cons.2 ⟨fun _ _ => Nat.zero_le _, (h.sorted_search [k] [k] 0).1⟩
  reachable a := by
    constructor
    · intro ha
      obtain ⟨⟨a, n⟩, he, rfl⟩ := List.mem_map.1 ha
      exact ⟨n, (mem_ancestors.1 he).1⟩
    · rintro ⟨n, hp⟩
      obtain ⟨m, hm⟩ := hp.exists_shortest
      exact List.mem_map.2 ⟨(a, m), mem_ancestors.2 hm, rfl⟩
  shortest _ _ := mem_ancestors

/-- **The ancestors of a kind are found breadth first.** Whatever was declared, be it a circle, the
walk with a queue from a kind ends, with the ancestors of the kind and with nothing else. These are
the kinds that can be reached over parents, the nearest first, and the distance to one of them is
the length of a shortest path. -/
theorem ancestors_breadth_first (h : Hierarchy) (k : Kind) :
    (∀ c p, p ∈ h.parents c ↔ h.IsParent c p) ∧
    (∀ found, h.Walk [] [(k, 0)] found ↔ found = h.ancestors k) ∧
    h.ListsReachable k (h.ancestors k) ∧
    ∀ a, (∀ n, h.distance a k = some n ↔ h.Shortest k a n) ∧
      (h.distance a k = none ↔ ∀ n, ¬h.Path n k a) := by
  refine ⟨fun _ _ => mem_parents_iff, fun found => ?_, h.ancestors_listsReachable k,
    fun a => ⟨fun n => distance_eq_some_iff, distance_eq_none_iff⟩⟩
  constructor
  · exact fun hw => hw.unique (h.walk_ancestors k)
  · rintro rfl
    exact h.walk_ancestors k

/-- Of two kinds that are parents of each other, each is listed once. -/
example : ancestors ⟨[(⟨"A"⟩, [⟨"B"⟩]), (⟨"B"⟩, [⟨"A"⟩])], by decide⟩ ⟨"A"⟩ =
    [(⟨"A"⟩, 0), (⟨"B"⟩, 1)] := by
  cbv

end Hierarchy

end CallGuard
