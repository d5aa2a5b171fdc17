import CallGuard.Proofs.Advice.Resolution

/-!
# Bindings that hide others

The nearest bound ancestor of a kind need not be the most specific one. A kind with the root among
its parents is as near to the root as to its other parents, and so a binding for the root can hide
one for a kind that lies between (`Registry.Hides`).

* `Registry.never_hides_iff_graded` says over which hierarchies that can happen: those in which some
  kind between is not nearer than what lies behind it (`Hierarchy.Graded`);
* `Hierarchy.graded_of_single_parents` : it cannot when no kind has two parents;
* `Registry.resolve_specific` : what is found is at most as far as what it hides, and when it is as
  far it was bound before.
-/

namespace CallGuard

namespace Hierarchy

/-- What lies between a kind and one of its ancestors is nearer to the kind than the ancestor. -/
def Graded (h : Hierarchy) : Prop :=
  ∀ t c k m n, c ≠ k → h.Shortest t c m → (∃ i, h.Path i c k) → h.Shortest t k n → m < n

theorem parents_length_le {h : Hierarchy} (hd : ∀ d ∈ h.declared, d.2.length ≤ 1) (k : Kind) :
    (h.parents k).length ≤ 1 := by
  unfold parents
  split
  · simp
  · split
    · next hk => exact hd _ ((Keyed.get?_eq_some_iff h.nodup).1 hk)
    · simp

theorem parents_eq_singleton {h : Hierarchy} {t p : Kind} (hp : (h.parents t).length ≤ 1)
    (hmem : p ∈ h.parents t) : h.parents t = [p] := by
  rcases hps : h.parents t with _ | ⟨a, _ | ⟨b, ps⟩⟩
  · simp [hps] at hmem
  · simpa [hps, eq_comm] using hmem
  · simp [hps] at hp

/-- Where no kind has two parents there is one path of each length. -/
theorem Path.unique {h : Hierarchy} (hp : ∀ k, (h.parents k).length ≤ 1) {n : Nat} {t k c : Kind}
    (hk : h.Path n t k) (hc : h.Path n t c) : k = c := by
  induction hk with
  | refl => exact path_zero.1 hc
  | @step n t p k hq _ ih =>
    cases hc with
    | @step _ _ q _ hq' hc =>
      rw [parents_eq_singleton (hp t) hq, List.mem_singleton] at hq'
      exact ih (hq' ▸ hc)

theorem graded_of_single_parents {h : Hierarchy} (hac : h.Acyclic)
    (hp : ∀ k, (h.parents k).length ≤ 1) : h.Graded := by
  rintro t c k m n hne hc ⟨i, hi⟩ hk
  by_contra hlt
  -- otherwise `k` is passed on the way to `c`, and there is a way around
  obtain ⟨j, rfl⟩ := Nat.exists_eq_add_of_le (Nat.le_of_not_lt hlt)
  obtain ⟨x, hx, hj⟩ := hc.1.split
  obtain rfl := Path.unique hp hk.1 hx
  rcases i with _ | i
  · exact hne (path_zero.1 hi)
  · exact hac (i + j) c (by simpa [Nat.add_right_comm] using hi.append hj)

end Hierarchy

namespace Registry

/-- The binding for `k` handles `t` and hides the one for `c`, which lies between. -/
structure Hides (r : Registry) (t k c : Kind) : Prop where
  handles : (r.resolveBound? t).map Prod.fst = some k
  bound : c ∈ r.bindings.map Prod.fst
  ne : c ≠ k
  below : r.hierarchy.isAssignable c t = true
  above : r.hierarchy.isAssignable k c = true

/-- The first kind was bound before the other. -/
def BoundBefore (r : Registry) (k c : Kind) : Prop :=
  ∃ before after, r.bindings.map Prod.fst = before ++ k :: after ∧ c ∈ after

variable {r : Registry} {h : Hierarchy} {t k c : Kind}

theorem Hides.le (hides : r.Hides t k c) : ∃ n m, r.hierarchy.Shortest t k n ∧
    r.hierarchy.Shortest t c m ∧ (n < m ∨ n = m ∧ r.BoundBefore k c) := by
  obtain ⟨⟨_, b⟩, hb, rfl⟩ := Option.map_eq_some_iff.1 hides.handles
  obtain ⟨n, hn⟩ := resolveBound?_eq_some_iff.1 hb
  obtain ⟨before, after, heq, hk, hbefore, hafter⟩ := nearest_iff.1 hn
  obtain ⟨i, hi⟩ := Hierarchy.isAssignable_iff.1 hides.below
  obtain ⟨m, hm⟩ := hi.exists_shortest
  obtain ⟨⟨_, b'⟩, hc, rfl⟩ := List.mem_map.1 hides.bound
  refine ⟨n, m, hk, hm, ?_⟩
  rw [heq] at hc
  rcases List.mem_append.1 hc with hc | hc
  · exact .inl (hbefore _ hc m hm.1)
  · rcases List.mem_cons.1 hc with hc | hc
    · exact absurd (congrArg Prod.fst hc) hides.ne
    · rcases Nat.lt_or_eq_of_le (hafter _ hc m hm.1) with hlt | rfl
      · exact .inl hlt
      · refine .inr ⟨rfl, before.map Prod.fst, after.map Prod.fst, ?_, ?_⟩
        · rw [heq, List.map_append, List.map_cons]
        · exact List.mem_map.2 ⟨_, hc, rfl⟩

/-- **Nothing is hidden exactly over graded hierarchies.** -/
theorem never_hides_iff_graded (h : Hierarchy) :
    (∀ advices r, (empty h).addAll advices = .ok r → ∀ t k c, ¬r.Hides t k c) ↔ h.Graded := by
  constructor
  · intro hall t c k m n hne hc hck hk
    obtain ⟨r, b, b', hr, hb⟩ := exists_bound_before h hne
    obtain ⟨rfl, -⟩ := bindings_addAll hr
    by_contra hlt
    -- bound before `c`, the kind `k` is found although `c` lies between
    refine hall _ r hr t k c ⟨Option.map_eq_some_iff.2 ⟨(k, b), ?_, rfl⟩, by simp [hb], hne,
      Hierarchy.isAssignable_iff.2 ⟨m, hc.1⟩, Hierarchy.isAssignable_iff.2 hck⟩
    refine resolveBound?_eq_some_iff.2
      ⟨n, nearest_iff.2 ⟨[], [(c, b')], hb, hk, nofun, fun e he i hi => ?_⟩⟩
    rw [List.mem_singleton] at he
    subst he
    exact Nat.le_trans (Nat.le_of_not_lt hlt) (hc.2 hi)
  · intro hg advices r hr t k c hides
    obtain ⟨rfl, -⟩ := bindings_addAll hr
    obtain ⟨n, m, hn, hm, hnm⟩ := hides.le
    have := hg t c k m n hides.ne hm (Hierarchy.isAssignable_iff.1 hides.above) hn
    omega

/-- Late kinds have the root and a chain of two others for parents. The root hides the binding for
the end of the chain, although that is bound first. -/
theorem root_hides_between : ∃ h r,
    Hierarchy.build [(⟨"LockTimeout"⟩, [Kind.any, ⟨"Timeout"⟩]), (⟨"Timeout"⟩, [⟨"Io"⟩])] = .ok h ∧
    (empty h).addAll [catching [⟨"Io"⟩, Kind.any]] = .ok r ∧
    r.Hides ⟨"LockTimeout"⟩ Kind.any ⟨"Io"⟩ := by
  refine ⟨_, ⟨_, _, ?_⟩, Hierarchy.validate_of_isOk (by decide +kernel), rfl, ?_, ?_, ?_, ?_, ?_⟩
  all_goals decide +kernel

/-- **What is found is no farther than what it hides.** Over an accepted hierarchy, a binding that
handles a kind although another bound kind lies between is nearer to the kind than the other, or as
near and bound before. That happens in some registry unless what lies between is always nearer, and
never where no kind has two parents. -/
theorem resolve_specific (hh : h.Accepted) :
    (∀ advices r, (empty h).addAll advices = .ok r → ∀ t k c, r.Hides t k c →
      ∃ n m, h.Shortest t k n ∧ h.Shortest t c m ∧ (n < m ∨ n = m ∧ r.BoundBefore k c)) ∧
    ((∀ advices r, (empty h).addAll advices = .ok r → ∀ t k c, ¬r.Hides t k c) ↔ h.Graded) ∧
    ((∀ k, (h.parents k).length ≤ 1) → h.Graded) := by
  refine ⟨fun advices r hr t k c hides => ?_, never_hides_iff_graded h,
    Hierarchy.graded_of_single_parents hh.acyclic⟩
  obtain ⟨rfl, -⟩ := bindings_addAll hr
  exact hides.le

/-- A chain of declared kinds below the root. -/
theorem resolve_specific_chain : ∃ h,
    Hierarchy.build [(⟨"FileNotFound"⟩, [⟨"Io"⟩])] = .ok h ∧
    ∀ advices r, (empty h).addAll advices = .ok r → ∀ t k c, ¬r.Hides t k c := by
  have hbuild := Hierarchy.validate_of_isOk (h := Hierarchy.builtin.declare ⟨"FileNotFound"⟩
    [⟨"Io"⟩]) (by decide +kernel)
  have h := resolve_specific (.inl ⟨[(⟨"FileNotFound"⟩, [⟨"Io"⟩])], hbuild⟩)
  exact ⟨_, hbuild, h.2.1.2 (h.2.2 (Hierarchy.parents_length_le (by decide)))⟩

end Registry

end CallGuard
