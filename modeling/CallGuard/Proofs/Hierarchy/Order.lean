import CallGuard.Proofs.Hierarchy.Path
import Mathlib.Order.Defs.Unbundled

/-!
# Kinds as an order

A kind is a subkind of each of its ancestors, itself included. Paths can be put together, so this is
transitive in every hierarchy, and a detour over a third kind is never shorter than the distance. In
a hierarchy that was built no path leads around, and then it is a partial order on all kinds,
declared or not, with the root on top.

* `Hierarchy.distance_triangle` : the distances of a detour bound the distance;
* `Hierarchy.Acyclic.path_antisymm` : no two kinds are ancestors of each other;
* `Hierarchy.Accepted.subkind_partialOrder` : the order, and how distances measure it.
-/

namespace CallGuard

namespace Hierarchy

/-- A value of the kind `k` may stand where one of the kind `a` is asked for. -/
def Subkind (h : Hierarchy) (k a : Kind) : Prop :=
  h.isAssignable a k = true

variable {h : Hierarchy} {a b c k : Kind} {m n : Nat}

theorem subkind_iff : h.Subkind k a ↔ ∃ n, h.Path n k a :=
  isAssignable_iff

theorem distance_eq_zero_iff : h.distance a k = some 0 ↔ a = k := by
  rw [distance_eq_some_iff]
  constructor
  · intro hs
    exact (path_zero.1 hs.1).symm
  · rintro rfl
    exact ⟨.refl a, fun _ _ => Nat.zero_le _⟩

theorem distance_triangle (hab : h.distance a b = some m) (hbc : h.distance b c = some n) :
    ∃ i, i ≤ m + n ∧ h.distance a c = some i := by
  -- the detour goes up from `c` to `b` first
  have hdetour : h.Path (n + m) c a :=
    (distance_eq_some_iff.1 hbc).1.append (distance_eq_some_iff.1 hab).1
  obtain ⟨i, hi⟩ := hdetour.exists_shortest
  have hle : i ≤ n + m := hi.2 hdetour
  exact ⟨i, by omega, distance_eq_some_iff.2 hi⟩

theorem Subkind.refl (h : Hierarchy) (k : Kind) : h.Subkind k k :=
  subkind_iff.2 ⟨0, .refl k⟩

theorem Subkind.trans (hcb : h.Subkind c b) (hba : h.Subkind b a) : h.Subkind c a := by
  obtain ⟨m, hm⟩ := subkind_iff.1 hcb
  obtain ⟨n, hn⟩ := subkind_iff.1 hba
  exact subkind_iff.2 ⟨m + n, hm.append hn⟩

/-- Paths there and back would lead around, unless they have no steps. -/
theorem Acyclic.path_antisymm (hac : h.Acyclic) (hab : h.Path m a b) (hba : h.Path n b a) :
    a = b := by
  cases m with
  | zero => exact path_zero.1 hab
  | succ m =>
    have haround : h.Path (m + n + 1) a a := by
      rw [Nat.add_right_comm]
      exact hab.append hba
    exact absurd haround (hac (m + n) a)

theorem Acyclic.subkind_antisymm (hac : h.Acyclic) (hab : h.Subkind a b) (hba : h.Subkind b a) :
    a = b := by
  obtain ⟨m, hm⟩ := subkind_iff.1 hab
  obtain ⟨n, hn⟩ := subkind_iff.1 hba
  exact hac.path_antisymm hm hn

theorem Acyclic.exists_distance_any (hac : h.Acyclic) (k : Kind) :
    ∃ n, h.distance Kind.any k = some n := by
  obtain ⟨m, hm⟩ := hac.exists_path_any k
  obtain ⟨n, hn⟩ := hm.exists_shortest
  exact ⟨n, distance_eq_some_iff.2 hn⟩

/-- **Kinds are partially ordered, with the root on top.** In a hierarchy that was built from
declarations, or in which nothing is declared, no two kinds are subkinds of each other, and being a
subkind is reflexive and transitive. Only a kind itself is at distance zero from it, distances over
a third kind bound the distance, and every kind has a distance from the root. -/
theorem Accepted.subkind_partialOrder (hh : h.Accepted) :
    IsPartialOrder Kind h.Subkind ∧
    (∀ a k, h.distance a k = some 0 ↔ a = k) ∧
    (∀ a b c m n, h.distance a b = some m → h.distance b c = some n →
      ∃ i, i ≤ m + n ∧ h.distance a c = some i) ∧
    ∀ k, h.Subkind k Kind.any ∧ ∃ n, h.distance Kind.any k = some n := by
  have hac := hh.acyclic
  refine ⟨?_, fun _ _ => distance_eq_zero_iff, fun _ _ _ _ _ => distance_triangle, fun k => ?_⟩
  · exact
      { refl := Subkind.refl h
        trans := fun _ _ _ => Subkind.trans
        antisymm := fun _ _ => hac.subkind_antisymm }
  · exact ⟨subkind_iff.2 (hac.exists_path_any k), hac.exists_distance_any k⟩

/-- A lock that times out is an input error, and an error of the root as well: the detour over input
errors bounds the distance from the root, and is longer. -/
theorem subkind_partialOrder_shortcut : ∃ h,
    build [(⟨"LockTimeout"⟩, [⟨"Io"⟩, Kind.any])] = .ok h ∧ IsPartialOrder Kind h.Subkind ∧
    h.distance ⟨"Io"⟩ ⟨"LockTimeout"⟩ = some 1 ∧ h.distance Kind.any ⟨"Io"⟩ = some 1 ∧
    (∃ i, i ≤ 1 + 1 ∧ h.distance Kind.any ⟨"LockTimeout"⟩ = some i) ∧
    h.Subkind ⟨"Undeclared"⟩ Kind.any := by
  obtain ⟨h, hbuild, hio, hany⟩ : ∃ h,
      build [(⟨"LockTimeout"⟩, [⟨"Io"⟩, Kind.any])] = .ok h ∧
      h.distance ⟨"Io"⟩ ⟨"LockTimeout"⟩ = some 1 ∧ h.distance Kind.any ⟨"Io"⟩ = some 1 :=
    ⟨_, validate_of_isOk (by decide +kernel), by decide +kernel, by decide +kernel⟩
  obtain ⟨horder, -, htriangle, htop⟩ := Accepted.subkind_partialOrder (.inl ⟨_, hbuild⟩)
  exact ⟨h, hbuild, horder, hio, hany, htriangle _ _ _ _ _ hany hio, (htop _).1⟩

end Hierarchy

end CallGuard
