import CallGuard.Proofs.Advice.Acceptance
import CallGuard.Proofs.Advice.Resolution

/-!
# Registries that grow

Registering one more advice leaves all that is bound in its place and puts the kinds that are new
behind it (`Registry.Extends`). So a kind is handled as before, or by one of the new bindings, which
is strictly nearer then: at the same distance the older binding counts.

* `Registry.mem_requests_iff` : what an advice asks for;
* `Registry.add_extends` : what registering it adds;
* `Registry.Extends.refined` : what becomes of the kinds in a registry that has more bindings;
* `Registry.add_refines` : both, for one more advice.
-/

namespace CallGuard

namespace Keyed

variable {κ α : Type} [DecidableEq κ]

theorem mem_of_mem_firsts {e : κ × α} {es : List (κ × α)} (he : e ∈ firsts es) : e ∈ es := by
  induction es with
  | nil => exact he
  | cons d es ih =>
    rcases List.mem_cons.1 he with rfl | he
    · exact List.mem_cons_self
    · exact List.mem_cons_of_mem _ (ih (List.mem_filter.1 he).1)

end Keyed

namespace Registry

variable {r r' : Registry} {a : Advice} {b c : Binding} {k t : Kind}
  {added : List (Kind × Binding)}

/-! ### What is asked for -/

theorem mem_squeeze {ks : List Kind} : k ∈ squeeze ks ↔ k ∈ ks := by
  fun_induction squeeze ks with
  | case1 a rest ih => simp [ih]
  | case2 a b rest _ ih => simp [ih]
  | case3 => rfl

theorem mem_offers_iff :
    b ∈ offers a ↔ ∃ i m, a.methods[i]? = some m ∧ b = ⟨a.type, i, a.name, m⟩ := by
  rw [offers, List.mem_map]
  constructor
  · rintro ⟨⟨m, i⟩, hm, rfl⟩
    exact ⟨i, m, List.mk_mem_zipIdx_iff_getElem?.1 hm, rfl⟩
  · rintro ⟨i, m, hm, rfl⟩
    exact ⟨(m, i), List.mk_mem_zipIdx_iff_getElem?.2 hm, rfl⟩

/-- A usable method asks to bind all that it maps; one that is not asks in vain. -/
theorem mem_requests_iff {request : Except Error (Kind × Binding)} :
    request ∈ r.requests a ↔ ∃ b ∈ offers a,
      b.Usable r.hierarchy ∧ (∃ k ∈ b.mapped, request = .ok (k, b)) ∨
        ¬b.Usable r.hierarchy ∧ ∃ e, r.mappedKinds b = .error e ∧ request = .error e := by
  rw [requests, List.mem_flatMap]
  refine exists_congr fun b => and_congr_right fun _ => ?_
  rcases mappedKinds_spec r b with ⟨hu, hks⟩ | ⟨hu, e, he, -⟩
  · simp only [hks, hu, List.mem_map, mem_squeeze, not_true_eq_false, false_and, or_false, true_and]
    simp only [eq_comm]
  · simp [he, hu]

theorem ok_mem_requests_iff :
    .ok (k, b) ∈ r.requests a ↔ b ∈ offers a ∧ b.Usable r.hierarchy ∧ k ∈ b.mapped := by
  rw [mem_requests_iff]
  constructor
  · rintro ⟨c, hc, ⟨hu, j, hj, heq⟩ | ⟨-, e, -, heq⟩⟩
    · cases heq
      exact ⟨hc, hu, hj⟩
    · cases heq
  · rintro ⟨hb, hu, hk⟩
    exact ⟨b, hb, .inl ⟨hu, k, hk, rfl⟩⟩

/-! ### What is added -/

/-- The second registry has all that the first one has, in the same places, and more after it. -/
structure Extends (r r' : Registry) (added : List (Kind × Binding)) : Prop where
  hierarchy : r'.hierarchy = r.hierarchy
  bindings : r'.bindings = r.bindings ++ added

namespace Extends

theorem get? (he : r.Extends r' added) (hb : r.get? k = some b) : r'.get? k = some b := by
  rw [get?_eq_some_iff, he.bindings]
  exact List.mem_append_left _ (get?_eq_some_iff.1 hb)

theorem get?_eq_none (he : r.Extends r' added) (hb : (k, b) ∈ added) : r.get? k = none := by
  have hnodup := r'.nodup
  rw [he.bindings, List.map_append, List.nodup_append] at hnodup
  rw [get?_eq_none_iff]
  exact fun hk => hnodup.2.2 k hk k (List.mem_map.2 ⟨_, hb, rfl⟩) rfl

end Extends

/-- What is bound newly when an advice is registered are kinds that its methods map. -/
theorem add_extends (h : r.add a = .ok r') : ∃ added, r.Extends r' added ∧
    ∀ k b, (k, b) ∈ added → b ∈ offers a ∧ k ∈ b.mapped := by
  obtain ⟨hh, hb⟩ := bindings_grantAll h
  refine ⟨_, ⟨hh, hb⟩, fun k b hk => ?_⟩
  have hwanted := Keyed.mem_of_mem_firsts (List.mem_filter.1 hk).1
  obtain ⟨request, hmem, hrequest⟩ := List.mem_filterMap.1 hwanted
  rcases request with e | ⟨j, c⟩
  · cases hrequest
  · obtain ⟨rfl, rfl⟩ := Prod.mk.inj (Option.some.inj hrequest)
    obtain ⟨hoffer, -, hmapped⟩ := ok_mem_requests_iff.1 hmem
    exact ⟨hoffer, hmapped⟩

/-! ### What becomes of the kinds -/

/-- How a kind is handled after more was bound, compared with before. -/
inductive Refined (r r' : Registry) (added : List (Kind × Binding)) (t : Kind) : Prop
  /-- By the same binding of the same kind, or still by none. -/
  | kept (h : r'.resolveBound? t = r.resolveBound? t)
  /-- By a new binding, for a kind that is nearer than the one that counted before, if any. -/
  | nearer {k : Kind} {b : Binding} {n : Nat} (hmem : (k, b) ∈ added)
      (h : r'.resolveBound? t = some (k, b)) (hn : r.hierarchy.distance k t = some n)
      (hlt : ∀ j c, r.resolveBound? t = some (j, c) →
        ∃ m, r.hierarchy.distance j t = some m ∧ n < m)

theorem resolveBound?_eq_none_iff : r.resolveBound? t = none ↔
    ∀ e ∈ r.bindings, r.hierarchy.distance e.1 t = none := by
  have hc : r.candidates t = measured (fun d => r.hierarchy.distance d.1 t) r.bindings := rfl
  rw [resolveBound?, hc, Option.map_eq_none_iff, nearest?_eq_none_iff, measured_eq_nil_iff]

/-- **More bindings refine what is found.** -/
theorem Extends.refined (he : r.Extends r' added) (t : Kind) : Refined r r' added t := by
  cases hr' : r'.resolveBound? t with
  | none =>
    -- what is found in neither was bound in neither
    refine .kept (hr'.trans (resolveBound?_eq_none_iff.2 fun e hmem => ?_).symm)
    rw [← he.hierarchy]
    exact resolveBound?_eq_none_iff.1 hr' e (he.bindings ▸ List.mem_append_left _ hmem)
  | some e =>
    obtain ⟨n, hn⟩ := resolveBound?_eq_some_iff.1 hr'
    rw [he.bindings, he.hierarchy, nearest_append] at hn
    rcases hn with ⟨hold, -⟩ | ⟨hnew, hlt⟩
    · exact .kept (hr'.trans (resolveBound?_eq_some_iff.2 ⟨n, hold⟩).symm)
    · refine .nearer hnew.mem hr' hnew.distance_eq fun j c hj => ?_
      obtain ⟨m, hm⟩ := resolveBound?_eq_some_iff.1 hj
      exact ⟨m, hm.distance_eq, hlt _ hm.mem _ hm.distance_eq⟩

/-- **One more advice only refines what is found.** When an advice can be registered, all that is
bound keeps its method and its place, and what comes to be bound after it are kinds that were free,
with methods of the advice that map them. Each kind is handled by the same binding as before, or by
a new one for a kind that is strictly nearer than the one that counted before, if any did. -/
theorem add_refines (h : r.add a = .ok r') : ∃ added,
    r'.hierarchy = r.hierarchy ∧ r'.bindings = r.bindings ++ added ∧
    (∀ k b, r.get? k = some b → r'.get? k = some b) ∧
    (∀ k b, (k, b) ∈ added → r.get? k = none ∧ b ∈ offers a ∧ k ∈ b.mapped) ∧
    ∀ t, Refined r r' added t := by
  obtain ⟨added, he, hadded⟩ := add_extends h
  refine ⟨added, he.hierarchy, he.bindings, fun _ _ => he.get?, fun k b hk => ?_, he.refined⟩
  exact ⟨he.get?_eq_none hk, hadded k b hk⟩

/-- A registry with a binding for the root, and an advice for a kind below. -/
theorem add_refines_root : ∃ r r' added, (empty .empty).addAll [catching [Kind.any]] = .ok r ∧
    r.add (catchingToo [⟨"Io"⟩]) = .ok r' ∧ r'.bindings = r.bindings ++ added ∧
    added.map Prod.fst = [⟨"Io"⟩] ∧ ∀ t, Refined r r' added t := by
  obtain ⟨r, r', hr, hr', hkeys, hkeys'⟩ : ∃ r r',
      (empty .empty).addAll [catching [Kind.any]] = .ok r ∧
      r.add (catchingToo [⟨"Io"⟩]) = .ok r' ∧
      r.bindings.map Prod.fst = [Kind.any] ∧ r'.bindings.map Prod.fst = [Kind.any, ⟨"Io"⟩] :=
    ⟨_, _, rfl, rfl, rfl, rfl⟩
  obtain ⟨added, -, hb, -, -, hrefined⟩ := add_refines hr'
  rw [hb, List.map_append, hkeys] at hkeys'
  exact ⟨r, r', added, hr, hr', hb, (List.cons.inj hkeys').2, hrefined⟩

end Registry

end CallGuard
