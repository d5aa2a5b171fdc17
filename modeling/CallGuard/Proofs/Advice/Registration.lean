import CallGuard.Advice.Registry

/-!
# What a registration comes to

Registering advices goes through all that they ask for, in order (`Registry.wanted`). When that
works, each kind is bound as it was asked for first, and the bound kinds stand in the order in which
they were asked for first.

* `Registry.grant_eq_ok_iff` : what one request does to a registry;
* `Registry.addAll_eq` : registering advices one by one is granting all their requests in order;
* `Registry.bindings_addAll` : the bindings of a registry that comes of it.
-/

namespace CallGuard

namespace Keyed

variable {κ α : Type} [DecidableEq κ]

/-- The first entry of each key. -/
def firsts : List (κ × α) → List (κ × α)
  | [] => []
  | e :: es => e :: (firsts es).filter (·.1 ≠ e.1)

end Keyed

namespace Registry

variable {r r' : Registry} {k : Kind} {b : Binding}

/-- All that advices ask for, in order. -/
def wanted (h : Hierarchy) (advices : List Advice) : List (Kind × Binding) :=
  (advices.flatMap (empty h).requests).filterMap Except.toOption

/-- A granted request binds a new kind at the end, or finds its kind bound to the same method. -/
theorem grant_eq_ok_iff : r.grant k b = .ok r' ↔
    (r.get? k = none ∧ r'.hierarchy = r.hierarchy ∧ r'.bindings = r.bindings ++ [(k, b)]) ∨
      (∃ e, r.get? k = some e ∧ e.isSameMethod b = true ∧ r' = r) := by
  unfold grant
  split
  · next hnone =>
    obtain ⟨h', es, hes⟩ := r'
    simp only [hnone, Except.ok.injEq, mk.injEq, true_and, reduceCtorEq, false_and, exists_false,
      or_false]
    exact and_congr eq_comm eq_comm
  · next e he =>
    split
    · next hsame =>
      constructor
      · intro h
        exact .inr ⟨e, he, hsame, (Except.ok.inj h).symm⟩
      · rintro (⟨hnone, -⟩ | ⟨e', -, -, rfl⟩)
        · cases he.symm.trans hnone
        · rfl
    · next hsame => simp [he, hsame]

theorem hierarchy_grant (h : r.grant k b = .ok r') : r'.hierarchy = r.hierarchy := by
  rcases grant_eq_ok_iff.1 h with ⟨-, hh, -⟩ | ⟨e, -, -, rfl⟩
  · exact hh
  · rfl

theorem get?_eq_none_iff : r.get? k = none ↔ k ∉ r.bindings.map Prod.fst :=
  Keyed.get?_eq_none_iff

theorem get?_eq_some_iff : r.get? k = some b ↔ (k, b) ∈ r.bindings :=
  Keyed.get?_eq_some_iff r.nodup

/-- What was there stays, and the first request for each new kind is added. -/
theorem bindings_grantAll {requests : List (Except Error (Kind × Binding))}
    (h : r.grantAll requests = .ok r') :
    r'.hierarchy = r.hierarchy ∧
      r'.bindings = r.bindings ++ (Keyed.firsts (requests.filterMap Except.toOption)).filter
        (·.1 ∉ r.bindings.map Prod.fst) := by
  induction requests generalizing r with
  | nil =>
    obtain rfl := Except.ok.inj h
    exact ⟨rfl, (List.append_nil _).symm⟩
  | cons request requests ih =>
    rcases request with e | ⟨k, b⟩
    · cases h
    · rw [grantAll] at h
      split at h
      · cases h
      · next r₁ hgrant =>
        obtain ⟨hh, hb⟩ := ih h
        refine ⟨hh.trans (hierarchy_grant hgrant), hb.trans ?_⟩
        rw [List.filterMap_cons_some (by rfl : Except.toOption (.ok (k, b)) = some (k, b)),
          Keyed.firsts]
        rcases grant_eq_ok_iff.1 hgrant with ⟨hnone, -, hr₁⟩ | ⟨e, he, -, rfl⟩
        · have hk : k ∉ r.bindings.map Prod.fst := get?_eq_none_iff.1 hnone
          rw [hr₁, List.filter_cons_of_pos (by simpa using hk), List.filter_filter,
            List.append_assoc, List.singleton_append]
          refine congrArg (r.bindings ++ (k, b) :: ·) (List.filter_congr fun e _ => ?_)
          simp only [List.map_append, List.mem_append, List.map_cons, List.map_nil,
            List.mem_singleton, not_or, Bool.decide_and, ne_eq]
        · have hk : k ∈ r₁.bindings.map Prod.fst :=
            List.mem_map.2 ⟨_, get?_eq_some_iff.1 he, rfl⟩
          rw [List.filter_cons_of_neg (by simpa using hk), List.filter_filter]
          refine congrArg (r₁.bindings ++ ·) (List.filter_congr fun e _ => ?_)
          -- a kind that is not bound is not `k`, which is
          by_cases hek : e.1 = k
          · simp [hek, hk]
          · simp [hek]

theorem requests_of_hierarchy_eq (h : r'.hierarchy = r.hierarchy) (a : Advice) :
    r'.requests a = r.requests a := by
  unfold requests mappedKinds
  rw [h]

theorem grantAll_append {xs ys : List (Except Error (Kind × Binding))} :
    r.grantAll (xs ++ ys) = (r.grantAll xs).bind fun r => r.grantAll ys := by
  induction xs generalizing r with
  | nil => rfl
  | cons x xs ih =>
    rcases x with e | ⟨k, b⟩
    · rfl
    · rw [List.cons_append, grantAll, grantAll]
      cases r.grant k b with
      | error e => rfl
      | ok r => exact ih

/-- Advices that are registered one by one have all their requests granted in order. -/
theorem addAll_eq (advices : List Advice) :
    r.addAll advices = r.grantAll (advices.flatMap r.requests) := by
  induction advices generalizing r with
  | nil => rfl
  | cons a advices ih =>
    rw [List.flatMap_cons, grantAll_append, addAll, add]
    cases h : r.grantAll (r.requests a) with
    | error e => rfl
    | ok r₁ =>
      have hreq : r₁.requests = r.requests :=
        funext (requests_of_hierarchy_eq (bindings_grantAll h).1)
      rw [← hreq]
      exact ih

/-- **Who asks first is bound.** A successful registration binds each kind that is asked for to the
method that asks for it first, in the order of these requests. -/
theorem bindings_addAll {h : Hierarchy} {advices : List Advice}
    (hr : (empty h).addAll advices = .ok r) :
    r.hierarchy = h ∧ r.bindings = Keyed.firsts (wanted h advices) := by
  rw [addAll_eq] at hr
  obtain ⟨hh, hb⟩ := bindings_grantAll hr
  refine ⟨hh, hb.trans ?_⟩
  simp [empty, wanted]

/-! ### Registries with given bindings -/

theorem exists_grantAll (es : List (Kind × Binding))
    (hes : ((r.bindings ++ es).map Prod.fst).Nodup) :
    ∃ r', r.grantAll (es.map .ok) = .ok r' ∧ r'.bindings = r.bindings ++ es := by
  induction es generalizing r with
  | nil => exact ⟨r, rfl, (List.append_nil _).symm⟩
  | cons e es ih =>
    obtain ⟨k, b⟩ := e
    have hk : r.get? k = none := by
      rw [get?_eq_none_iff]
      intro hmem
      rw [List.map_append, List.nodup_append] at hes
      exact hes.2.2 k hmem k List.mem_cons_self rfl
    obtain ⟨r₁, hr₁, hb₁⟩ : ∃ r₁, r.grant k b = .ok r₁ ∧ r₁.bindings = r.bindings ++ [(k, b)] :=
      ⟨⟨r.hierarchy, _, r.nodup_append b hk⟩, grant_eq_ok_iff.2 (.inl ⟨hk, rfl, rfl⟩), rfl⟩
    obtain ⟨r₂, hr₂, hb₂⟩ := ih (r := r₁) (by rwa [hb₁, List.append_assoc])
    refine ⟨r₂, ?_, ?_⟩
    · rw [List.map_cons, grantAll, hr₁]
      exact hr₂
    · rw [hb₂, hb₁, List.append_assoc, List.singleton_append]

/-- An advice with a method for each of these kinds, which gives no answer. -/
def catching (ks : List Kind) : Advice where
  type := 0
  name := "Catching"
  methods := ks.map fun k => ⟨k.name, [], [k], fun _ => pure (.done none)⟩

/-- Such an advice of another type. -/
def catchingToo (ks : List Kind) : Advice :=
  { catching ks with type := 1, name := "CatchingToo" }

/-- Any two kinds can be bound in any order. -/
theorem exists_bound_before (h : Hierarchy) {c : Kind} (hne : c ≠ k) : ∃ r b b',
    (empty h).addAll [catching [k, c]] = .ok r ∧ r.bindings = [(k, b), (c, b')] := by
  obtain ⟨b, b', hreq⟩ : ∃ b b', [catching [k, c]].flatMap (empty h).requests =
      [(k, b), (c, b')].map Except.ok := ⟨_, _, rfl⟩
  obtain ⟨r, hr, hb⟩ := exists_grantAll (r := empty h) [(k, b), (c, b')]
    (by simpa [empty] using hne.symm)
  exact ⟨r, b, b', by rw [addAll_eq, hreq, hr], hb⟩

end Registry

end CallGuard
