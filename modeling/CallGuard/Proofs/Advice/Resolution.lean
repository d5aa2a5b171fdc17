import CallGuard.Advice.Resolve
import CallGuard.Proofs.Advice.Registration
import CallGuard.Proofs.Hierarchy.Path

/-!
# Which method is found

A kind is handled by the bound kind that a shortest path leads to, and of several such kinds by the
one that was bound first.

* `Registry.nearest?_measured_eq_some_iff` : the search finds the first of the nearest elements of
  a list (`Registry.Nearest`), of which there is only one (`Registry.Nearest.unique`);
* `Registry.resolve?_eq_some_iff`, `Registry.resolve?_eq_none_iff` : what is found in any registry;
* `Registry.resolve_nearest` : what is found, in terms of paths, in a registry that comes of
  registering advices over an accepted hierarchy.
-/

namespace CallGuard

namespace Registry

/-! ### The first of the nearest -/

/-- Among the elements of a list that have a distance, `e` has the least, `n`, and none that stands
before it has the same. -/
def Nearest {α : Type} (distance : α → Option Nat) (es : List α) (n : Nat) (e : α) : Prop :=
  ∃ before after, es = before ++ e :: after ∧ distance e = some n ∧
    (∀ d ∈ before, ∀ m, distance d = some m → n < m) ∧
    ∀ d ∈ after, ∀ m, distance d = some m → n ≤ m

section

variable {α : Type} {distance : α → Option Nat} {es : List α} {n : Nat} {e : α}

theorem Nearest.mem (h : Nearest distance es n e) : e ∈ es := by
  obtain ⟨before, after, rfl, -⟩ := h
  exact List.mem_append_right _ List.mem_cons_self

theorem Nearest.distance_eq (h : Nearest distance es n e) : distance e = some n := by
  obtain ⟨-, -, -, he, -⟩ := h
  exact he

theorem Nearest.le (h : Nearest distance es n e) {d : α} (hd : d ∈ es) {m : Nat}
    (hm : distance d = some m) : n ≤ m := by
  obtain ⟨before, after, rfl, he, hb, ha⟩ := h
  rcases List.mem_append.1 hd with hd | hd
  · exact Nat.le_of_lt (hb d hd m hm)
  · rcases List.mem_cons.1 hd with rfl | hd
    · exact Nat.le_of_eq (Option.some.inj (he.symm.trans hm))
    · exact ha d hd m hm

theorem not_nearest_nil : ¬Nearest distance [] n e := fun h =>
  List.not_mem_nil h.mem

theorem nearest_cons_of_none {x : α} (hx : distance x = none) :
    Nearest distance (x :: es) n e ↔ Nearest distance es n e := by
  constructor
  · rintro ⟨_ | ⟨y, before⟩, after, heq, he, hb, ha⟩
    · obtain ⟨rfl, rfl⟩ := List.cons.inj heq
      cases hx.symm.trans he
    · obtain ⟨rfl, rfl⟩ := List.cons.inj heq
      exact ⟨before, after, rfl, he, fun d hd => hb d (List.mem_cons_of_mem _ hd), ha⟩
  · rintro ⟨before, after, rfl, he, hb, ha⟩
    refine ⟨x :: before, after, rfl, he, fun d hd m hm => ?_, ha⟩
    rcases List.mem_cons.1 hd with rfl | hd
    · cases hx.symm.trans hm
    · exact hb d hd m hm

theorem nearest_cons_of_some {x : α} {i : Nat} (hx : distance x = some i) :
    Nearest distance (x :: es) n e ↔
      (n = i ∧ e = x ∧ ∀ d ∈ es, ∀ m, distance d = some m → i ≤ m) ∨
        (n < i ∧ Nearest distance es n e) := by
  constructor
  · rintro ⟨_ | ⟨y, before⟩, after, heq, he, hb, ha⟩
    · obtain ⟨rfl, rfl⟩ := List.cons.inj heq
      obtain rfl := Option.some.inj (hx.symm.trans he)
      exact .inl ⟨rfl, rfl, ha⟩
    · obtain ⟨rfl, rfl⟩ := List.cons.inj heq
      exact .inr ⟨hb _ List.mem_cons_self i hx, before, after, rfl, he,
        fun d hd => hb d (List.mem_cons_of_mem _ hd), ha⟩
  · rintro (⟨rfl, rfl, ha⟩ | ⟨hlt, before, after, rfl, he, hb, ha⟩)
    · exact ⟨[], es, rfl, hx, nofun, ha⟩
    · refine ⟨x :: before, after, rfl, he, fun d hd m hm => ?_, ha⟩
      rcases List.mem_cons.1 hd with rfl | hd
      · exact Option.some.inj (hx.symm.trans hm) ▸ hlt
      · exact hb d hd m hm

/-- In a list that goes on, the nearest element is that of the first part unless the second part has
a nearer one. -/
theorem nearest_append {fs : List α} : Nearest distance (es ++ fs) n e ↔
    (Nearest distance es n e ∧ ∀ f ∈ fs, ∀ m, distance f = some m → n ≤ m) ∨
      Nearest distance fs n e ∧ ∀ f ∈ es, ∀ m, distance f = some m → n < m := by
  induction es with
  | nil => simp [not_nearest_nil]
  | cons x es ih =>
    cases hx : distance x with
    | none =>
      rw [List.cons_append, nearest_cons_of_none hx, nearest_cons_of_none hx, ih]
      simp [hx]
    | some i =>
      rw [List.cons_append, nearest_cons_of_some hx, nearest_cons_of_some hx, ih]
      simp only [List.mem_append, List.mem_cons, or_imp, forall_and, forall_eq, hx,
        Option.some.injEq, forall_eq']
      constructor
      · rintro (⟨rfl, rfl, hes, hfs⟩ | ⟨hlt, ⟨hes, hfs⟩ | ⟨hfs, hes⟩⟩)
        · exact .inl ⟨.inl ⟨rfl, rfl, hes⟩, hfs⟩
        · exact .inl ⟨.inr ⟨hlt, hes⟩, hfs⟩
        · exact .inr ⟨hfs, hlt, hes⟩
      · rintro (⟨⟨rfl, rfl, hes⟩ | ⟨hlt, hes⟩, hfs⟩ | ⟨hfs, hlt, hes⟩)
        · exact .inl ⟨rfl, rfl, hes, hfs⟩
        · exact .inr ⟨hlt, .inl ⟨hes, hfs⟩⟩
        · exact .inr ⟨hlt, .inr ⟨hfs, hes⟩⟩

theorem Nearest.unique {n' : Nat} {e' : α} (h : Nearest distance es n e)
    (h' : Nearest distance es n' e') : n = n' ∧ e = e' := by
  induction es with
  | nil => exact absurd h not_nearest_nil
  | cons x es ih =>
    cases hx : distance x with
    | none => exact ih ((nearest_cons_of_none hx).1 h) ((nearest_cons_of_none hx).1 h')
    | some i =>
      rcases (nearest_cons_of_some hx).1 h with ⟨rfl, rfl, hle⟩ | ⟨hlt, hes⟩ <;>
        rcases (nearest_cons_of_some hx).1 h' with ⟨rfl, rfl, hle'⟩ | ⟨hlt', hes'⟩
      · exact ⟨rfl, rfl⟩
      · exact absurd hlt' (Nat.not_lt.2 (hle _ hes'.mem _ hes'.distance_eq))
      · exact absurd hlt (Nat.not_lt.2 (hle' _ hes.mem _ hes.distance_eq))
      · exact ih hes hes'

theorem nearest?_eq_none_iff {cs : List (Nat × α)} : nearest? cs = none ↔ cs = [] := by
  cases cs with
  | nil => simp [nearest?]
  | cons c cs =>
    simp only [nearest?, reduceCtorEq, iff_false]
    split
    · nofun
    · split <;> nofun

/-- The candidates that have a distance, with their distances. -/
def measured (distance : α → Option Nat) (es : List α) : List (Nat × α) :=
  es.filterMap fun e => (distance e).map (·, e)

theorem measured_eq_nil_iff : measured distance es = [] ↔ ∀ e ∈ es, distance e = none := by
  simp [measured]

theorem nearest_of_nearest? (h : nearest? (measured distance es) = some (n, e)) :
    Nearest distance es n e := by
  induction es generalizing n e with
  | nil => cases h
  | cons x es ih =>
    cases hx : distance x with
    | none =>
      have hes : measured distance (x :: es) = measured distance es := by simp [measured, hx]
      exact (nearest_cons_of_none hx).2 (ih (hes ▸ h))
    | some i =>
      have hes : measured distance (x :: es) = (i, x) :: measured distance es := by
        simp [measured, hx]
      rw [hes, nearest?] at h
      rw [nearest_cons_of_some hx]
      split at h
      · next hnone =>
        obtain ⟨rfl, rfl⟩ := Prod.mk.inj (Option.some.inj h)
        refine .inl ⟨rfl, rfl, fun d hd m hm => ?_⟩
        rw [measured_eq_nil_iff.1 (nearest?_eq_none_iff.1 hnone) d hd] at hm
        cases hm
      · next best hbest =>
        obtain ⟨j, d⟩ := best
        split at h
        · next hle =>
          obtain ⟨rfl, rfl⟩ := Prod.mk.inj (Option.some.inj h)
          exact .inl ⟨rfl, rfl, fun c hc m hm => Nat.le_trans hle ((ih hbest).le hc hm)⟩
        · next hlt =>
          obtain ⟨rfl, rfl⟩ := Prod.mk.inj (Option.some.inj h)
          exact .inr ⟨Nat.lt_of_not_le hlt, ih hbest⟩

theorem nearest?_measured_eq_some_iff :
    nearest? (measured distance es) = some (n, e) ↔ Nearest distance es n e := by
  refine ⟨nearest_of_nearest?, fun h => ?_⟩
  rcases hbest : nearest? (measured distance es) with _ | ⟨m, d⟩
  · rw [nearest?_eq_none_iff, measured_eq_nil_iff] at hbest
    cases (hbest e h.mem).symm.trans h.distance_eq
  · obtain ⟨rfl, rfl⟩ := (nearest_of_nearest? hbest).unique h
    rfl

end

/-! ### Bound ancestors -/

section

variable {r : Registry} {t k c : Kind} {b : Binding}

theorem resolveBound?_eq_some_iff {e : Kind × Binding} : r.resolveBound? t = some e ↔
    ∃ n, Nearest (fun d => r.hierarchy.distance d.1 t) r.bindings n e := by
  have hc : r.candidates t = measured (fun d => r.hierarchy.distance d.1 t) r.bindings := rfl
  rw [resolveBound?, hc, Option.map_eq_some_iff]
  constructor
  · rintro ⟨⟨n, d⟩, hd, rfl⟩
    exact ⟨n, nearest?_measured_eq_some_iff.1 hd⟩
  · rintro ⟨n, he⟩
    exact ⟨(n, e), nearest?_measured_eq_some_iff.2 he, rfl⟩

theorem resolve?_eq_some_iff : r.resolve? t = some b ↔
    ∃ k n, Nearest (fun d => r.hierarchy.distance d.1 t) r.bindings n (k, b) := by
  rw [resolve?, Option.map_eq_some_iff]
  constructor
  · rintro ⟨⟨k, b⟩, he, rfl⟩
    exact ⟨k, resolveBound?_eq_some_iff.1 he⟩
  · rintro ⟨k, hk⟩
    exact ⟨(k, b), resolveBound?_eq_some_iff.2 hk, rfl⟩

theorem resolve?_eq_none_iff :
    r.resolve? t = none ↔ ∀ e ∈ r.bindings, ∀ n, ¬r.hierarchy.Path n t e.1 := by
  have hc : r.candidates t = measured (fun d => r.hierarchy.distance d.1 t) r.bindings := rfl
  rw [resolve?, resolveBound?, Option.map_eq_none_iff, Option.map_eq_none_iff, hc,
    nearest?_eq_none_iff, measured_eq_nil_iff]
  simp only [Hierarchy.distance_eq_none_iff]

/-- The nearest bound kind, in terms of paths. -/
theorem nearest_iff {h : Hierarchy} {es : List (Kind × Binding)} {n : Nat} :
    Nearest (fun d => h.distance d.1 t) es n (k, b) ↔
      ∃ before after, es = before ++ (k, b) :: after ∧ h.Shortest t k n ∧
        (∀ e ∈ before, ∀ m, h.Path m t e.1 → n < m) ∧
        ∀ e ∈ after, ∀ m, h.Path m t e.1 → n ≤ m := by
  have hlt : ∀ i j, i ≤ j → n < i → n < j := fun _ _ hij hi => Nat.lt_of_lt_of_le hi hij
  have hle : ∀ i j, i ≤ j → n ≤ i → n ≤ j := fun _ _ hij hi => Nat.le_trans hi hij
  simp only [Nearest, Hierarchy.distance_eq_some_iff, Hierarchy.forall_shortest_iff hlt,
    Hierarchy.forall_shortest_iff hle]

theorem ne_of_mem_before {before after : List (Kind × Binding)}
    (heq : r.bindings = before ++ (k, b) :: after) {e : Kind × Binding} (he : e ∈ before) :
    e.1 ≠ k := by
  have hnodup := r.nodup
  rw [heq, List.map_append, List.nodup_append] at hnodup
  exact hnodup.2.2 e.1 (List.mem_map.2 ⟨e, he, rfl⟩) k (by simp)

/-- A kind that is bound itself is as near as can be, and no other kind is. -/
theorem resolve?_of_get? (h : r.get? t = some b) : r.resolve? t = some b := by
  have hmem : (t, b) ∈ r.bindings := get?_eq_some_iff.1 h
  obtain ⟨before, after, heq⟩ := List.append_of_mem hmem
  refine resolve?_eq_some_iff.2 ⟨t, 0, nearest_iff.2 ⟨before, after, heq, ?_, ?_, ?_⟩⟩
  · exact ⟨.refl t, fun _ _ => Nat.zero_le _⟩
  · intro e he m hm
    refine Nat.pos_of_ne_zero fun hm0 => ne_of_mem_before heq he ?_
    subst hm0
    exact (Hierarchy.path_zero.1 hm).symm
  · exact fun _ _ _ _ => Nat.zero_le _

theorem isMapped_of_any (hac : r.hierarchy.Acyclic) (h : r.get? Kind.any ≠ none) (t : Kind) :
    r.isMapped t = true := by
  obtain ⟨b, hb⟩ := Option.ne_none_iff_exists'.1 h
  obtain ⟨n, hn⟩ := hac.exists_path_any t
  rw [isMapped, Option.isSome_iff_ne_none]
  intro hnone
  exact resolve?_eq_none_iff.1 hnone _ (get?_eq_some_iff.1 hb) n hn

end

/-- **The nearest bound ancestor handles a kind.** Over an accepted hierarchy, a registry that comes
of registering advices binds each kind as it was asked for first. No method handles a kind to which
no bound kind is an ancestor. Otherwise the bound kind that a shortest path leads to counts, and of
several at the same distance the one that was bound first: the kind itself when it is bound, and
some kind in any case when the root is bound. -/
theorem resolve_nearest {h : Hierarchy} (hh : h.Accepted) {advices : List Advice} {r : Registry}
    (hr : (empty h).addAll advices = .ok r) :
    r.bindings = Keyed.firsts (wanted h advices) ∧
    (∀ t, r.resolve? t = none ↔ ∀ e ∈ r.bindings, ∀ n, ¬h.Path n t e.1) ∧
    (∀ t b, r.resolve? t = some b ↔
      ∃ k n before after, r.bindings = before ++ (k, b) :: after ∧ h.Shortest t k n ∧
        (∀ e ∈ before, ∀ m, h.Path m t e.1 → n < m) ∧
        ∀ e ∈ after, ∀ m, h.Path m t e.1 → n ≤ m) ∧
    (∀ t b, r.get? t = some b → r.resolve? t = some b) ∧
    (r.get? Kind.any ≠ none → ∀ t, r.isMapped t = true) := by
  obtain ⟨rfl, hb⟩ := bindings_addAll hr
  refine ⟨hb, fun t => resolve?_eq_none_iff, fun t b => ?_, fun t b => resolve?_of_get?,
    isMapped_of_any hh.acyclic⟩
  simp only [resolve?_eq_some_iff, nearest_iff]

/-- The root is bound, and one of three parents of a kind. -/
theorem resolve_nearest_root : ∃ h r,
    Hierarchy.build [(⟨"LockTimeout"⟩, [⟨"Io"⟩, ⟨"Retryable"⟩, ⟨"Audited"⟩])] = .ok h ∧
    (empty h).addAll [catching [Kind.any, ⟨"Io"⟩]] = .ok r ∧ ∀ t, r.isMapped t = true := by
  obtain ⟨h, hbuild⟩ : ∃ h, Hierarchy.build
      [(⟨"LockTimeout"⟩, [⟨"Io"⟩, ⟨"Retryable"⟩, ⟨"Audited"⟩])] = .ok h :=
    ⟨_, Hierarchy.validate_of_isOk (by decide +kernel)⟩
  obtain ⟨r, b, b', hr, hb⟩ := exists_bound_before h (by decide : (⟨"Io"⟩ : Kind) ≠ Kind.any)
  have hmem : (Kind.any, b) ∈ r.bindings := by simp [hb]
  refine ⟨h, r, hbuild, hr, (resolve_nearest (.inl ⟨_, hbuild⟩) hr).2.2.2.2 ?_⟩
  rw [get?_eq_some_iff.2 hmem]
  nofun

end Registry

end CallGuard
