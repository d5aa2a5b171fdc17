import CallGuard.Proofs.Advice.Extension
import CallGuard.Proofs.Advice.Specificity
import Mathlib.Data.List.Nodup

/-!
# Registering advices in another order

Whether advices can be registered together does not depend on their order, only which of the errors
is told does. The order of the bindings depends on it, and with it which of several bound kinds at
the same distance counts. Where no kind has two parents there are no such kinds: the search for the
nearest bound kind is a walk from parent to parent up to the first kind that is bound
(`Registry.MeetsFirst`).

* `Registry.exists_addAll_perm` : advices can be registered in any order or in none;
* `Registry.resolve?_eq_some_iff_meetsFirst` : what is found where no kind has two parents;
* `Registry.addAll_perm` : advices of different types, registered in two orders.
-/

namespace CallGuard

namespace Registry

variable {h : Hierarchy} {r r' : Registry} {advices advices' : List Advice} {b c : Binding}
  {k t : Kind} {ms : List Binding}

/-! ### The walk to the first bound kind -/

/-- On the way from one kind to the next over their only parents, the first bound kind that is met
is this one. -/
inductive MeetsFirst (r : Registry) : Kind → Kind → Prop
  | here {k : Kind} (hk : r.get? k ≠ none) : MeetsFirst r k k
  | up {t p k : Kind} (ht : r.get? t = none) (hp : r.hierarchy.parents t = [p])
      (hm : MeetsFirst r p k) : MeetsFirst r t k

/-- The walk depends on what is bound, not on the order. -/
theorem MeetsFirst.congr (hh : r'.hierarchy = r.hierarchy) (hg : ∀ k, r'.get? k = r.get? k)
    (hm : r.MeetsFirst t k) : r'.MeetsFirst t k := by
  induction hm with
  | here hk => exact .here (by rwa [hg])
  | up ht hp _ ih => exact .up (by rwa [hg]) (by rwa [hh]) ih

theorem MeetsFirst.exists_path (hm : r.MeetsFirst t k) : ∃ n, r.hierarchy.Path n t k ∧
    ∀ c, r.get? c ≠ none → ∀ m, r.hierarchy.Path m t c → n ≤ m := by
  induction hm with
  | here => exact ⟨0, .refl _, fun _ _ _ _ => Nat.zero_le _⟩
  | @up t p k ht hp _ ih =>
    obtain ⟨n, hn, hle⟩ := ih
    refine ⟨n + 1, .step (by simp [hp]) hn, fun c hc m hm => ?_⟩
    cases hm with
    | refl => exact absurd ht hc
    | @step m _ q _ hq hm =>
      rw [hp, List.mem_singleton] at hq
      exact Nat.succ_le_succ (hle c hc m (hq ▸ hm))

theorem meetsFirst_of_path (hp : ∀ k, (r.hierarchy.parents k).length ≤ 1) {n : Nat}
    (hn : r.hierarchy.Path n t k) (hk : r.get? k ≠ none)
    (hle : ∀ c, r.get? c ≠ none → ∀ m, r.hierarchy.Path m t c → n ≤ m) : r.MeetsFirst t k := by
  induction hn with
  | refl => exact .here hk
  | @step n t p k hq hpath ih =>
    have ht : r.get? t = none := by
      by_contra ht
      have := hle t ht 0 (.refl t)
      omega
    refine .up ht (Hierarchy.parents_eq_singleton (hp t) hq) (ih hk fun c hc m hm => ?_)
    have := hle c hc (m + 1) (.step hq hm)
    omega

theorem get?_ne_none_iff : r.get? k ≠ none ↔ ∃ b, (k, b) ∈ r.bindings := by
  simp only [Option.ne_none_iff_exists', get?_eq_some_iff]

/-- **The nearest bound kind is the first that is met.** -/
theorem resolve?_eq_some_iff_meetsFirst (hp : ∀ k, (r.hierarchy.parents k).length ≤ 1) :
    r.resolve? t = some b ↔ ∃ k, r.MeetsFirst t k ∧ r.get? k = some b := by
  rw [resolve?_eq_some_iff]
  constructor
  · rintro ⟨k, n, hn⟩
    have hk := (Hierarchy.distance_eq_some_iff.1 hn.distance_eq).1
    refine ⟨k, meetsFirst_of_path hp hk (get?_ne_none_iff.2 ⟨b, hn.mem⟩) ?_,
      get?_eq_some_iff.2 hn.mem⟩
    intro c hc m hm
    obtain ⟨d, hd⟩ := get?_ne_none_iff.1 hc
    obtain ⟨i, hi⟩ := hm.exists_shortest
    exact Nat.le_trans (hn.le hd (Hierarchy.distance_eq_some_iff.2 hi)) (hi.2 hm)
  · rintro ⟨k, hm, hb⟩
    obtain ⟨n, hn, hle⟩ := hm.exists_path
    have hmin : ∀ e ∈ r.bindings, ∀ m, r.hierarchy.Path m t e.1 → n ≤ m := fun e he =>
      hle e.1 (get?_ne_none_iff.2 ⟨e.2, he⟩)
    obtain ⟨before, after, heq⟩ := List.append_of_mem (get?_eq_some_iff.1 hb)
    refine ⟨k, n, nearest_iff.2 ⟨before, after, heq, ⟨hn, fun m => ?_⟩, ?_, ?_⟩⟩
    · exact hle k (by simp [hb]) m
    · intro e he m hpath
      refine Nat.lt_of_le_of_ne (hmin e (by simp [heq, he]) m hpath) fun hnm => ?_
      -- two bound kinds at one distance are the same kind, which stands once
      subst hnm
      exact ne_of_mem_before heq he (hpath.unique hp hn)
    · exact fun e he => hmin e (by simp [heq, he])

/-! ### The same methods in another order -/

theorem methods_perm (hperm : advices'.Perm advices) :
    (methods advices').Perm (methods advices) :=
  hperm.flatMap_right _

/-- **Advices can be registered in any order or in none.** -/
theorem exists_addAll_perm (hperm : advices'.Perm advices) :
    (∃ r, (empty h).addAll advices' = .ok r) ↔ ∃ r, (empty h).addAll advices = .ok r := by
  simp only [addAll_ok_iff, clear_iff, (methods_perm hperm).mem_iff]

/-- Advices of different types have no method in common. -/
theorem eq_of_isSameMethod (hd : (advices.map Advice.type).Nodup) (hb : b ∈ methods advices)
    (hc : c ∈ methods advices) (hsame : b.isSameMethod c = true) : b = c := by
  obtain ⟨a, ha, hb⟩ := List.mem_flatMap.1 hb
  obtain ⟨a', ha', hc⟩ := List.mem_flatMap.1 hc
  obtain ⟨i, m, hm, rfl⟩ := mem_offers_iff.1 hb
  obtain ⟨j, m', hm', rfl⟩ := mem_offers_iff.1 hc
  obtain ⟨htype, hposition⟩ := Binding.isSameMethod_iff.1 hsame
  obtain rfl : a = a' := List.inj_on_of_nodup_map hd ha ha' htype
  obtain rfl : i = j := hposition
  obtain rfl : m = m' := Option.some.inj (hm.symm.trans hm')
  rfl

theorem firstToMap?_eq_some_iff
    (hone : ∀ b ∈ ms, ∀ c ∈ ms, k ∈ b.mapped → k ∈ c.mapped → b = c) :
    firstToMap? ms k = some b ↔ b ∈ ms ∧ k ∈ b.mapped := by
  refine ⟨firstToMap?_mem, fun ⟨hb, hk⟩ => ?_⟩
  cases hc : firstToMap? ms k with
  | none => exact absurd hk (firstToMap?_eq_none_iff.1 hc b hb)
  | some c =>
    obtain ⟨hcm, hkc⟩ := firstToMap?_mem hc
    rw [hone b hb c hcm hk hkc]

/-- Advices of different types bind the same kinds to the same methods in any order. -/
theorem get?_addAll_perm (hd : (advices.map Advice.type).Nodup) (hperm : advices'.Perm advices)
    (hr : (empty h).addAll advices = .ok r) (hr' : (empty h).addAll advices' = .ok r') (k : Kind) :
    r'.get? k = r.get? k := by
  obtain ⟨-, hsame⟩ := clear_iff.1 (addAll_ok_iff.1 ⟨r, hr⟩)
  have hmem : ∀ b, b ∈ methods advices' ↔ b ∈ methods advices := fun _ =>
    (methods_perm hperm).mem_iff
  have hone : ∀ b ∈ methods advices, ∀ c ∈ methods advices, k ∈ b.mapped → k ∈ c.mapped → b = c :=
    fun b hb c hc hkb hkc => eq_of_isSameMethod hd hb hc (hsame b hb c hc k hkb hkc)
  rw [(bound_addAll hr).2, (bound_addAll hr').2]
  ext b
  rw [firstToMap?_eq_some_iff hone, firstToMap?_eq_some_iff (by simpa only [hmem] using hone), hmem]

/-- **The order does not matter where no kind has two parents.** Advices of different types can be
registered in one order exactly when they can be in another. Then both registries handle each kind
by the same method, if by any: by the one that the first bound kind is bound to which is met on the
walk up from the kind, and both meet the same kinds. -/
theorem addAll_perm (hp : ∀ k, (h.parents k).length ≤ 1) (hd : (advices.map Advice.type).Nodup)
    (hperm : advices'.Perm advices) :
    ((∃ r', (empty h).addAll advices' = .ok r') ↔ ∃ r, (empty h).addAll advices = .ok r) ∧
    ∀ r r', (empty h).addAll advices = .ok r → (empty h).addAll advices' = .ok r' → ∀ t,
      r'.resolve? t = r.resolve? t ∧
      (∀ k, r'.MeetsFirst t k ↔ r.MeetsFirst t k) ∧
      ∀ b, r.resolve? t = some b ↔ ∃ k, r.MeetsFirst t k ∧ r.get? k = some b := by
  refine ⟨exists_addAll_perm hperm, fun r r' hr hr' t => ?_⟩
  obtain ⟨hh, -⟩ := bindings_addAll hr
  obtain ⟨hh', -⟩ := bindings_addAll hr'
  have hg := get?_addAll_perm hd hperm hr hr'
  have hmeets : ∀ k, r'.MeetsFirst t k ↔ r.MeetsFirst t k := fun k =>
    ⟨.congr (hh.trans hh'.symm) fun k => (hg k).symm, .congr (hh'.trans hh.symm) hg⟩
  have hfound : ∀ b, r.resolve? t = some b ↔ ∃ k, r.MeetsFirst t k ∧ r.get? k = some b := fun b =>
    resolve?_eq_some_iff_meetsFirst (by rwa [hh])
  refine ⟨?_, hmeets, hfound⟩
  ext b
  rw [hfound, resolve?_eq_some_iff_meetsFirst (by rwa [hh'])]
  simp only [hmeets, hg]

/-- A chain of kinds, and two advices in both orders. -/
theorem addAll_perm_chain : ∃ h r r',
    Hierarchy.build [(⟨"FileNotFound"⟩, [⟨"Io"⟩])] = .ok h ∧
    (empty h).addAll [catching [Kind.any], catchingToo [⟨"Io"⟩]] = .ok r ∧
    (empty h).addAll [catchingToo [⟨"Io"⟩], catching [Kind.any]] = .ok r' ∧
    ∀ t, r'.resolve? t = r.resolve? t := by
  obtain ⟨h, hbuild, hp⟩ : ∃ h, Hierarchy.build [(⟨"FileNotFound"⟩, [⟨"Io"⟩])] = .ok h ∧
      ∀ k, (h.parents k).length ≤ 1 :=
    ⟨Hierarchy.builtin.declare ⟨"FileNotFound"⟩ [⟨"Io"⟩],
      Hierarchy.validate_of_isOk (by decide +kernel), Hierarchy.parents_length_le (by decide)⟩
  have hperm : [catchingToo [⟨"Io"⟩], catching [Kind.any]].Perm
      [catching [Kind.any], catchingToo [⟨"Io"⟩]] := .swap _ _ _
  exact ⟨h, _, _, hbuild, rfl, rfl, fun t =>
    ((addAll_perm hp (by decide) hperm).2 _ _ rfl rfl t).1⟩

end Registry

end CallGuard
