import CallGuard.Proofs.Advice.Registration
import CallGuard.Proofs.FirstOccurrences
import Mathlib.Data.List.Induction

/-!
# Which advices can be registered

Registering advices is a walk through their methods in order. A method maps the kinds that it
lists, or that of its first parameter when it lists none (`Binding.mapped`), and `Registry.Violates`
tells what can be wrong with it, given the methods before it.

* `Registry.grantAll_flatMap_asks_eq_error_iff` : the walk fails with what is wrong with the first
  method with which something is wrong;
* `Registry.clear_iff` : nothing is wrong with any method exactly when each is usable by itself and
  no kind is mapped by two different methods;
* `Registry.addAll_exact` : both for a registration as a whole, with the bindings that a successful
  one leaves.
-/

namespace CallGuard

namespace Keyed

variable {κ α : Type} [DecidableEq κ] {key : κ}

theorem get?_append (es es' : List (κ × α)) :
    get? key (es ++ es') = (get? key es).or (get? key es') := by
  simp only [get?, List.find?_append, Option.map_or]

theorem get?_filter_of_ne {k : κ} (h : key ≠ k) (es : List (κ × α)) :
    get? key (es.filter (·.1 ≠ k)) = get? key es := by
  induction es with
  | nil => rfl
  | cons e es ih =>
    by_cases he : e.1 = k
    · rw [List.filter_cons_of_neg (by simpa using he), ih, get?_cons, if_neg (he ▸ h.symm)]
    · rw [List.filter_cons_of_pos (by simpa using he), get?_cons, get?_cons, ih]

theorem get?_firsts (es : List (κ × α)) : get? key (firsts es) = get? key es := by
  induction es with
  | nil => rfl
  | cons e es ih =>
    rw [firsts, get?_cons, get?_cons]
    split
    · rfl
    · next h => rw [get?_filter_of_ne (Ne.symm h), ih]

theorem map_fst_firsts (es : List (κ × α)) :
    (firsts es).map Prod.fst = (es.map Prod.fst).eraseDups := by
  induction es with
  | nil => rfl
  | cons e es ih =>
    rw [firsts, List.map_cons, List.map_cons, List.eraseDups_cons, eraseDups_filter, ← ih,
      List.filter_map]
    refine congrArg (e.1 :: List.map Prod.fst ·) (List.filter_congr fun d _ => ?_)
    exact Bool.eq_iff_iff.2 (by simp)

end Keyed

namespace Binding

variable (b : Binding)

/-- The kinds that a method maps: those it lists, or that of its first parameter. -/
def mapped : List Kind :=
  match b.method.listed with
  | [] => b.method.params.take 1
  | listed => listed

/-- Some parameter accepts values of a kind. -/
def Accepts (h : Hierarchy) (k : Kind) : Prop :=
  ∃ p ∈ b.method.params, h.isAssignable p k = true

/-- The method maps something, and if it has parameters they accept all that it lists. -/
def Usable (h : Hierarchy) : Prop :=
  (b.method.listed ≠ [] ∨ b.method.params ≠ []) ∧
    (b.method.params ≠ [] → ∀ k ∈ b.method.listed, b.Accepts h k)

variable {b} {c d : Binding}

theorem find?_not_accepts_eq_some_iff {h : Hierarchy} {ks : List Kind} {k : Kind} :
    ks.find? (fun k => !b.method.params.any fun p => h.isAssignable p k) = some k ↔
      ¬b.Accepts h k ∧ ∃ before after, ks = before ++ k :: after ∧ ∀ j ∈ before, b.Accepts h j := by
  rw [List.find?_eq_some_iff_append]
  simp [Accepts]

theorem find?_not_accepts_eq_none_iff {h : Hierarchy} {ks : List Kind} :
    ks.find? (fun k => !b.method.params.any fun p => h.isAssignable p k) = none ↔
      ∀ k ∈ ks, b.Accepts h k := by
  simp [Accepts]

theorem isSameMethod_iff :
    b.isSameMethod c = true ↔ b.owner = c.owner ∧ b.position = c.position := by
  simp [isSameMethod]

@[simp] theorem isSameMethod_self : b.isSameMethod b = true :=
  isSameMethod_iff.2 ⟨rfl, rfl⟩

theorem isSameMethod_symm (h : b.isSameMethod c = true) : c.isSameMethod b = true :=
  isSameMethod_iff.2 ⟨(isSameMethod_iff.1 h).1.symm, (isSameMethod_iff.1 h).2.symm⟩

theorem isSameMethod_trans (h : b.isSameMethod c = true) (h' : c.isSameMethod d = true) :
    b.isSameMethod d = true := by
  rw [isSameMethod_iff] at *
  exact ⟨h.1.trans h'.1, h.2.trans h'.2⟩

end Binding

namespace Registry

variable {h : Hierarchy} {r r' : Registry} {b c : Binding} {j k : Kind} {e : Error}

/-- The methods of advices, in order. -/
def methods (advices : List Advice) : List Binding :=
  advices.flatMap offers

/-- The first of the methods that maps a kind. -/
def firstToMap? (ms : List Binding) (k : Kind) : Option Binding :=
  ms.find? fun b => k ∈ b.mapped

/-- This is wrong with a method that comes after others. What is wrong with a method by itself
counts before what is wrong with it beside others. -/
inductive Violates (h : Hierarchy) (earlier : List Binding) (b : Binding) : Error → Prop
  /-- The method lists no kind and has no parameter. -/
  | nothingMapped (hl : b.method.listed = []) (hp : b.method.params = []) :
      Violates h earlier b (.nothingMapped b.qualifiedName)
  /-- The first listed kind that no parameter accepts. -/
  | parameterMismatch {before after : List Kind} {k : Kind}
      (hl : b.method.listed = before ++ k :: after) (hp : b.method.params ≠ [])
      (hbefore : ∀ j ∈ before, b.Accepts h j) (hk : ¬b.Accepts h k) :
      Violates h earlier b (.parameterMismatch b.qualifiedName k b.method.params)
  /-- The first mapped kind that another method was first to map. -/
  | ambiguous {before after : List Kind} {k : Kind} {c : Binding} (hu : b.Usable h)
      (hm : b.mapped = before ++ k :: after)
      (hbefore : ∀ j ∈ before, ∀ c, firstToMap? earlier j = some c → c.isSameMethod b = true)
      (hc : firstToMap? earlier k = some c) (hne : c.isSameMethod b = false) :
      Violates h earlier b (.ambiguous k c.qualifiedName b.qualifiedName)

/-- Nothing is wrong with any of the methods, each after those before it. -/
def Clear (h : Hierarchy) (ms : List Binding) : Prop :=
  ∀ before b after, ms = before ++ b :: after → ∀ e, ¬Violates h before b e

/-- The error tells what is wrong with the first method with which something is wrong. -/
def FirstViolation (h : Hierarchy) (ms : List Binding) (e : Error) : Prop :=
  ∃ before b after, ms = before ++ b :: after ∧ Clear h before ∧ Violates h before b e

/-! ### One method -/

theorem grant_eq_error_iff : r.grant k b = .error e ↔
    ∃ c, r.get? k = some c ∧ c.isSameMethod b = false ∧
      e = .ambiguous k c.qualifiedName b.qualifiedName := by
  unfold grant
  split
  · next hnone => simp [hnone]
  · next c hc =>
    split
    · next hsame => simp [hc, hsame]
    · next hsame =>
      simp only [hc, Option.some.injEq, exists_eq_left', Bool.not_eq_true _ ▸ hsame, true_and,
        Except.error.injEq]
      exact eq_comm

/-- What a granted request changes: a kind that was free is bound to the method. -/
theorem get?_grant (hg : r.grant k b = .ok r') :
    r'.get? j = (r.get? j).or (if k = j ∧ r.get? k = none then some b else none) := by
  rcases grant_eq_ok_iff.1 hg with ⟨hnone, -, hb⟩ | ⟨c, hc, -, rfl⟩
  · simp only [get?] at hnone ⊢
    simp [hb, Keyed.get?_append, Keyed.get?_cons, hnone]
  · simp [hc]

theorem taken_grant_iff (hg : r.grant k b = .ok r') :
    r'.get? j = some c ∧ c.isSameMethod b = false ↔
      r.get? j = some c ∧ c.isSameMethod b = false := by
  rw [get?_grant hg]
  cases hj : r.get? j with
  | some d => simp
  | none =>
    simp only [Option.none_or, reduceCtorEq, false_and, iff_false, not_and, Bool.not_eq_false]
    intro hc
    split at hc
    · exact Option.some.inj hc ▸ Binding.isSameMethod_self
    · cases hc

/-- Requests for one method fail at the first kind that is bound to another one. -/
theorem grantAll_map_eq_error_iff {ks : List Kind} :
    r.grantAll (ks.map fun k => .ok (k, b)) = .error e ↔
      ∃ before k after c, ks = before ++ k :: after ∧
        (∀ j ∈ before, ∀ c, r.get? j = some c → c.isSameMethod b = true) ∧
        r.get? k = some c ∧ c.isSameMethod b = false ∧
        e = .ambiguous k c.qualifiedName b.qualifiedName := by
  induction ks generalizing r with
  | nil => simp [grantAll]
  | cons k ks ih =>
    rw [List.map_cons, grantAll]
    cases hg : r.grant k b with
    | error e' =>
      obtain ⟨c, hc, hne, rfl⟩ := grant_eq_error_iff.1 hg
      constructor
      · intro he
        exact ⟨[], k, ks, c, rfl, by simp, hc, hne, (Except.error.inj he).symm⟩
      · rintro ⟨_ | ⟨i, before⟩, k', after, c', heq, hbefore, hc', -, rfl⟩
        · obtain ⟨rfl, -⟩ := List.cons.inj heq
          obtain rfl := Option.some.inj (hc.symm.trans hc')
          rfl
        · obtain ⟨rfl, -⟩ := List.cons.inj heq
          rw [hbefore k List.mem_cons_self c hc] at hne
          cases hne
    | ok r₁ =>
      -- the kind of the request is free, or bound to the same method
      have hk : ∀ c, r.get? k = some c → c.isSameMethod b = true := by
        intro c hc
        rcases grant_eq_ok_iff.1 hg with ⟨hnone, -⟩ | ⟨d, hd, hsame, -⟩
        · cases hnone.symm.trans hc
        · exact Option.some.inj (hd.symm.trans hc) ▸ hsame
      have hfree : ∀ j, (∀ c, r₁.get? j = some c → c.isSameMethod b = true) ↔
          ∀ c, r.get? j = some c → c.isSameMethod b = true := by
        intro j
        simp only [← Bool.not_eq_false, ← not_and, taken_grant_iff hg]
      refine ih.trans ⟨?_, ?_⟩
      · rintro ⟨before, k', after, c, rfl, hbefore, hc, hne, rfl⟩
        obtain ⟨hc, -⟩ := (taken_grant_iff hg).1 ⟨hc, hne⟩
        refine ⟨k :: before, k', after, c, rfl, fun j hj => ?_, hc, hne, rfl⟩
        rcases List.mem_cons.1 hj with rfl | hj
        · exact hk
        · exact (hfree j).1 (hbefore j hj)
      · rintro ⟨_ | ⟨i, before⟩, k', after, c, heq, hbefore, hc, hne, rfl⟩
        · obtain ⟨rfl, -⟩ := List.cons.inj heq
          rw [hk c hc] at hne
          cases hne
        · obtain ⟨rfl, rfl⟩ := List.cons.inj heq
          refine ⟨before, k', after, c, rfl, fun j hj => ?_,
            ((taken_grant_iff hg).2 ⟨hc, hne⟩).1, hne, rfl⟩
          exact (hfree j).2 (hbefore j (List.mem_cons_of_mem _ hj))

theorem grantAll_squeeze (ks : List Kind) :
    r.grantAll ((squeeze ks).map fun k => .ok (k, b)) =
      r.grantAll (ks.map fun k => .ok (k, b)) := by
  fun_induction squeeze ks generalizing r with
  | case1 k rest ih =>
    rw [ih]
    simp only [List.map_cons, grantAll]
    cases hg : r.grant k b with
    | error e => rfl
    | ok r₁ =>
      have hr₁ : r₁.grant k b = .ok r₁ := by
        refine grant_eq_ok_iff.2 (.inr ?_)
        rcases grant_eq_ok_iff.1 hg with ⟨hnone, -⟩ | ⟨c, hc, hsame, rfl⟩
        · exact ⟨b, by simp [get?_grant hg, hnone], Binding.isSameMethod_self, rfl⟩
        · exact ⟨c, hc, hsame, rfl⟩
      simp [hr₁]
  | case2 a k rest _ ih =>
    simp only [List.map_cons, grantAll] at ih ⊢
    cases r.grant a b with
    | error e => rfl
    | ok r₁ => exact ih
  | case3 => rfl

theorem violates_of_unmapped {earlier : List Binding} (hl : b.method.listed = [])
    (hp : b.method.params = []) :
    Violates h earlier b e ↔ e = .nothingMapped b.qualifiedName := by
  constructor
  · rintro (_ | ⟨-, hne, -, -⟩ | ⟨hu, -, -, -, -⟩)
    · rfl
    · exact absurd hp hne
    · exact absurd hu.1 (by simp [hl, hp])
  · rintro rfl
    exact .nothingMapped hl hp

theorem violates_of_mismatch {earlier : List Binding} (hp : b.method.params ≠ [])
    (hk : b.method.listed.find? (fun k => !b.method.params.any fun p => h.isAssignable p k) =
      some k) :
    Violates h earlier b e ↔ e = .parameterMismatch b.qualifiedName k b.method.params := by
  obtain ⟨hk', before, after, hl, hbefore⟩ := Binding.find?_not_accepts_eq_some_iff.1 hk
  constructor
  · rintro (⟨-, hp'⟩ | ⟨hl', -, hbefore', hk''⟩ | ⟨hu, -, -, -, -⟩)
    · exact absurd hp' hp
    · -- both are the first listed kind that is not accepted
      have hfind := Binding.find?_not_accepts_eq_some_iff.2 ⟨hk'', _, _, hl', hbefore'⟩
      obtain rfl := Option.some.inj (hk.symm.trans hfind)
      rfl
    · exact absurd (hu.2 hp k (by simp [hl])) hk'
  · rintro rfl
    exact .parameterMismatch hl hp hbefore hk'

/-- What a method comes to by itself: what it maps, or what is wrong with it. -/
theorem mappedKinds_spec (r : Registry) (b : Binding) :
    (b.Usable r.hierarchy ∧ r.mappedKinds b = .ok (squeeze b.mapped)) ∨
      ¬b.Usable r.hierarchy ∧ ∃ e, r.mappedKinds b = .error e ∧
        ∀ earlier e', Violates r.hierarchy earlier b e' ↔ e' = e := by
  rcases hl : b.method.listed with _ | ⟨l, ls⟩ <;> rcases hp : b.method.params with _ | ⟨p, ps⟩
  · exact .inr ⟨by simp [Binding.Usable, hl, hp], _, by simp only [mappedKinds, hl, hp],
      fun _ _ => violates_of_unmapped hl hp⟩
  · exact .inl ⟨by simp [Binding.Usable, hl, hp], by simp [mappedKinds, Binding.mapped, hl, hp,
      squeeze]⟩
  · exact .inl ⟨by simp [Binding.Usable, hl, hp], by simp [mappedKinds, Binding.mapped, hl, hp]⟩
  · have hne : b.method.params ≠ [] := by simp [hp]
    cases hk : b.method.listed.find?
      (fun k => !b.method.params.any fun p => r.hierarchy.isAssignable p k) with
    | none =>
      have hu : b.Usable r.hierarchy :=
        ⟨.inr hne, fun _ => Binding.find?_not_accepts_eq_none_iff.1 hk⟩
      rw [hl, hp] at hk
      exact .inl ⟨hu, by simp only [mappedKinds, Binding.mapped, hl, hp, hk]⟩
    | some k =>
      have hu : ¬b.Usable r.hierarchy := fun hu =>
        (Binding.find?_not_accepts_eq_some_iff.1 hk).1
          (hu.2 hne k (List.mem_of_find?_eq_some hk))
      refine .inr ⟨hu, .parameterMismatch b.qualifiedName k b.method.params, ?_,
        fun _ _ => violates_of_mismatch hne hk⟩
      rw [hl, hp] at hk
      simp only [mappedKinds, hl, hp, hk]

/-- What a method asks for. -/
def asks (h : Hierarchy) (b : Binding) : List (Except Error (Kind × Binding)) :=
  match (empty h).mappedKinds b with
  | .error e => [.error e]
  | .ok ks => ks.map fun k => .ok (k, b)

theorem grantAll_asks_of_usable (hu : b.Usable h) :
    r.grantAll (asks h b) = r.grantAll (b.mapped.map fun k => .ok (k, b)) := by
  rcases mappedKinds_spec (empty h) b with ⟨-, hks⟩ | ⟨hu', -⟩
  · rw [asks, hks, grantAll_squeeze]
  · exact absurd hu hu'

/-- **One method is refused for what is wrong with it.** The kinds are bound to the methods before
it that were first to map them. -/
theorem grantAll_asks_eq_error_iff {earlier : List Binding}
    (hr : ∀ k, r.get? k = firstToMap? earlier k) :
    r.grantAll (asks h b) = .error e ↔ Violates h earlier b e := by
  rcases mappedKinds_spec (empty h) b with ⟨(hu : b.Usable h), -⟩ | ⟨-, e', he', hv⟩
  · rw [grantAll_asks_of_usable hu, grantAll_map_eq_error_iff]
    simp only [hr]
    constructor
    · rintro ⟨before, k, after, c, hm, hbefore, hc, hne, rfl⟩
      exact .ambiguous hu hm hbefore hc hne
    · rintro (⟨hl, hp⟩ | ⟨hl, hp, -, hk⟩ | ⟨-, hm, hbefore, hc, hne⟩)
      · exact absurd hu.1 (by simp [hl, hp])
      · exact absurd (hu.2 hp _ (by simp [hl])) hk
      · exact ⟨_, _, _, _, hm, hbefore, hc, hne, rfl⟩
  · rw [asks, he']
    refine Iff.trans ?_ (hv earlier e).symm
    exact ⟨fun he => (Except.error.inj he).symm, fun he => he ▸ rfl⟩

/-! ### All methods -/

/-- All that methods map, in order. -/
def mappings (ms : List Binding) : List (Kind × Binding) :=
  ms.flatMap fun b => b.mapped.map (·, b)

variable {ms : List Binding}

theorem get?_mappings (k : Kind) : ∀ ms, Keyed.get? k (mappings ms) = firstToMap? ms k
  | [] => rfl
  | b :: ms => by
    have hb : Keyed.get? k (b.mapped.map (·, b)) = if k ∈ b.mapped then some b else none := by
      induction b.mapped with
      | nil => rfl
      | cons j js ih =>
        rw [List.map_cons, Keyed.get?_cons, ih]
        by_cases hj : j = k
        · simp [hj]
        · simp [hj, Ne.symm hj]
    have ih := get?_mappings k ms
    rw [mappings] at ih
    rw [mappings, List.flatMap_cons, Keyed.get?_append, hb, ih, firstToMap?, firstToMap?,
      List.find?_cons]
    by_cases hk : k ∈ b.mapped <;> simp [hk]

theorem map_fst_mappings (ms : List Binding) :
    (mappings ms).map Prod.fst = ms.flatMap Binding.mapped := by
  simp [mappings, List.map_flatMap, Function.comp_def]

theorem grantAll_flatMap_asks (hu : ∀ b ∈ ms, b.Usable h) :
    r.grantAll (ms.flatMap (asks h)) = r.grantAll ((mappings ms).map .ok) := by
  induction ms generalizing r with
  | nil => rfl
  | cons b ms ih =>
    rw [mappings, List.flatMap_cons, List.flatMap_cons, List.map_append, List.map_map,
      grantAll_append, grantAll_append, grantAll_asks_of_usable (hu b List.mem_cons_self)]
    refine congrArg _ (funext fun r => ?_)
    exact ih fun c hc => hu c (List.mem_cons_of_mem _ hc)

theorem clear_snoc : Clear h (ms ++ [b]) ↔ Clear h ms ∧ ∀ e, ¬Violates h ms b e := by
  constructor
  · intro hc
    refine ⟨fun before c after heq => ?_, hc ms b [] rfl⟩
    exact hc before c (after ++ [b]) (by simp [heq])
  · rintro ⟨hc, hb⟩ before c after heq
    rcases List.eq_nil_or_concat after with rfl | ⟨after, d, rfl⟩
    · obtain ⟨rfl, hcb⟩ := List.append_inj' heq rfl
      exact List.singleton_inj.1 hcb ▸ hb
    · rw [List.concat_eq_append, ← List.cons_append, ← List.append_assoc] at heq
      exact hc before c after (List.append_inj' heq rfl).1

theorem firstViolation_snoc : FirstViolation h (ms ++ [b]) e ↔
    FirstViolation h ms e ∨ Clear h ms ∧ Violates h ms b e := by
  constructor
  · rintro ⟨before, c, after, heq, hc, hv⟩
    rcases List.eq_nil_or_concat after with rfl | ⟨after, d, rfl⟩
    · obtain ⟨rfl, hcb⟩ := List.append_inj' heq rfl
      exact .inr ⟨hc, List.singleton_inj.1 hcb ▸ hv⟩
    · rw [List.concat_eq_append, ← List.cons_append, ← List.append_assoc] at heq
      exact .inl ⟨before, c, after, (List.append_inj' heq rfl).1, hc, hv⟩
  · rintro (⟨before, c, after, rfl, hc, hv⟩ | ⟨hc, hv⟩)
    · exact ⟨before, c, after ++ [b], by simp, hc, hv⟩
    · exact ⟨ms, b, [], rfl, hc, hv⟩

theorem FirstViolation.not_clear (hv : FirstViolation h ms e) : ¬Clear h ms := by
  obtain ⟨before, b, after, heq, -, hb⟩ := hv
  exact fun hc => hc before b after heq e hb

theorem clear_or_firstViolation (h : Hierarchy) (ms : List Binding) :
    Clear h ms ∨ ∃ e, FirstViolation h ms e := by
  induction ms using List.reverseRecOn with
  | nil => exact .inl fun before b after heq => by simp at heq
  | append_singleton ms b ih =>
    simp only [clear_snoc, firstViolation_snoc]
    rcases ih with hc | ⟨e, he⟩
    · by_cases hb : ∃ e, Violates h ms b e
      · obtain ⟨e, he⟩ := hb
        exact .inr ⟨e, .inr ⟨hc, he⟩⟩
      · exact .inl ⟨hc, not_exists.1 hb⟩
    · exact .inr ⟨e, .inl he⟩

theorem not_violates_iff : (∀ e, ¬Violates h ms b e) ↔
    b.Usable h ∧ ∀ k ∈ b.mapped, ∀ c, firstToMap? ms k = some c → c.isSameMethod b = true := by
  constructor
  · intro hv
    have hu : b.Usable h := by
      rcases mappedKinds_spec (empty h) b with ⟨hu, -⟩ | ⟨-, e, -, he⟩
      · exact hu
      · exact absurd ((he ms e).2 rfl) (hv e)
    refine ⟨hu, ?_⟩
    by_contra hne
    -- the first mapped kind that another method was first to map
    obtain ⟨k, hk⟩ : ∃ k, b.mapped.find? (fun k => !decide (∀ c, firstToMap? ms k = some c →
        c.isSameMethod b = true)) = some k := by
      rw [← Option.isSome_iff_exists, List.find?_isSome]
      simpa using hne
    obtain ⟨hk, before, after, hm, hbefore⟩ := List.find?_eq_some_iff_append.1 hk
    obtain ⟨c, hc, hne⟩ : ∃ c, firstToMap? ms k = some c ∧ c.isSameMethod b = false := by
      simpa using hk
    exact hv _ (.ambiguous hu hm (fun j hj => by simpa using hbefore j hj) hc hne)
  · rintro ⟨hu, hm⟩ e (⟨hl, hp⟩ | ⟨hl, hp, -, hk⟩ | ⟨-, hmap, -, hc, hne⟩)
    · exact absurd hu.1 (by simp [hl, hp])
    · exact absurd (hu.2 hp _ (by simp [hl])) hk
    · rw [hm _ (by simp [hmap]) _ hc] at hne
      cases hne

theorem firstToMap?_eq_none_iff : firstToMap? ms k = none ↔ ∀ b ∈ ms, k ∉ b.mapped := by
  simp [firstToMap?]

theorem firstToMap?_mem (hb : firstToMap? ms k = some b) : b ∈ ms ∧ k ∈ b.mapped :=
  ⟨List.mem_of_find?_eq_some hb, by simpa using List.find?_some hb⟩

/-- **When nothing is wrong.** Each method is usable by itself, and methods that map the same kind
are the same. -/
theorem clear_iff : Clear h ms ↔ (∀ b ∈ ms, b.Usable h) ∧
    ∀ b ∈ ms, ∀ c ∈ ms, ∀ k ∈ b.mapped, k ∈ c.mapped → b.isSameMethod c = true := by
  induction ms using List.reverseRecOn with
  | nil => simp [Clear]
  | append_singleton ms b ih =>
    rw [clear_snoc, ih, not_violates_iff]
    simp only [List.mem_append, List.mem_singleton, or_imp, forall_and, forall_eq]
    constructor
    · rintro ⟨⟨hus, hsame⟩, hu, hb⟩
      -- what the new method shares with another one was mapped first by the same method
      have hnew : ∀ c ∈ ms, ∀ k ∈ c.mapped, k ∈ b.mapped → c.isSameMethod b = true := by
        intro c hc k hkc hkb
        cases hd : firstToMap? ms k with
        | none => exact absurd hkc (firstToMap?_eq_none_iff.1 hd c hc)
        | some d =>
          obtain ⟨hdm, hkd⟩ := firstToMap?_mem hd
          exact Binding.isSameMethod_trans (hsame c hc d hdm k hkc hkd) (hb k hkb d hd)
      refine ⟨⟨hus, hu⟩, ⟨hsame, fun c hc k hkb hkc => ?_⟩, hnew, fun _ _ _ =>
        Binding.isSameMethod_self⟩
      exact Binding.isSameMethod_symm (hnew c hc k hkc hkb)
    · rintro ⟨⟨hus, hu⟩, ⟨hsame, -⟩, hnew, -⟩
      refine ⟨⟨hus, hsame⟩, hu, fun k hk c hc => ?_⟩
      obtain ⟨hcm, hkc⟩ := firstToMap?_mem hc
      exact hnew c hcm k hkc hk

/-- Methods with which nothing is wrong have each kind bound to the first that maps it. -/
theorem bindings_of_clear (hc : Clear h ms)
    (hr : (empty h).grantAll (ms.flatMap (asks h)) = .ok r) :
    r.hierarchy = h ∧ r.bindings = Keyed.firsts (mappings ms) := by
  rw [grantAll_flatMap_asks (clear_iff.1 hc).1] at hr
  obtain ⟨hh, hb⟩ := bindings_grantAll hr
  refine ⟨hh, hb.trans ?_⟩
  simp [empty, List.filterMap_map, Function.comp_def, Except.toOption]

/-- **The first method with which something is wrong ends the registration.** -/
theorem grantAll_flatMap_asks_eq_error_iff :
    (empty h).grantAll (ms.flatMap (asks h)) = .error e ↔ FirstViolation h ms e := by
  induction ms using List.reverseRecOn generalizing e with
  | nil => simp [grantAll, FirstViolation]
  | append_singleton ms b ih =>
    rw [List.flatMap_append, List.flatMap_singleton, grantAll_append, firstViolation_snoc]
    cases hr : (empty h).grantAll (ms.flatMap (asks h)) with
    | error e' =>
      have hne : ¬Clear h ms := (ih.1 hr).not_clear
      simp only [← ih, hr, hne, false_and, or_false]
      rfl
    | ok r =>
      have hfirst : ∀ e, ¬FirstViolation h ms e := by simp [← ih, hr]
      have hc : Clear h ms := (clear_or_firstViolation h ms).resolve_right (by simpa using hfirst)
      obtain ⟨-, hb⟩ := bindings_of_clear hc hr
      simp only [hfirst, false_or, hc, true_and]
      refine grantAll_asks_eq_error_iff fun k => ?_
      rw [get?, hb, Keyed.get?_firsts, get?_mappings]

/-! ### A registration -/

theorem addAll_empty (h : Hierarchy) (advices : List Advice) :
    (empty h).addAll advices = (empty h).grantAll ((methods advices).flatMap (asks h)) := by
  rw [addAll_eq, methods, List.flatMap_assoc]
  rfl

theorem addAll_eq_error_iff {advices : List Advice} :
    (empty h).addAll advices = .error e ↔ FirstViolation h (methods advices) e := by
  rw [addAll_empty, grantAll_flatMap_asks_eq_error_iff]

theorem addAll_ok_iff {advices : List Advice} :
    (∃ r, (empty h).addAll advices = .ok r) ↔ Clear h (methods advices) := by
  constructor
  · rintro ⟨r, hr⟩
    refine (clear_or_firstViolation h (methods advices)).resolve_right ?_
    rintro ⟨e, he⟩
    cases hr.symm.trans (addAll_eq_error_iff.2 he)
  · intro hc
    cases hr : (empty h).addAll advices with
    | ok r => exact ⟨r, rfl⟩
    | error e => exact absurd hc (addAll_eq_error_iff.1 hr).not_clear

/-- A successful registration binds the kinds in the order in which they are mapped first, each to
the method that maps it first. -/
theorem bound_addAll {advices : List Advice} (hr : (empty h).addAll advices = .ok r) :
    r.bindings.map Prod.fst = ((methods advices).flatMap Binding.mapped).eraseDups ∧
      ∀ k, r.get? k = firstToMap? (methods advices) k := by
  obtain ⟨-, hb⟩ := bindings_of_clear (addAll_ok_iff.1 ⟨r, hr⟩) (addAll_empty h advices ▸ hr)
  refine ⟨?_, fun k => ?_⟩
  · rw [hb, Keyed.map_fst_firsts, map_fst_mappings]
  · rw [get?, hb, Keyed.get?_firsts, get?_mappings]

/-- **Which advices can be registered, and what comes of it.** Registering advices works exactly
when every method maps something that its parameters accept and no kind is mapped by two different
methods. It binds the mapped kinds in the order in which they are mapped first, each to the method
that maps it first. It fails with what is wrong with the first method with which something is
wrong. -/
theorem addAll_exact (h : Hierarchy) (advices : List Advice) :
    ((∃ r, (empty h).addAll advices = .ok r) ↔
      (∀ b ∈ methods advices, b.Usable h) ∧
        ∀ b ∈ methods advices, ∀ c ∈ methods advices, ∀ k ∈ b.mapped, k ∈ c.mapped →
          b.owner = c.owner ∧ b.position = c.position) ∧
    (∀ r, (empty h).addAll advices = .ok r →
      r.bindings.map Prod.fst = ((methods advices).flatMap Binding.mapped).eraseDups ∧
        ∀ k, r.get? k = firstToMap? (methods advices) k) ∧
    ∀ e, (empty h).addAll advices = .error e ↔ FirstViolation h (methods advices) e := by
  refine ⟨?_, fun r hr => bound_addAll hr, fun e => addAll_eq_error_iff⟩
  rw [addAll_ok_iff, clear_iff]
  simp only [Binding.isSameMethod_iff]

end Registry

end CallGuard
