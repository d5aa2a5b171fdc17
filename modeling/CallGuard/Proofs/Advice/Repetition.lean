import CallGuard.Proofs.Advice.Extension

/-!
# Registering an advice again

Two advices of the same type are instances of it, and what methods an instance has is up to it. A
method of one instance is taken for the method of the other at the same position, whatever the two
map. So a second instance that maps the same kinds by the same positions changes nothing, but one
that maps others binds them, or is refused.

* `Registry.add_eq_self_iff` : registering an advice changes nothing exactly when all that it asks
  for is bound already to the same methods (`Registry.Covers`);
* `Registry.exists_add_iff` : when it works at all (`Registry.Admits`);
* `Registry.add_again` : both, for another instance of a registered type;
* `Registry.again_binds_or_fails` : two instances of one type that map different kinds.
-/

namespace CallGuard

/-- Both list and take the same kinds. -/
def Method.DeclaresLike (m m' : Method) : Prop :=
  m.listed = m'.listed ∧ m.params = m'.params

/-- Each method of the first advice declares the same as the one at its place in the second. -/
def Advice.DeclaresLike (a a' : Advice) : Prop :=
  ∀ (i : Nat) (m : Method), a.methods[i]? = some m →
    ∃ m', a'.methods[i]? = some m' ∧ m.DeclaresLike m'

namespace Registry

variable {h : Hierarchy} {advices : List Advice} {r r' : Registry} {a a' : Advice} {b c : Binding}
  {k : Kind}

/-! ### When nothing changes -/

/-- All that a method asks for is bound to the same method. -/
structure Covers (r : Registry) (b : Binding) : Prop where
  usable : b.Usable r.hierarchy
  bound : ∀ k ∈ b.mapped, ∃ c, r.get? k = some c ∧ c.isSameMethod b = true

theorem grantAll_eq_self_iff {requests : List (Except Error (Kind × Binding))} :
    r.grantAll requests = .ok r ↔ ∀ request ∈ requests, ∃ k b c,
      request = .ok (k, b) ∧ r.get? k = some c ∧ c.isSameMethod b = true := by
  induction requests with
  | nil => simp [grantAll]
  | cons request requests ih =>
    rw [List.forall_mem_cons]
    rcases request with e | ⟨k, b⟩
    · simp [grantAll]
    · rw [grantAll]
      cases hg : r.grant k b with
      | error e =>
        obtain ⟨c, hc, hne, -⟩ := grant_eq_error_iff.1 hg
        simp [hc, hne]
      | ok r₁ =>
        rcases grant_eq_ok_iff.1 hg with ⟨hnone, -, hb⟩ | ⟨c, hc, hsame, rfl⟩
        · -- a kind that is bound newly stays bound, and was not bound before
          refine iff_of_false (fun hr => ?_) (by simp [hnone])
          obtain ⟨-, hb'⟩ := bindings_grantAll hr
          have hlength := congrArg List.length hb'
          simp only [hb, List.length_append, List.length_singleton] at hlength
          omega
        · simp [hc, hsame, ih]

/-- **When registering an advice changes nothing.** -/
theorem add_eq_self_iff : r.add a = .ok r ↔ ∀ b ∈ offers a, r.Covers b := by
  rw [add, grantAll_eq_self_iff]
  constructor
  · intro hheld b hb
    have hu : b.Usable r.hierarchy := by
      rcases mappedKinds_spec r b with ⟨hu, -⟩ | ⟨hu, e, he, -⟩
      · exact hu
      · have hmem : .error e ∈ r.requests a := mem_requests_iff.2 ⟨b, hb, .inr ⟨hu, e, he, rfl⟩⟩
        obtain ⟨_, _, _, heq, -⟩ := hheld _ hmem
        cases heq
    refine ⟨hu, fun k hk => ?_⟩
    obtain ⟨_, _, c, heq, hc, hsame⟩ := hheld _ (ok_mem_requests_iff.2 ⟨hb, hu, hk⟩)
    cases heq
    exact ⟨c, hc, hsame⟩
  · intro hcovers request hrequest
    obtain ⟨b, hb, ⟨-, k, hk, rfl⟩ | ⟨hu, -⟩⟩ := mem_requests_iff.1 hrequest
    · obtain ⟨c, hc, hsame⟩ := (hcovers b hb).bound k hk
      exact ⟨k, b, c, rfl, hc, hsame⟩
    · exact absurd (hcovers b hb).usable hu

/-! ### When it works -/

/-- The methods of an advice are usable, none of them maps a kind that is bound to another method,
and no two of them map the same kind. -/
structure Admits (r : Registry) (a : Advice) : Prop where
  usable : ∀ b ∈ offers a, b.Usable r.hierarchy
  free : ∀ b ∈ offers a, ∀ k ∈ b.mapped, ∀ c, r.get? k = some c → c.isSameMethod b = true
  apart : ∀ b ∈ offers a, ∀ c ∈ offers a, ∀ k ∈ b.mapped, k ∈ c.mapped → b.position = c.position

theorem owner_of_mem_offers (hb : b ∈ offers a) : b.owner = a.type := by
  obtain ⟨i, m, -, rfl⟩ := mem_offers_iff.1 hb
  rfl

theorem addAll_concat (hr : (empty h).addAll advices = .ok r) (a : Advice) :
    (empty h).addAll (advices ++ [a]) = r.add a := by
  have hreq : r.requests a = (empty h).requests a :=
    requests_of_hierarchy_eq (bindings_addAll hr).1 a
  rw [addAll_eq] at hr
  rw [addAll_eq, List.flatMap_append, List.flatMap_singleton, grantAll_append, hr, add, hreq]
  rfl

theorem exists_get?_of_mapped (hr : (empty h).addAll advices = .ok r) (hb : b ∈ methods advices)
    (hk : k ∈ b.mapped) : ∃ c, r.get? k = some c ∧ c.isSameMethod b = true := by
  obtain ⟨-, hsame⟩ := clear_iff.1 (addAll_ok_iff.1 ⟨r, hr⟩)
  rw [(bound_addAll hr).2]
  cases hc : firstToMap? (methods advices) k with
  | none => exact absurd hk (firstToMap?_eq_none_iff.1 hc b hb)
  | some c =>
    obtain ⟨hcm, hkc⟩ := firstToMap?_mem hc
    exact ⟨c, rfl, hsame c hcm b hb k hkc hk⟩

/-- **When an advice can be registered after others.** -/
theorem exists_add_iff (hr : (empty h).addAll advices = .ok r) :
    (∃ r', r.add a = .ok r') ↔ r.Admits a := by
  obtain ⟨rfl, -⟩ := bindings_addAll hr
  obtain ⟨-, hget⟩ := bound_addAll hr
  obtain ⟨husable, hsame⟩ := clear_iff.1 (addAll_ok_iff.1 ⟨r, hr⟩)
  have hmethods : methods (advices ++ [a]) = methods advices ++ offers a := by
    rw [methods, List.flatMap_append, List.flatMap_singleton, methods]
  rw [← addAll_concat hr, addAll_ok_iff, clear_iff, hmethods]
  constructor
  · rintro ⟨hu, hs⟩
    refine ⟨fun b hb => hu b (List.mem_append_right _ hb), fun b hb k hk c hc => ?_, ?_⟩
    · obtain ⟨hcm, hkc⟩ := firstToMap?_mem ((hget k).symm.trans hc)
      exact hs c (List.mem_append_left _ hcm) b (List.mem_append_right _ hb) k hkc hk
    · intro b hb c hc k hkb hkc
      exact (Binding.isSameMethod_iff.1 (hs b (List.mem_append_right _ hb) c
        (List.mem_append_right _ hc) k hkb hkc)).2
  · intro had
    have hnew : ∀ b ∈ offers a, ∀ c ∈ methods advices, ∀ k ∈ b.mapped, k ∈ c.mapped →
        c.isSameMethod b = true := by
      intro b hb c hc k hkb hkc
      obtain ⟨d, hd, hdc⟩ := exists_get?_of_mapped hr hc hkc
      exact Binding.isSameMethod_trans (Binding.isSameMethod_symm hdc) (had.free b hb k hkb d hd)
    simp only [List.mem_append]
    constructor
    · rintro b (hb | hb)
      · exact husable b hb
      · exact had.usable b hb
    · rintro b (hb | hb) c (hc | hc) k hkb hkc
      · exact hsame b hb c hc k hkb hkc
      · exact hnew c hc b hb k hkc hkb
      · exact Binding.isSameMethod_symm (hnew b hb c hc k hkb hkc)
      · exact Binding.isSameMethod_iff.2
          ⟨(owner_of_mem_offers hb).trans (owner_of_mem_offers hc).symm,
            had.apart b hb c hc k hkb hkc⟩

/-! ### Another instance -/

theorem covers_of_declaresLike (hr : (empty h).addAll advices = .ok r) (ha : a ∈ advices)
    (ht : a'.type = a.type) (hlike : a'.DeclaresLike a) : ∀ b ∈ offers a', r.Covers b := by
  intro b hb
  obtain ⟨i, m', hm', rfl⟩ := mem_offers_iff.1 hb
  obtain ⟨m, hm, hlisted, hparams⟩ := hlike i m' hm'
  obtain ⟨rfl, -⟩ := bindings_addAll hr
  -- the method at the same place of the registered instance
  have hmem : ⟨a.type, i, a.name, m⟩ ∈ methods advices :=
    List.mem_flatMap.2 ⟨a, ha, mem_offers_iff.2 ⟨i, m, hm, rfl⟩⟩
  have hu := (clear_iff.1 (addAll_ok_iff.1 ⟨r, hr⟩)).1 _ hmem
  constructor
  · simpa only [Binding.Usable, Binding.Accepts, hlisted, hparams] using hu
  · intro k hk
    have hk' : k ∈ Binding.mapped ⟨a.type, i, a.name, m⟩ := by
      simpa only [Binding.mapped, hlisted, hparams] using hk
    obtain ⟨c, hc, hsame⟩ := exists_get?_of_mapped hr hmem hk'
    exact ⟨c, hc, Binding.isSameMethod_trans hsame (Binding.isSameMethod_iff.2 ⟨ht.symm, rfl⟩)⟩

/-- **Registering another instance of a type.** It changes nothing exactly when each method of the
instance is usable and maps only kinds that are bound to the method at the same position of the
type, and so when it declares what the registered instance declares. It works exactly when the
instance neither maps a kind that is bound to another method nor maps one by two methods, and then
it binds the kinds that are new, behind the others, which stay as they are. -/
theorem add_again (hr : (empty h).addAll advices = .ok r) (ha : a ∈ advices)
    (ht : a'.type = a.type) :
    (r.add a' = .ok r ↔ ∀ b ∈ offers a', r.Covers b) ∧
    (a'.DeclaresLike a → r.add a' = .ok r) ∧
    ((∃ r', r.add a' = .ok r') ↔ r.Admits a') ∧
    ∀ r', r.add a' = .ok r' → ∃ added, r.Extends r' added ∧
      ∀ k b, (k, b) ∈ added → r.get? k = none ∧ b ∈ offers a' ∧ k ∈ b.mapped := by
  refine ⟨add_eq_self_iff, fun hlike => ?_, exists_add_iff hr, fun r' hr' => ?_⟩
  · exact add_eq_self_iff.2 (covers_of_declaresLike hr ha ht hlike)
  · obtain ⟨added, he, hadded⟩ := add_extends hr'
    exact ⟨added, he, fun k b hk => ⟨he.get?_eq_none hk, hadded k b hk⟩⟩

/-- An instance of the same type with the same methods and another name. -/
def catchingAgain (ks : List Kind) : Advice :=
  { catching ks with name := "CatchingAgain" }

/-- It changes nothing. -/
theorem add_again_renamed : ∃ r, (empty .empty).addAll [catching [⟨"Io"⟩]] = .ok r ∧
    r.add (catchingAgain [⟨"Io"⟩]) = .ok r := by
  obtain ⟨r, hr⟩ : ∃ r, (empty .empty).addAll [catching [⟨"Io"⟩]] = .ok r := ⟨_, rfl⟩
  have hlike : (catchingAgain [⟨"Io"⟩]).DeclaresLike (catching [⟨"Io"⟩]) :=
    fun _ m hm => ⟨m, hm, rfl, rfl⟩
  have ht : (catchingAgain [⟨"Io"⟩]).type = (catching [⟨"Io"⟩]).type := rfl
  exact ⟨r, hr, (add_again hr (List.mem_singleton.2 rfl) ht).2.1 hlike⟩

/-- **Another instance can bind more, or fail.** One that catches another kind binds it, and one
that catches the same kinds in another order is refused. -/
theorem again_binds_or_fails :
    (∃ r r', (empty .empty).addAll [catching [⟨"Io"⟩]] = .ok r ∧
      r.add (catching [⟨"Timeout"⟩]) = .ok r' ∧
      r.get? ⟨"Timeout"⟩ = none ∧ (r'.get? ⟨"Timeout"⟩).isSome = true) ∧
    ∃ r, (empty .empty).addAll [catching [⟨"Io"⟩, ⟨"Timeout"⟩]] = .ok r ∧
      r.add (catching [⟨"Timeout"⟩, ⟨"Io"⟩]) =
        .error (.ambiguous ⟨"Timeout"⟩ "Catching::Timeout" "Catching::Timeout") :=
  ⟨⟨_, _, rfl, rfl, rfl, rfl⟩, _, rfl, rfl⟩

end Registry

end CallGuard
