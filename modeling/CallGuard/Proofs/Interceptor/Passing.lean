import CallGuard.Interceptor.Chain
import CallGuard.Rehearsal.Script

/-!
# The way through a chain

The interceptors of a chain stand in ascending order, and those of equal order as they were added.
When each of them goes on at most once, a start leads through the chain in one way: it visits the
interceptors one after the other, each once and with the call and the headers that the one before
passed on, up to the first one that does not go on, or to the service.

Whether an interceptor goes on shows in what it comes to. It answers by itself if it comes to the
same whatever stands behind it (`Interceptor.Answers`), and it goes on with a visit if what it comes
to is made of what comes of that visit (`Interceptor.GoesOn`).

* `Chain.filter_arrange` : equal orders keep the order in which they were added;
* `Chain.behind_eq` : what an interceptor is given to go on with;
* `Interceptor.goesOnOnce_following`, `Interceptor.goesOnOnce_guarding` : the interceptors of this
  library go on at most once;
* `Chain.Passage` : the visits of a start;
* `Chain.build_visits` : there is one way through a chain.
-/

namespace CallGuard

/-! ### Order -/

namespace Chain

variable (is : List Interceptor)

theorem perm_arrange : (arrange is).Perm is :=
  List.mergeSort_perm ..

theorem pairwise_arrange : (arrange is).Pairwise fun i j => i.order ≤ j.order :=
  (List.pairwise_mergeSort order_trans order_total is).imp of_decide_eq_true

/-- The interceptors of one order stand as they were added. -/
theorem filter_arrange (o : Int) :
    (arrange is).filter (·.order = o) = is.filter (·.order = o) := by
  have hpairwise : (is.filter (·.order = o)).Pairwise fun i j => decide (i.order ≤ j.order) := by
    refine List.pairwise_of_forall_mem_list fun i hi j hj => ?_
    rw [List.mem_filter, decide_eq_true_iff] at hi hj
    exact decide_eq_true (Int.le_of_eq (hi.2.trans hj.2.symm))
  have hsublist : (is.filter (·.order = o)).Sublist (arrange is) :=
    List.sublist_mergeSort order_trans order_total hpairwise List.filter_sublist
  have hfilter : (is.filter (·.order = o)).Sublist ((arrange is).filter (·.order = o)) := by
    have hself : (is.filter (·.order = o)).filter (·.order = o) = is.filter (·.order = o) :=
      List.filter_eq_self.2 fun _ hi => (List.mem_filter.1 hi).2
    rw [← hself]
    exact hsublist.filter _
  exact (hfilter.eq_of_length ((perm_arrange is).filter _).length_eq.symm).symm

/-! ### What stands behind an interceptor -/

/-- The interceptors from a place on, and the service. -/
def behind (c : Chain) (k : Nat) : Start :=
  start ⟨c.interceptors.drop k, c.service⟩

variable (c : Chain)

theorem behind_zero : c.behind 0 = c.start := rfl

theorem behind_eq (k : Nat) : c.behind k =
    match c.interceptors[k]? with
    | some i => i.intercept (c.behind (k + 1))
    | none => c.service := by
  rw [behind]
  cases hk : c.interceptors[k]? with
  | none =>
    rw [List.drop_eq_nil_of_le (List.getElem?_eq_none_iff.1 hk)]
    rfl
  | some i =>
    obtain ⟨hlt, rfl⟩ := List.getElem?_eq_some_iff.1 hk
    rw [List.drop_eq_getElem_cons hlt]
    rfl

end Chain

/-! ### Visits -/

/-- What something is started with: a call and headers, in a world. -/
structure Visit where
  call : Call
  headers : Metadata
  world : World

/-- What comes of a visit. -/
def Visit.run (v : Visit) (st : Start) : Outcome Listener × World :=
  st v.call v.headers v.world

namespace Interceptor

variable (i : Interceptor)

/-- On a visit the interceptor comes to this, whatever stands behind it. -/
def Answers (v : Visit) (result : Outcome Listener × World) : Prop :=
  ∀ next, v.run (i.intercept next) = result

/-- On a visit the interceptor goes on with another visit, once, and makes something of what comes
back. It does not answer by itself. -/
structure GoesOn (v v' : Visit) (after : Outcome Listener × World → Outcome Listener × World) :
    Prop where
  run_eq : ∀ next, v.run (i.intercept next) = after (v'.run next)
  not_answers : ∀ result, ¬i.Answers v result

/-- On every visit the interceptor answers by itself or goes on once. -/
def GoesOnOnce : Prop :=
  ∀ v, (∃ result, i.Answers v result) ∨ ∃ v' after, i.GoesOn v v' after

variable {i}

/-- It is enough to tell what is made of one visit. -/
theorem goesOnOnce_of_run_eq
    (h : ∀ v, (∃ result, i.Answers v result) ∨
      ∃ (v' : Visit) (after : Outcome Listener × World → Outcome Listener × World),
        ∀ next, v.run (i.intercept next) = after (v'.run next)) : i.GoesOnOnce := by
  intro v
  by_cases hanswers : ∃ result, i.Answers v result
  · exact .inl hanswers
  · obtain hresult | ⟨v', after, hrun⟩ := h v
    · exact .inl hresult
    · exact .inr ⟨v', after, hrun, not_exists.1 hanswers⟩

/-- The visit with which an interceptor goes on is determined: of two different ones, the results
could be chosen on their own. -/
theorem GoesOn.unique {v v₁ v₂ : Visit}
    {after₁ after₂ : Outcome Listener × World → Outcome Listener × World}
    (h₁ : i.GoesOn v v₁ after₁) (h₂ : i.GoesOn v v₂ after₂) : v₁ = v₂ := by
  classical
  refine Decidable.byContradiction fun hne => ?_
  have hconst : ∀ r₁ r₂, after₁ r₁ = after₂ r₂ := by
    intro r₁ r₂
    let next : Start := fun call headers w => if (⟨call, headers, w⟩ : Visit) = v₁ then r₁ else r₂
    have hnext₁ : v₁.run next = r₁ := if_pos rfl
    have hnext₂ : v₂.run next = r₂ := if_neg (Ne.symm hne)
    rw [← hnext₁, ← hnext₂, ← h₁.run_eq, ← h₂.run_eq]
  let r : Outcome Listener × World := (.panicked .other, v.world)
  exact h₁.not_answers (after₂ r) fun next => (h₁.run_eq next).trans (hconst _ r)

/-! ### Who goes on at most once -/

/-- What an interceptor that follows a plan does about its choice. -/
def settle (call : Call) (next : Start) : Choice → Run Listener
  | .answer result => Run.raise result
  | .goOn headers after => do
    Run.raise (← (after (← Run.attempt (next call headers))).run call)

theorem goesOnOnce_following (name : String) (order : Int) (plan : Metadata → Plan Choice) :
    (following name order plan).GoesOnOnce := by
  refine goesOnOnce_of_run_eq fun v => ?_
  have hrun : ∀ next, v.run ((following name order plan).intercept next) =
      Run.andThen (settle v.call next) ((plan v.headers).run v.call v.world) :=
    fun _ => rfl
  generalize (plan v.headers).run v.call v.world = planned at hrun
  obtain ⟨(result | ⟨headers, after⟩) | f | p, w⟩ := planned
  · exact .inl ⟨_, hrun⟩
  · exact .inr ⟨⟨v.call, headers, w⟩, fun r => ((after r.1).run v.call >>= Run.raise) r.2, hrun⟩
  · exact .inl ⟨_, hrun⟩
  · exact .inl ⟨_, hrun⟩

theorem goesOnOnce_guarding (b : Fallback) : (guarding b).GoesOnOnce := by
  refine goesOnOnce_of_run_eq fun v => .inr ?_
  let g : GuardedCall := ⟨v.world.nextSlot, b, v.call⟩
  exact ⟨⟨g.asCall, v.headers, { v.world with nextSlot := v.world.nextSlot + 1 }⟩,
    fun r => v.run ((guarding b).intercept fun _ _ _ => r), fun _ => rfl⟩

theorem not_answers_of_started {v : Visit} {result : Outcome Listener × World}
    (h : ∀ started : List Call, (v.run (i.intercept fun _ _ w =>
      (.done .silent, { w with started := started }))).2.started = started) :
    ¬i.Answers v result := by
  intro hanswers
  have hresult : ∀ started, result.2.started = started := fun started =>
    (congrArg (fun r => r.2.started) (hanswers _)).symm.trans (h started)
  exact List.cons_ne_nil _ _ ((hresult [.transport]).symm.trans (hresult []))

theorem not_answers_guarding (b : Fallback) (v : Visit) (result : Outcome Listener × World) :
    ¬(guarding b).Answers v result :=
  not_answers_of_started fun _ => rfl

end Interceptor

/-! ### Passing through -/

namespace Chain

/-- The visits of a start, one for each that is started: for the interceptor in each place, and at
last for the service. -/
structure Passage (c : Chain) (v : Visit) (visits : List Visit) : Prop where
  /-- The first visit is the start itself. -/
  first : visits[0]? = some v
  /-- Each visit that another one follows is that of an interceptor which goes on with the next one,
  and which is given what comes of it. -/
  passed : ∀ {k : Nat} {u u' : Visit}, visits[k]? = some u → visits[k + 1]? = some u' →
    ∃ i after, c.interceptors[k]? = some i ∧ i.GoesOn u u' after ∧
      u.run (c.behind k) = after (u'.run (c.behind (k + 1)))
  /-- The last visit is that of an interceptor which answers by itself, or that of the service behind
  all interceptors. -/
  last : ∀ {k : Nat} {u : Visit}, visits[k]? = some u → visits[k + 1]? = none →
    (∃ i result, c.interceptors[k]? = some i ∧ i.Answers u result ∧
      u.run (c.behind k) = result) ∨
    k = c.interceptors.length ∧ u.run (c.behind k) = u.run c.service

variable {c c' : Chain} {v : Visit} {visits visits' : List Visit}

/-- Interceptors that go on at most once are passed through. -/
theorem exists_passage {is : List Interceptor} (h : ∀ i ∈ is, i.GoesOnOnce) (service : Start)
    (v : Visit) : ∃ visits, Passage ⟨is, service⟩ v visits := by
  induction is generalizing v with
  | nil =>
    refine ⟨[v], rfl, fun _ hnext => ?_, fun {k u} hk _ => ?_⟩
    · simp at hnext
    · cases k with
      | zero => exact .inr ⟨rfl, rfl⟩
      | succ k => simp at hk
  | cons i is ih =>
    rcases h i List.mem_cons_self v with ⟨result, hanswers⟩ | ⟨v', after, hgoes⟩
    · refine ⟨[v], rfl, fun _ hnext => ?_, fun {k u} hk _ => ?_⟩
      · simp at hnext
      · cases k with
        | zero =>
          obtain rfl := Option.some.inj hk
          exact .inl ⟨i, result, rfl, hanswers, hanswers _⟩
        | succ k => simp at hk
    · obtain ⟨visits, hfirst, hpassed, hlast⟩ :=
        ih (fun j hj => h j (List.mem_cons_of_mem _ hj)) v'
      refine ⟨v :: visits, rfl, fun {k u u'} hk hnext => ?_, fun {k u} hk hnext => ?_⟩
      · cases k with
        | zero =>
          obtain rfl := Option.some.inj hk
          obtain rfl := Option.some.inj (hfirst.symm.trans hnext)
          exact ⟨i, after, rfl, hgoes, hgoes.run_eq _⟩
        | succ k => exact hpassed hk hnext
      · cases k with
        | zero =>
          rw [List.getElem?_cons_succ, hfirst] at hnext
          cases hnext
        | succ k =>
          obtain hanswered | ⟨rfl, hserved⟩ := hlast hk hnext
          · exact .inl hanswered
          · exact .inr ⟨rfl, hserved⟩

namespace Passage

/-- Where one way goes on another one does not end. -/
theorem goes_on (h : c.Passage v visits) (h' : c.Passage v visits') {k : Nat} {u u' : Visit}
    (hk : visits[k]? = some u) (hnext : visits[k + 1]? = some u') (hk' : visits'[k]? = some u) :
    visits'[k + 1]? ≠ none := by
  intro hend
  obtain ⟨i, after, hi, hgoes, -⟩ := h.passed hk hnext
  rcases h'.last hk' hend with ⟨j, result, hj, hanswers, -⟩ | ⟨hlength, -⟩
  · obtain rfl := Option.some.inj (hi.symm.trans hj)
    exact hgoes.not_answers result hanswers
  · rw [List.getElem?_eq_none_iff.2 (Nat.le_of_eq hlength.symm)] at hi
    cases hi

theorem unique (h : c.Passage v visits) (h' : c.Passage v visits') : visits = visits' := by
  refine List.ext_getElem? fun k => ?_
  induction k with
  | zero => rw [h.first, h'.first]
  | succ k ih =>
    cases hk : visits[k]? with
    | none =>
      have hk' := ih.symm.trans hk
      rw [List.getElem?_eq_none_iff] at hk hk'
      rw [List.getElem?_eq_none (by omega), List.getElem?_eq_none (by omega)]
    | some u =>
      have hk' := ih.symm.trans hk
      cases hnext : visits[k + 1]? with
      | none =>
        cases hnext' : visits'[k + 1]? with
        | none => rfl
        | some u' => exact absurd hnext (h'.goes_on h hk' hnext' hk)
      | some u₁ =>
        cases hnext' : visits'[k + 1]? with
        | none => exact absurd hnext' (h.goes_on h' hk hnext hk')
        | some u₂ =>
          obtain ⟨i, after₁, hi, hgoes₁, -⟩ := h.passed hk hnext
          obtain ⟨j, after₂, hj, hgoes₂, -⟩ := h'.passed hk' hnext'
          obtain rfl := Option.some.inj (hi.symm.trans hj)
          rw [hgoes₁.unique hgoes₂]

theorem exists_last (h : c.Passage v visits) :
    ∃ k u, visits.length = k + 1 ∧ visits[k]? = some u ∧ visits[k + 1]? = none := by
  obtain ⟨hpos, -⟩ := List.getElem?_eq_some_iff.1 h.first
  refine ⟨visits.length - 1, visits[visits.length - 1], by omega, List.getElem?_eq_getElem _, ?_⟩
  exact List.getElem?_eq_none (by omega)

theorem length_le (h : c.Passage v visits) : visits.length ≤ c.interceptors.length + 1 := by
  obtain ⟨k, u, hlength, hk, hend⟩ := h.exists_last
  rcases h.last hk hend with ⟨i, result, hi, -⟩ | ⟨hservice, -⟩
  · obtain ⟨hlt, -⟩ := List.getElem?_eq_some_iff.1 hi
    omega
  · omega

theorem length_eq (h : c.Passage v visits)
    (hon : ∀ i ∈ c.interceptors, ∀ u result, ¬i.Answers u result) :
    visits.length = c.interceptors.length + 1 := by
  obtain ⟨k, u, hlength, hk, hend⟩ := h.exists_last
  rcases h.last hk hend with ⟨i, result, hi, hanswers, -⟩ | ⟨hservice, -⟩
  · exact absurd hanswers (hon i (List.mem_of_getElem? hi) u result)
  · omega

/-- What stands behind the last interceptor that is visited has no part in what comes of the
start. -/
theorem run_eq_of_take (h : c.Passage v visits) (hlength : visits.length ≤ c.interceptors.length)
    (htake : c'.interceptors.take visits.length = c.interceptors.take visits.length) :
    v.run c'.start = v.run c.start := by
  have hsame : ∀ k < visits.length, c'.interceptors[k]? = c.interceptors[k]? := by
    intro k hk
    rw [← List.getElem?_take_of_lt hk, htake, List.getElem?_take_of_lt hk]
  -- from the last visit back to the first one
  have hback : ∀ d k u, k + d + 1 = visits.length → visits[k]? = some u →
      u.run (c'.behind k) = u.run (c.behind k) := by
    intro d
    induction d with
    | zero =>
      intro k u hd hk
      have hend : visits[k + 1]? = none := List.getElem?_eq_none (by omega)
      rcases h.last hk hend with ⟨i, result, hi, hanswers, hresult⟩ | ⟨hservice, -⟩
      · rw [hresult, behind_eq, hsame k (by omega), hi]
        exact hanswers _
      · omega
    | succ d ih =>
      intro k u hd hk
      have hnext : visits[k + 1]? = some visits[k + 1] := List.getElem?_eq_getElem _
      obtain ⟨i, after, hi, hgoes, hresult⟩ := h.passed hk hnext
      rw [hresult, behind_eq, hsame k (by omega), hi, ← ih (k + 1) _ (by omega) hnext]
      exact hgoes.run_eq _
  obtain ⟨hpos, -⟩ := List.getElem?_eq_some_iff.1 h.first
  rw [← behind_zero, ← behind_zero]
  exact hback (visits.length - 1) 0 v (by omega) h.first

end Passage

/-- **The way through a chain.** A built chain has the interceptors that were added, in ascending
order, those of equal order as they were added. When each of them goes on at most once, there is one
way of a start through the chain. It visits the interceptors in that order, each once and with the
visit that the one before goes on with, and each is given what comes of the next visit. It ends with
the service when nobody answers by itself. Otherwise it ends with the first interceptor that does,
and what stands behind that one, the service included, has no part in it. -/
theorem build_visits (is : List Interceptor) (service : Start) (n : Label) (v : Visit) :
    let c := (build is service n).value
    (c.service = service ∧ c.interceptors.Perm is ∧
      (c.interceptors.Pairwise fun i j => i.order ≤ j.order) ∧
      ∀ o, c.interceptors.filter (·.order = o) = is.filter (·.order = o)) ∧
    ((∀ i ∈ is, i.GoesOnOnce) →
      ∃ visits, c.Passage v visits ∧ (∀ visits', c.Passage v visits' → visits' = visits) ∧
        visits.length ≤ is.length + 1 ∧
        ((∀ i ∈ is, ∀ u result, ¬i.Answers u result) → visits.length = is.length + 1) ∧
        (visits.length ≤ is.length → ∀ c' : Chain,
          c'.interceptors.take visits.length = c.interceptors.take visits.length →
          v.run c'.start = v.run c.start)) := by
  intro c
  have hperm : c.interceptors.Perm is := perm_arrange is
  refine ⟨⟨rfl, hperm, pairwise_arrange is, filter_arrange is⟩, fun honce => ?_⟩
  obtain ⟨visits, hvisits⟩ :=
    exists_passage (fun i hi => honce i (hperm.mem_iff.1 hi)) service v
  refine ⟨visits, hvisits, fun visits' h' => h'.unique hvisits, ?_, fun hon => ?_,
    fun hlength c' htake => ?_⟩
  · exact hperm.length_eq ▸ hvisits.length_le
  · exact hperm.length_eq ▸ hvisits.length_eq fun i hi => hon i (hperm.mem_iff.1 hi)
  · exact hvisits.run_eq_of_take (hperm.length_eq ▸ hlength) htake

/-- An interceptor that adds a header, and was added before the guard. -/
def signing : Interceptor :=
  InterceptorScript.interceptor ⟨"signing", 0, .addHeader (.add .empty "signed" "yes")⟩

theorem signing_not_answers (v : Visit) (result : Outcome Listener × World) :
    ¬signing.Answers v result :=
  Interceptor.not_answers_of_started fun _ => rfl

/-- The guard stands before it, and the way leads through both to the service. -/
theorem build_visits_guarded :
    let guard := Interceptor.guarding ⟨.declining, .silent⟩
    let c := (build [signing, guard] (ServiceScript.start .listen ⟨[]⟩) 0).value
    c.names = ["exception-handler", "signing"] ∧
      ∃ visits, c.Passage ⟨.transport, .empty, .fresh 1 (.fresh ⟨"svc/M", .unary⟩)⟩ visits ∧
        visits.length = 3 := by
  intro guard c
  have honce : ∀ i ∈ [signing, guard], i.GoesOnOnce := by
    rintro i (_ | ⟨_, _ | ⟨_, ⟨⟩⟩⟩)
    · exact fun v => Interceptor.goesOnOnce_following _ _ _ v
    · exact Interceptor.goesOnOnce_guarding _
  have hon : ∀ i ∈ [signing, guard], ∀ u result, ¬i.Answers u result := by
    rintro i (_ | ⟨_, _ | ⟨_, ⟨⟩⟩⟩) u result
    · exact signing_not_answers u result
    · exact Interceptor.not_answers_guarding _ u result
  have hvisited := build_visits [signing, guard] (ServiceScript.start .listen ⟨[]⟩) 0
    ⟨.transport, .empty, .fresh 1 (.fresh ⟨"svc/M", .unary⟩)⟩
  obtain ⟨visits, hvisits, -, -, hlength, -⟩ := hvisited.2 honce
  have harrange : arrange [signing, guard] = [guard, signing] := by
    have horder : ¬signing.order ≤ guard.order := by decide
    simp [arrange, List.mergeSort, horder]
  exact ⟨congrArg (List.map Interceptor.name) harrange, visits, hvisits, hlength hon⟩

end Chain

end CallGuard
