import CallGuard.Keyed
import CallGuard.Kind

/-!
# Hierarchies of kinds

A hierarchy gives kinds their parents. A kind may have several parents, a kind without declared
parents has the root `Kind.any` as its only parent, and the root has none.

* `Hierarchy.parents` is the parent relation, total on all kinds, declared or not;
* `Hierarchy.ancestors` lists what can be reached from a kind over parents, nearest first, each
  ancestor once and with its distance;
* `Hierarchy.distance` and `Hierarchy.isAssignable` read that list.

The search goes by layers: a layer is what the kinds of the layer before have for parents, without
what was met already. It ends on every table of parents, also on one with a cycle, because each
layer but the last takes at least one kind out of a finite supply (`Hierarchy.supply`).
-/

namespace CallGuard

/-- The declared kinds with their declared parents, in the order of their first declaration. -/
structure Hierarchy where
  /-- Each declared kind with its parents. -/
  declared : List (Kind × List Kind)
  /-- No kind stands twice. -/
  nodup : (declared.map Prod.fst).Nodup

namespace Hierarchy

/-- Nothing is declared. -/
def empty : Hierarchy := ⟨[], List.nodup_nil⟩

variable (h : Hierarchy)

/-- The declared parents of a kind. -/
def parents? (k : Kind) : Option (List Kind) :=
  Keyed.get? k h.declared

/-- The parents of a kind. -/
def parents (k : Kind) : List Kind :=
  if k = Kind.any then []
  else match h.parents? k with
    | some (p :: ps) => p :: ps
    | _ => [Kind.any]

/-- The kind is declared. -/
def isDeclared (k : Kind) : Bool :=
  (h.parents? k).isSome

/-- The number of declared kinds. -/
def size : Nat :=
  h.declared.length

/-- All kinds that can be a parent. -/
def supply : List Kind :=
  Kind.any :: h.declared.flatMap (·.2)

theorem mem_parents {k p : Kind} (hp : p ∈ h.parents k) :
    (∃ ps, (k, ps) ∈ h.declared ∧ p ∈ ps) ∨ p = Kind.any := by
  unfold parents at hp
  split at hp
  · exact absurd hp List.not_mem_nil
  · split at hp
    · next q qs hk => exact .inl ⟨_, (Keyed.get?_eq_some_iff h.nodup).1 hk, hp⟩
    · exact .inr (List.mem_singleton.1 hp)

theorem mem_supply_of_mem_parents {k p : Kind} (hp : p ∈ h.parents k) : p ∈ h.supply := by
  rcases h.mem_parents hp with ⟨ps, hps, hmem⟩ | rfl
  · exact List.mem_cons_of_mem _ (List.mem_flatMap.2 ⟨_, hps, hmem⟩)
  · exact List.mem_cons_self

/-! ### Layers -/

/-- The layer after `frontier`: its parents in order, each once, without what was `met`. -/
def nextLayer (met frontier : List Kind) : List Kind :=
  ((frontier.flatMap h.parents).filter (· ∉ met)).eraseDups

theorem mem_nextLayer {met frontier : List Kind} {k : Kind} :
    k ∈ h.nextLayer met frontier ↔ (∃ c ∈ frontier, k ∈ h.parents c) ∧ k ∉ met := by
  simp [nextLayer, List.mem_eraseDups]

/-- The kinds of the supply that were not met yet. -/
def unmet (met : List Kind) : List Kind :=
  h.supply.filter (· ∉ met)

theorem length_filter_lt {α : Type} {p q : α → Bool} {l : List α} (hqp : ∀ a, q a → p a)
    {a : α} (ha : a ∈ l) (hp : p a) (hq : q a = false) :
    (l.filter q).length < (l.filter p).length := by
  induction l with
  | nil => simp at ha
  | cons b l ih =>
    have hle : (l.filter q).length ≤ (l.filter p).length := by
      simpa [List.countP_eq_length_filter] using
        List.countP_mono_left (l := l) fun a _ => hqp a
    rcases List.mem_cons.1 ha with rfl | ha
    · simp [hp, hq]; omega
    · have := ih ha
      cases hb : q b with
      | true => simp [hb, hqp b hb, this]
      | false => cases hb' : p b <;> simp [hb, hb'] <;> omega

theorem unmet_lt {met frontier : List Kind} (hne : h.nextLayer met frontier ≠ []) :
    (h.unmet (met ++ h.nextLayer met frontier)).length < (h.unmet met).length := by
  obtain ⟨k, hk⟩ := List.exists_mem_of_ne_nil _ hne
  obtain ⟨⟨c, _, hp⟩, hm⟩ := h.mem_nextLayer.1 hk
  refine length_filter_lt (a := k) ?_ (h.mem_supply_of_mem_parents hp) (by simpa using hm) ?_
  · intro a ha
    simp only [List.mem_append, not_or, decide_eq_true_eq] at ha ⊢
    exact ha.1
  · simp [hk]

/-- The kinds reached after the layer `frontier`, which lies at distance `n`; `met` holds that
layer and all before it. -/
def search (met frontier : List Kind) (n : Nat) : List (Kind × Nat) :=
  if h.nextLayer met frontier = [] then []
  else (h.nextLayer met frontier).map (·, n + 1) ++
    search (met ++ h.nextLayer met frontier) (h.nextLayer met frontier) (n + 1)
termination_by (h.unmet met).length
decreasing_by exact h.unmet_lt ‹_›

/-- What can be reached from a kind over parents, each ancestor with its distance: the kind
itself at distance zero, then its parents, and so on, nearest first. -/
def ancestors (k : Kind) : List (Kind × Nat) :=
  (k, 0) :: h.search [k] [k] 0

/-- The number of steps from a kind up to one of its ancestors. -/
def distance (ancestor k : Kind) : Option Nat :=
  ((h.ancestors k).find? (·.1 = ancestor)).map (·.2)

/-- A value of kind `k` may stand where one of kind `ancestor` is asked for. -/
def isAssignable (ancestor k : Kind) : Bool :=
  (h.distance ancestor k).isSome

/-- The text that shows a hierarchy for inspection. -/
def inspect : String :=
  Text.recordText "TypeHierarchy"
    [("parents", Text.mapText (h.declared.map fun d =>
      (d.1.inspect, Text.listText (d.2.map Kind.inspect))))]

end Hierarchy

end CallGuard
