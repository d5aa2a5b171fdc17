import CallGuard.Fault.Shared
import Mathlib.Algebra.Order.BigOperators.Group.List
import Mathlib.Algebra.Order.Group.Nat

/-!
# Counted handles

The count of every cell is the number of the handles on it, those from outside and those in other
cells, and no cell is met inside itself (`Heap.Sound`). Taking further handles, giving handles up,
making a cell and changing one keep it so, each with its own effect on the handles from outside.

What is in a cell does not change as long as the cells that are met inside it do not
(`Heap.Sound.read_eq`). A cell that no other cell has a handle on is met inside no other.
-/

namespace CallGuard

namespace Heap

variable {h h' : Heap} {roots roots' ps : List Address} {p r : Address} {n : Nat} {c d : Cell}

/-! ### Handles in cells -/

theorem mem_refs : r ∈ h.refs ↔ ∃ p c, h.cell? p = some c ∧ r ∈ c.refs := by
  constructor
  · intro hr
    obtain ⟨⟨p, n, c⟩, hmem, hr⟩ := List.mem_flatMap.1 hr
    exact ⟨p, c, cell?_of_slot? ((Keyed.get?_eq_some_iff h.nodup).2 hmem), hr⟩
  · rintro ⟨p, c, hc, hr⟩
    exact List.mem_flatMap.2
      ⟨_, (Keyed.get?_eq_some_iff h.nodup).1 (slot?_of_cell? hc), hr⟩

theorem refs_subset (hsub : ∀ p c, h'.cell? p = some c → h.cell? p = some c) (hr : r ∈ h'.refs) :
    r ∈ h.refs := by
  obtain ⟨p, c, hc, hr⟩ := mem_refs.1 hr
  exact mem_refs.2 ⟨p, c, hsub p c hc, hr⟩

/-- The handles in the cell at an address. -/
def refsAt (h : Heap) (p : Address) : List Address :=
  ((h.cell? p).map Cell.refs).getD []

theorem refsAt_of_cell? (hp : h.cell? p = some c) : h.refsAt p = c.refs := by
  rw [refsAt, hp]; rfl

theorem refsAt_of_none (hp : h.slot? p = none) : h.refsAt p = [] := by
  rw [refsAt, cell?_eq_none hp]; rfl

/-- The handles in cells are those in one of them and those in the others. -/
theorem count_refs (h : Heap) (p r : Address) :
    h.refs.count r = (h.refsAt p).count r + (h.erase p).refs.count r := by
  cases hp : h.slot? p with
  | none =>
    have hcells : (h.erase p).cells = h.cells :=
      Keyed.erase_eq_self (Keyed.get?_eq_none_iff.1 hp)
    rw [refsAt_of_none hp, refs, refs, hcells, List.count_nil, Nat.zero_add]
  | some s =>
    have hperm := (Keyed.perm_erase h.nodup hp).flatMap_right fun c => c.2.2.refs
    rw [refsAt_of_cell? (cell?_of_slot? hp), refs, hperm.count_eq, List.flatMap_cons,
      List.count_append]
    rfl

theorem count_refs_set (h : Heap) (p r : Address) (n : Nat) (c : Cell) :
    (h.set p n c).refs.count r = c.refs.count r + (h.erase p).refs.count r := by
  have hcell : (h.set p n c).cell? p = some c := by rw [cell?_set, if_pos rfl]
  have hcells : ((h.set p n c).erase p).cells = (h.erase p).cells := Keyed.erase_alter ..
  rw [count_refs _ p, refsAt_of_cell? hcell, refs, refs, hcells]

/-! ### Sound counts -/

/-- The counts are right for some handles from outside, and no cell is met inside itself. -/
structure Sound (h : Heap) (roots : List Address) : Prop where
  /-- Each count is the number of the handles from outside and of those in cells. -/
  counted : ∀ p, h.count p = roots.count p + h.refs.count p
  /-- What a cell has handles on is less deep than the cell. -/
  ranked : ∃ depth : Address → Nat, ∀ p c, h.cell? p = some c → ∀ r ∈ c.refs, depth r < depth p

namespace Sound

theorem empty : Heap.empty.Sound [] where
  counted _ := rfl
  ranked := ⟨fun _ => 0, fun _ _ hc => by cases hc⟩

variable (hs : h.Sound roots)
include hs

theorem perm (hperm : roots.Perm roots') : h.Sound roots' where
  counted p := by rw [hs.counted, hperm.count_eq]
  ranked := hs.ranked

theorem live (hr : r ∈ roots ++ h.refs) : ∃ c, h.cell? r = some c := by
  have hpos := List.count_pos_iff.2 hr
  rw [List.count_append, ← hs.counted] at hpos
  cases hslot : h.slot? r with
  | none => rw [count_eq_zero hslot] at hpos; omega
  | some s => exact ⟨s.2, cell?_of_slot? hslot⟩

theorem unused (hp : h.slot? p = none) : p ∉ roots ∧ p ∉ h.refs := by
  have hcount := hs.counted p
  rw [count_eq_zero hp] at hcount
  exact ⟨List.count_eq_zero.1 (by omega), List.count_eq_zero.1 (by omega)⟩

/-- Another count stands for other handles from outside. -/
theorem recount (hp : h.cell? p = some c)
    (hcount : ∀ r, (if r = p then n else h.count r) + roots.count r =
      h.count r + roots'.count r) : (h.set p n c).Sound roots' where
  counted r := by
    have hrefs := count_refs h p r
    rw [refsAt_of_cell? hp] at hrefs
    rw [count_set, count_refs_set]
    have := hs.counted r
    have := hcount r
    omega
  ranked := by
    obtain ⟨depth, hdepth⟩ := hs.ranked
    refine ⟨depth, fun r d hd => hdepth r d ?_⟩
    rw [cell?_set] at hd
    split at hd
    · rename_i hr
      rwa [hr, hp]
    · exact hd

/-- A cell that no cell has a handle on can be given any handles that come from outside. -/
theorem set (hp : p ∉ h.refs) (hc : p ∉ c.refs)
    (hcount : ∀ r, (if r = p then n else h.count r) + roots.count r + (h.refsAt p).count r =
      h.count r + roots'.count r + c.refs.count r) : (h.set p n c).Sound roots' where
  counted r := by
    have hrefs := count_refs h p r
    rw [count_set, count_refs_set]
    have := hs.counted r
    have := hcount r
    omega
  ranked := by
    obtain ⟨depth, hdepth⟩ := hs.ranked
    -- the changed cell is put above all that it has handles on
    refine ⟨fun r => if r = p then (c.refs.map depth).sum + 1 else depth r, fun r d hd t ht => ?_⟩
    rw [cell?_set] at hd
    split at hd
    · rename_i hr
      cases hd
      have hne : t ≠ p := fun h => hc (h ▸ ht)
      have hle : depth t ≤ (c.refs.map depth).sum :=
        List.le_sum_of_mem (List.mem_map_of_mem ht)
      simp only [if_neg hne, if_pos hr]
      omega
    · rename_i hr
      have hne : t ≠ p := fun h => hp (h ▸ mem_refs.2 ⟨r, d, hd, ht⟩)
      simp only [if_neg hne, if_neg hr]
      exact hdepth r d hd t ht

/-- A cell goes away, and its handles come from outside now. -/
theorem erase {rest : List Address} (hroots : roots = p :: rest)
    (hp : h.slot? p = some (n, c)) (hn : n ≤ 1) : (h.erase p).Sound (c.refs ++ rest) where
  counted r := by
    have hrefs := count_refs h p r
    rw [refsAt_of_cell? (cell?_of_slot? hp)] at hrefs
    have hr := hs.counted r
    rw [count_erase, List.count_append]
    subst hroots
    rw [List.count_cons] at hr
    split
    · rename_i hrp
      subst hrp
      rw [count_of_slot? hp, beq_self_eq_true, if_pos rfl] at hr
      omega
    · rename_i hrp
      rw [if_neg (by simpa using Ne.symm hrp)] at hr
      omega
  ranked := by
    obtain ⟨depth, hdepth⟩ := hs.ranked
    refine ⟨depth, fun r d hd => hdepth r d ?_⟩
    rw [cell?_erase] at hd
    split at hd
    · cases hd
    · exact hd

end Sound

/-! ### Taking handles and giving them up -/

theorem cell?_retain (ps : List Address) (h : Heap) (r : Address) :
    (h.retain ps).cell? r = h.cell? r := by
  induction ps generalizing h with
  | nil => rfl
  | cons p ps ih =>
    rw [retain]
    split
    · rename_i n c hp
      rw [ih, cell?_set]
      split
      · rename_i hr
        rw [hr, cell?_of_slot? hp]
      · rfl
    · exact ih h

theorem Sound.retain (hs : h.Sound roots) (hps : ∀ p ∈ ps, ∃ c, h.cell? p = some c) :
    (h.retain ps).Sound (ps ++ roots) := by
  induction ps generalizing h roots with
  | nil => exact hs
  | cons p ps ih =>
    obtain ⟨c, hp⟩ := hps p List.mem_cons_self
    have hset : (h.set p (h.count p + 1) c).Sound (p :: roots) :=
      hs.recount hp fun r => by
        rw [List.count_cons]
        by_cases hr : r = p
        · subst hr
          simp
          omega
        · simp [hr, Ne.symm hr]
    rw [Heap.retain, slot?_of_cell? hp]
    refine (ih hset fun r hr => ?_).perm List.perm_middle
    obtain ⟨d, hd⟩ := hps r (List.mem_cons_of_mem p hr)
    rw [cell?_set]
    split
    · exact ⟨c, rfl⟩
    · exact ⟨d, hd⟩

theorem cell?_of_release (hr : (h.release ps).cell? r = some d) : h.cell? r = some d := by
  induction ps, h using release.induct with
  | case1 h => rwa [release] at hr
  | case2 p ps h n c hp hn ih =>
    rw [release, hp] at hr
    simp only [if_pos hn] at hr
    have herase := ih hr
    rw [cell?_erase] at herase
    split at herase
    · cases herase
    · exact herase
  | case3 p ps h n c hp hn ih =>
    rw [release, hp] at hr
    simp only [if_neg hn] at hr
    have hset := ih hr
    rw [cell?_set] at hset
    split at hset
    · rename_i hrp
      rwa [hrp, cell?_of_slot? hp]
    · exact hset
  | case4 p ps h hp ih =>
    rw [release, hp] at hr
    exact ih hr

theorem Sound.release (hs : h.Sound (ps ++ roots)) : (h.release ps).Sound roots := by
  induction ps, h using release.induct with
  | case1 h => rwa [Heap.release]
  | case2 p ps h n c hp hn ih =>
    rw [Heap.release, hp]
    simp only [if_pos hn]
    refine ih ?_
    rw [List.append_assoc]
    exact hs.erase rfl hp hn
  | case3 p ps h n c hp hn ih =>
    rw [Heap.release, hp]
    simp only [if_neg hn]
    refine ih (hs.recount (cell?_of_slot? hp) fun r => ?_)
    rw [List.cons_append, List.count_cons]
    by_cases hr : r = p
    · subst hr
      rw [count_of_slot? hp]
      simp
      omega
    · simp [hr, Ne.symm hr]
  | case4 p ps h hp ih =>
    exact absurd List.mem_cons_self (hs.unused hp).1

theorem Sound.cell?_release (hs : h.Sound (ps ++ roots)) (hr : r ∈ roots ++ (h.release ps).refs) :
    (h.release ps).cell? r = h.cell? r := by
  obtain ⟨c, hc⟩ := hs.release.live hr
  rw [hc, cell?_of_release hc]

/-! ### What is in a cell -/

variable {label label' : Address → Label}

theorem read_of_cell? (hp : h.cell? p = some c) :
    h.read label p = c.content (label p) fun r => (h.erase p).read label r := by
  rw [read]
  split
  · rename_i d hd
    rw [hp, Option.some.injEq] at hd
    rw [hd]
  · rename_i hnone
    rw [hp] at hnone
    cases hnone

theorem read_of_none (hp : h.cell? p = none) : h.read label p = .plain "" none := by
  rw [read]
  split
  · rename_i d hd
    rw [hp] at hd
    cases hd
  · rfl

/-- The same is in a cell if the same cells are met inside it. -/
theorem read_congr (depth : Address → Nat) (S : Address → Prop)
    (hS : ∀ r, S r → depth r ≤ depth p → label r = label' r ∧ h.cell? r = h'.cell? r ∧
      ∀ c, h.cell? r = some c → ∀ t ∈ c.refs, S t ∧ depth t < depth r)
    (hp : S p) : h.read label p = h'.read label' p := by
  induction hd : depth p using Nat.strong_induction_on generalizing h h' p with
  | _ d ih =>
    subst hd
    obtain ⟨hlabel, hcell, hrefs⟩ := hS p hp (le_refl _)
    cases hc : h.cell? p with
    | none => rw [read_of_none hc, read_of_none (hcell ▸ hc)]
    | some c =>
      rw [read_of_cell? hc, read_of_cell? (hcell ▸ hc), hlabel]
      refine Cell.content_congr fun r hr => ?_
      obtain ⟨hSr, hlt⟩ := hrefs c hc r hr
      refine ih (depth r) hlt (fun t ht hle => ?_) hSr rfl
      -- a cell that is less deep is not the one that was taken out
      have hne : t ≠ p := fun h => by rw [h] at hle; omega
      obtain ⟨hlabel, hcell, hrefs⟩ := hS t ht (by omega)
      rw [cell?_erase, cell?_erase, if_neg hne, if_neg hne]
      exact ⟨hlabel, hcell, hrefs⟩

namespace Sound

/-- What is in a cell is made of what is in the cells that it has handles on. -/
theorem read_eq_content (hs : h.Sound roots) (hp : h.cell? p = some c) :
    h.read label p = c.content (label p) (h.read label) := by
  obtain ⟨depth, hdepth⟩ := hs.ranked
  rw [read_of_cell? hp]
  refine Cell.content_congr fun r hr => ?_
  have hlt := hdepth p c hp r hr
  refine read_congr depth (fun t => depth t < depth p)
    (fun t ht _ => ⟨rfl, ?_, fun d hd u hu => ?_⟩) hlt
  · rw [cell?_erase, if_neg fun h => Nat.lt_irrefl _ (h ▸ ht)]
  · rw [cell?_erase, if_neg fun h => Nat.lt_irrefl _ (h ▸ ht)] at hd
    have hlt := hdepth t d hd u hu
    exact ⟨Nat.lt_trans hlt ht, hlt⟩

/-- When some cells are changed or made that no cell has a handle on, the others hold the same as
before. -/
theorem read_eq (hs : h'.Sound roots) (Q : Address → Prop) (hQ : ∀ q, Q q → q ∉ h'.refs)
    (hsub : ∀ r c, ¬Q r → h'.cell? r = some c → h.cell? r = some c)
    (hlabel : ∀ r, ¬Q r → label' r = label r) (hr : ¬Q r) (hlive : r ∈ roots ++ h'.refs) :
    h'.read label' r = h.read label r := by
  obtain ⟨depth, hdepth⟩ := hs.ranked
  refine read_congr depth (fun t => ¬Q t ∧ t ∈ roots ++ h'.refs)
    (fun t ht _ => ⟨hlabel t ht.1, ?_, fun c hc u hu => ?_⟩) ⟨hr, hlive⟩
  · obtain ⟨c, hc⟩ := hs.live ht.2
    rw [hc, hsub t c ht.1 hc]
  · have hmem : u ∈ h'.refs := mem_refs.2 ⟨t, c, hc, hu⟩
    exact ⟨⟨fun hu => hQ u hu hmem, List.mem_append_right _ hmem⟩, hdepth t c hc u hu⟩

theorem read_retain (hs : h.Sound roots) (ps : List Address) :
    (h.retain ps).read label = h.read label := by
  obtain ⟨depth, hdepth⟩ := hs.ranked
  refine funext fun r => read_congr depth (fun _ => True)
    (fun t _ _ => ⟨rfl, cell?_retain .., fun c hc u hu => ⟨trivial, ?_⟩⟩) trivial
  rw [cell?_retain] at hc
  exact hdepth t c hc u hu

theorem read_release (hs : h.Sound (ps ++ roots)) (hr : r ∈ roots ++ (h.release ps).refs) :
    (h.release ps).read label r = h.read label r :=
  hs.release.read_eq (fun _ => False) (fun _ hq => hq.elim)
    (fun _ _ _ hc => cell?_of_release hc) (fun _ _ => rfl) id hr

end Sound

/-! ### Cells that no cell has a handle on -/

theorem not_mem_refs_set (hp : p ∉ h.refs) (hc : p ∉ c.refs) : p ∉ (h.set p n c).refs := by
  have hrefs := count_refs h p p
  rw [List.count_eq_zero.2 hp] at hrefs
  rw [← List.count_eq_zero, count_refs_set, List.count_eq_zero.2 hc]
  omega

namespace Sound

variable (hs : (h.set p n c).Sound roots) (hp : p ∉ h.refs) (hc : p ∉ c.refs)
  (hlabel : ∀ r, r ≠ p → label' r = label r)
include hs hp hc hlabel

theorem read_set (hr : r ≠ p) (hlive : r ∈ roots ++ (h.set p n c).refs) :
    (h.set p n c).read label' r = h.read label r :=
  hs.read_eq (· = p) (fun q hq => by subst hq; exact not_mem_refs_set hp hc)
    (fun r d hr hd => by rwa [cell?_set, if_neg hr] at hd) hlabel hr hlive

theorem read_set_self : (h.set p n c).read label' p = c.content (label' p) (h.read label) := by
  have hcell : (h.set p n c).cell? p = some c := by rw [cell?_set, if_pos rfl]
  rw [hs.read_eq_content hcell]
  refine Cell.content_congr fun r hr => hs.read_set hp hc hlabel (fun h => hc (h ▸ hr)) ?_
  exact List.mem_append_right _ (mem_refs.2 ⟨p, c, hcell, hr⟩)

end Sound

end Heap

end CallGuard
