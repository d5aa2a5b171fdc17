import CallGuard.Proofs.Fault.Sharing

/-!
# Making and changing shared faults

A fault that is made or changed is in a cell that no other handle is on, whether that cell is a new
one or was there before (`Heap.Makes`). What is behind the other handles stays as it was, although
it may be met inside the fault.

* `Heap.Sound.detach` : a handle on a cell of its own;
* `Heap.Sound.change`, `Heap.Sound.build`, `Heap.Sound.create` : what comes of a change, and of
  making a fault.
-/

namespace CallGuard

namespace Heap

variable {h : Heap} {roots : List Address} {p : Address} {c : Cell} {made : Heap × Address}
  (al : Allocator)

/-! ### Making a cell -/

/-- A handle on a new cell. The handles in the cell are handed over. -/
structure Placed (h : Heap) (roots : List Address) (c : Cell) (made : Heap × Address) : Prop where
  sound : made.1.Sound (made.2 :: roots)
  /-- There is no other handle on the cell. -/
  alone : made.2 ∉ roots ++ made.1.refs
  /-- The other cells are as they were. -/
  cell : ∀ r, made.1.cell? r = if r = made.2 then some c else h.cell? r
  read : ∀ {label label'}, (∀ r, r ≠ made.2 → label' r = label r) →
    ∀ r ∈ c.refs ++ roots ++ h.refs, made.1.read label' r = h.read label r
  read_self : ∀ {label label'}, (∀ r, r ≠ made.2 → label' r = label r) →
    made.1.read label' made.2 = c.content (label' made.2) (h.read label)

theorem Sound.allocate (hs : h.Sound (c.refs ++ roots)) :
    Placed h roots c (h.allocate al c) := by
  have hslot := al.unused h
  rw [Heap.allocate]
  generalize al.address h = q at hslot ⊢
  obtain ⟨hout, hrefs⟩ := hs.unused hslot
  rw [List.mem_append, not_or] at hout
  obtain ⟨hc, hroots⟩ := hout
  have hsound : (h.set q 1 c).Sound (q :: roots) := by
    refine hs.set hrefs hc fun r => ?_
    rw [refsAt_of_none hslot, List.count_append, List.count_cons, List.count_nil]
    by_cases hr : r = q
    · rw [if_pos hr, hr, count_eq_zero hslot, beq_self_eq_true, if_pos rfl]
      omega
    · rw [if_neg hr, if_neg (by simpa using Ne.symm hr)]
      omega
  have hcell : (h.set q 1 c).cell? q = some c := by rw [cell?_set, if_pos rfl]
  exact {
    sound := hsound
    alone := by
      rw [List.mem_append, not_or]
      exact ⟨hroots, not_mem_refs_set hrefs hc⟩
    cell := fun r => cell?_set ..
    read := fun hlabel r hr => by
      rw [List.mem_append, List.mem_append] at hr
      have hne : r ≠ q := by
        rintro rfl
        exact hr.elim (fun hr => hr.elim hc hroots) hrefs
      refine hsound.read_set hrefs hc hlabel hne ?_
      obtain (hr | hr) | hr := hr
      · exact List.mem_append_right _ (mem_refs.2 ⟨q, c, hcell, hr⟩)
      · exact List.mem_append_left _ (List.mem_cons_of_mem _ hr)
      · obtain ⟨t, d, hd, hr⟩ := mem_refs.1 hr
        have hne : t ≠ q := fun h => by
          rw [h, cell?_eq_none hslot] at hd
          cases hd
        exact List.mem_append_right _ (mem_refs.2 ⟨t, d, by rwa [cell?_set, if_neg hne], hr⟩)
    read_self := fun hlabel => hsound.read_set_self hrefs hc hlabel }

/-! ### Detaching -/

/-- A handle on a cell of its own, in place of one on a cell that holds the same. -/
structure Detached (h : Heap) (roots : List Address) (p : Address) (c : Cell)
    (made : Heap × Address) : Prop where
  sound : made.1.Sound (made.2 :: roots)
  /-- There is no other handle on the cell. -/
  alone : made.2 ∉ roots ++ made.1.refs
  /-- It holds the same. -/
  cell : made.1.cell? made.2 = some c
  /-- The other cells are as they were. -/
  old : ∀ r d, r ≠ made.2 → made.1.cell? r = some d → h.cell? r = some d
  read : ∀ label, ∀ r ∈ roots ++ c.refs, made.1.read label r = h.read label r
  /-- The cell stays in its place if there was no other handle on it. -/
  place : p ∉ roots ++ h.refs → made.2 = p

theorem Sound.copyOut (hs : h.Sound (p :: roots)) (hn : p ∈ roots ++ h.refs)
    (hnew : Placed (h.retain c.refs) (p :: roots) c made) :
    Detached h roots p c (made.1.release [p], made.2) := by
  have halone := hnew.alone
  rw [List.cons_append, List.mem_cons, not_or, List.mem_append, not_or] at halone
  have hrelease : made.1.Sound ([p] ++ made.2 :: roots) := hnew.sound.perm (.swap ..)
  have hcell : (made.1.release [p]).cell? made.2 = some c := by
    rw [hrelease.cell?_release (List.mem_append_left _ List.mem_cons_self), hnew.cell, if_pos rfl]
  exact {
    sound := hrelease.release
    alone := by
      rw [List.mem_append, not_or]
      exact ⟨halone.2.1, fun hr => halone.2.2 (refs_subset (fun _ _ => cell?_of_release) hr)⟩
    cell := hcell
    old := fun r d hr hd => by
      have hold := cell?_of_release hd
      rwa [hnew.cell, if_neg hr, cell?_retain] at hold
    read := fun label r hr => by
      have hlive : r ∈ (made.2 :: roots) ++ (made.1.release [p]).refs :=
        (List.mem_append.1 hr).elim
          (fun hr => List.mem_append_left _ (List.mem_cons_of_mem _ hr))
          fun hr => List.mem_append_right _ (mem_refs.2 ⟨made.2, c, hcell, hr⟩)
      have hold : r ∈ c.refs ++ p :: roots ++ (h.retain c.refs).refs :=
        List.mem_append_left _ ((List.mem_append.1 hr).elim
          (fun hr => List.mem_append_right _ (List.mem_cons_of_mem _ hr))
          fun hr => List.mem_append_left _ hr)
      rw [hrelease.read_release hlive, hnew.read (fun _ _ => rfl) r hold, hs.read_retain]
    place := fun hplace => absurd hn hplace }

theorem Sound.detach (hs : h.Sound (p :: roots)) (hp : h.cell? p = some c) :
    Detached h roots p c (h.detach al p) := by
  have hcount := hs.counted p
  rw [List.count_cons_self] at hcount
  rw [Heap.detach, slot?_of_cell? hp]
  dsimp only
  split
  · -- the only handle
    have halone : p ∉ roots ++ h.refs := by
      rw [← List.count_eq_zero, List.count_append]
      omega
    exact ⟨hs, halone, hp, fun _ _ _ hd => hd, fun _ _ _ => rfl, fun _ => rfl⟩
  · have hshared : p ∈ roots ++ h.refs := by
      rw [← List.count_pos_iff, List.count_append]
      omega
    have hretain := hs.retain fun r hr =>
      hs.live (List.mem_append_right _ (mem_refs.2 ⟨p, c, hp, hr⟩))
    exact hs.copyOut hshared (hretain.allocate al)

/-! ### Making and changing faults -/

/-- A handle on a fault that is in a cell of its own. The fault is told but for its label. -/
structure Makes (h : Heap) (roots : List Address) (f : (Address → Label) → Fault)
    (made : Heap × Address) : Prop where
  sound : made.1.Sound (made.2 :: roots)
  /-- There is no other handle on the cell. -/
  alone : made.2 ∉ roots ++ made.1.refs
  fault : ∃ i, made.1.cell? made.2 = some (.fault i)
  /-- All other faults were there before. -/
  old : ∀ r i, r ≠ made.2 → made.1.cell? r = some (.fault i) → h.cell? r = some (.fault i)
  /-- The cells behind the other handles are as they were. -/
  cell : ∀ r ∈ roots, made.1.cell? r = h.cell? r
  read : ∀ {label label'}, (∀ r, r ≠ made.2 → label' r = label r) →
    ∀ r ∈ roots, made.1.read label' r = h.read label r
  read_self : ∀ {label label'}, (∀ r, r ≠ made.2 → label' r = label r) →
    made.1.read label' made.2 = .fault { f label with label := label' made.2 }

variable {q b : Address} {n : Nat} {i : Inner} (edit : Edit) {e : Boxed}

/-- An error is put into a fault that no other handle is on. -/
theorem Sound.insert (hs : h.Sound (q :: b :: roots)) (halone : q ∉ b :: roots ++ h.refs)
    (hq : h.slot? q = some (n, .fault i)) :
    Makes h roots (fun label => edit.fault (i.content (label q) (h.read label)) (h.read label b))
      ((h.set q n (.fault (edit.inner i b))).release (edit.dropped i), q) := by
  rw [List.cons_append, List.mem_cons, not_or, List.mem_append, not_or] at halone
  obtain ⟨hqb, hroots, hrefs⟩ := halone
  have hcell := cell?_of_slot? hq
  have hinner : q ∉ (Cell.fault (edit.inner i b)).refs := fun hmem => by
    have hmem := (edit.perm i b).mem_iff.1 (List.mem_append_right _ hmem)
    exact (List.mem_cons.1 hmem).elim hqb fun hmem => hrefs (mem_refs.2 ⟨q, _, hcell, hmem⟩)
  have hset : (h.set q n (.fault (edit.inner i b))).Sound (edit.dropped i ++ q :: roots) := by
    refine hs.set hrefs hinner fun r => ?_
    have hperm := (edit.perm i b).count_eq r
    have hcount : (if r = q then n else h.count r) = h.count r := by
      split
      · rename_i hr
        rw [hr, count_of_slot? hq]
      · rfl
    rw [List.count_append, List.count_cons] at hperm
    rw [refsAt_of_cell? hcell, hcount, List.count_append, List.count_cons, List.count_cons,
      List.count_cons, Cell.refs, Cell.refs]
    omega
  have hmem : ∀ r ∈ roots, r ∈ q :: roots := fun r hr => List.mem_cons_of_mem q hr
  have hne : ∀ r ∈ roots, r ≠ q := fun r hr h => hroots (h ▸ hr)
  exact {
    sound := hset.release
    alone := by
      rw [List.mem_append, not_or]
      exact ⟨hroots, fun hr => not_mem_refs_set hrefs hinner
        (refs_subset (fun _ _ => cell?_of_release) hr)⟩
    fault := ⟨edit.inner i b, by
      rw [hset.cell?_release (List.mem_append_left _ List.mem_cons_self), cell?_set, if_pos rfl]⟩
    old := fun r j hr hj => by
      have hset := cell?_of_release hj
      rwa [cell?_set, if_neg hr] at hset
    cell := fun r hr => by
      rw [hset.cell?_release (List.mem_append_left _ (hmem r hr)), cell?_set, if_neg (hne r hr)]
    read := fun hlabel r hr => by
      rw [hset.read_release (List.mem_append_left _ (hmem r hr))]
      exact hset.read_set hrefs hinner hlabel (hne r hr)
        (List.mem_append_left _ (List.mem_append_right _ (hmem r hr)))
    read_self := fun {label label'} hlabel => by
      rw [hset.read_release (List.mem_append_left _ List.mem_cons_self),
        hset.read_set_self hrefs hinner hlabel, Cell.content, edit.content, ← edit.relabel]
      rfl }

/-- What comes of putting an error into the fault behind a handle. It stays in its place if there was
no other handle on it. -/
theorem Sound.put (hs : h.Sound (p :: b :: roots)) (hp : h.cell? p = some (.fault i)) :
    Makes h roots (fun label => edit.fault (i.content (label p) (h.read label)) (h.read label b))
      (h.put al p edit b) ∧
    (p ∉ b :: roots ++ h.refs → (h.put al p edit b).2 = p) := by
  have hdetach := hs.detach al hp
  rw [Heap.put]
  generalize h.detach al p = alone at hdetach ⊢
  have hslot := slot?_of_cell? hdetach.cell
  rw [hslot]
  have hinsert := hdetach.sound.insert edit hdetach.alone hslot
  dsimp only at hinsert ⊢
  generalize (alone.1.set alone.2 _ _).release _ = h' at hinsert ⊢
  refine ⟨?_, hdetach.place⟩
  exact {
    sound := hinsert.sound
    alone := hinsert.alone
    fault := hinsert.fault
    old := fun r j hr hj => hdetach.old r _ hr (hinsert.old r j hr hj)
    cell := fun r hr => by
      obtain ⟨d, hd⟩ := hinsert.sound.live (List.mem_append_left _ (List.mem_cons_of_mem _ hr))
      have hne : r ≠ alone.2 := fun h => hinsert.alone (List.mem_append_left _ (h ▸ hr))
      rw [hd, hdetach.old r d hne ((hinsert.cell r hr).symm.trans hd)]
    read := fun hlabel r hr => by
      rw [hinsert.read hlabel r hr, hdetach.read _ r]
      exact List.mem_append_left _ (List.mem_cons_of_mem b hr)
    read_self := fun {label label'} hlabel => by
      have hcontent : i.content (label' alone.2) (alone.1.read label) =
          i.content (label' alone.2) (h.read label) :=
        Inner.content_congr fun r hr => hdetach.read label r (List.mem_append_right _ hr)
      have hb : alone.1.read label b = h.read label b :=
        hdetach.read label b (List.mem_append_left _ List.mem_cons_self)
      rw [hinsert.read_self hlabel, hb, ← edit.relabel, ← edit.relabel]
      exact congrArg (fun f => Cause.fault (edit.fault f (h.read label b))) hcontent }

/-- An error in a cell of its own was no fault held before. -/
theorem Makes.behind {roots' : List Address} {box : Heap × Address}
    {f g : (Address → Label) → Fault} (hm : Makes box.1 roots f made)
    (hbox : Placed h roots' (.error e) box) (hroots : ∀ r ∈ roots, r ∈ roots')
    (hf : ∀ label, f label = g label) : Makes h roots g made := by
  have hcell : ∀ r, r ≠ box.2 → box.1.cell? r = h.cell? r := fun r hr => by
    rw [hbox.cell, if_neg hr]
  exact {
    sound := hm.sound
    alone := hm.alone
    fault := hm.fault
    old := fun r j hr hj => by
      have hj := hm.old r j hr hj
      by_cases hbr : r = box.2
      · rw [hbox.cell, if_pos hbr] at hj
        cases hj
      · exact (hcell r hbr).symm.trans hj
    cell := fun r hr => by
      rw [hm.cell r hr, hcell]
      rintro rfl
      exact hbox.alone (List.mem_append_left _ (hroots _ hr))
    read := fun hlabel r hr => by
      rw [hm.read hlabel r hr, hbox.read (fun _ _ => rfl)]
      exact List.mem_append_left _ (List.mem_append_right _ (hroots r hr))
    read_self := fun hlabel => by rw [hm.read_self hlabel, hf] }

theorem Sound.change (hs : h.Sound (p :: (e.refs ++ roots))) (hp : h.cell? p = some (.fault i)) :
    Makes h roots
      (fun label => edit.fault (i.content (label p) (h.read label)) (e.content (h.read label)))
      (h.change al p edit e) ∧
    (p ∉ e.refs ++ roots ++ h.refs → (h.change al p edit e).2 = p) := by
  have hbox : Placed h (p :: roots) (.error e) (h.allocate al (.error e)) :=
    Sound.allocate al (hs.perm List.perm_middle.symm)
  rw [Heap.change]
  generalize h.allocate al (.error e) = box at hbox ⊢
  have hbp : box.2 ≠ p := fun h => hbox.alone (List.mem_append_left _ (h ▸ List.mem_cons_self))
  have hp' : box.1.cell? p = some (.fault i) := by rw [hbox.cell, if_neg hbp.symm, hp]
  obtain ⟨hput, hplace⟩ := (hbox.sound.perm (.swap ..)).put al edit hp'
  refine ⟨hput.behind hbox (fun r hr => List.mem_cons_of_mem p hr) fun label => ?_, fun hout => ?_⟩
  · have hcontent : i.content (label p) (box.1.read label) = i.content (label p) (h.read label) :=
      Inner.content_congr fun r hr => hbox.read (fun _ _ => rfl) r
        (List.mem_append_right _ (mem_refs.2 ⟨p, _, hp, hr⟩))
    rw [hcontent, hbox.read_self fun _ _ => rfl]
    rfl
  · rw [List.mem_append, List.mem_append, not_or, not_or] at hout
    refine hplace fun hmem => ?_
    rw [List.cons_append, List.mem_cons, List.mem_append] at hmem
    obtain h | hmem | hmem := hmem
    · exact hbp h.symm
    · exact hout.1.2 hmem
    · obtain ⟨t, c, hc, hmem⟩ := mem_refs.1 hmem
      rw [hbox.cell] at hc
      split at hc
      · cases hc
        exact hout.1.1 hmem
      · exact hout.2 (mem_refs.2 ⟨t, c, hc, hmem⟩)

theorem Makes.retained {roots' ps : List Address} {f g : (Address → Label) → Fault}
    (hs : h.Sound roots') (hm : Makes (h.retain ps) roots f made)
    (hf : ∀ label, f label = g label) : Makes h roots g made where
  sound := hm.sound
  alone := hm.alone
  fault := hm.fault
  old r j hr hj := (cell?_retain ..).symm.trans (hm.old r j hr hj)
  cell r hr := (hm.cell r hr).trans (cell?_retain ..)
  read hlabel r hr := (hm.read hlabel r hr).trans (congrFun (hs.read_retain ps) r)
  read_self hlabel := by rw [hm.read_self hlabel, hf]

/-! ### Making faults -/

theorem Placed.makes (hm : Placed h roots (.fault i) made) :
    Makes h roots (fun label => i.content 0 (h.read label)) made where
  sound := hm.sound
  alone := hm.alone
  fault := ⟨i, (hm.cell made.2).trans (if_pos rfl)⟩
  old r j hr hj := by rwa [hm.cell, if_neg hr] at hj
  cell r hr := by
    rw [hm.cell, if_neg]
    rintro rfl
    exact hm.alone (List.mem_append_left _ hr)
  read hlabel r hr :=
    hm.read hlabel r (List.mem_append_left _ (List.mem_append_right _ hr))
  read_self hlabel := hm.read_self hlabel

variable {kind : Kind} {message : Option String} {source : Option Boxed}

theorem Sound.build (hs : h.Sound ((source.elim [] Boxed.refs) ++ roots)) :
    Makes h roots
      (fun label => ⟨0, kind, message, source.map (Boxed.content (h.read label)), []⟩)
      (h.build al kind message source) := by
  cases source with
  | none =>
    have hplaced : Placed h roots (.fault ⟨kind, message, none, []⟩) _ := Sound.allocate al hs
    exact hplaced.makes
  | some e =>
    have hbox : Placed h roots (.error e) (h.allocate al (.error e)) := Sound.allocate al hs
    rw [Heap.build]
    generalize h.allocate al (.error e) = box at hbox ⊢
    have hplaced : Placed box.1 roots (.fault ⟨kind, message, some box.2, []⟩) _ :=
      Sound.allocate al hbox.sound
    refine hplaced.makes.behind hbox (fun _ hr => hr) fun label => ?_
    rw [Inner.content, Option.map_some, hbox.read_self fun _ _ => rfl]
    rfl

theorem Makes.suppress {f : (Address → Label) → Fault} (hm : Makes h roots f made) (c : Cause) :
    Makes h roots (fun label => Edit.suppressed.fault (f label) c)
      (made.1.change al made.2 .suppressed (.other c)) := by
  obtain ⟨i, hi⟩ := hm.fault
  have hs : made.1.Sound (made.2 :: ((Boxed.other c).refs ++ roots)) := hm.sound
  obtain ⟨hchange, hplace⟩ := hs.change al .suppressed hi
  have hplace := hplace hm.alone
  exact {
    sound := hchange.sound
    alone := hchange.alone
    fault := hchange.fault
    old := fun r j hr hj => hm.old r j (hplace ▸ hr) (hchange.old r j hr hj)
    cell := fun r hr => (hchange.cell r hr).trans (hm.cell r hr)
    read := fun hlabel r hr => by
      rw [hchange.read (fun _ _ => rfl) r hr]
      exact hm.read (hplace ▸ hlabel) r hr
    read_self := fun {label label'} hlabel => by
      have hcontent : Cause.fault (i.content (label' made.2) (made.1.read label')) = _ :=
        (hm.sound.read_eq_content hi).symm.trans (hm.read_self (hplace ▸ hlabel))
      rw [hchange.read_self fun _ _ => rfl, Cause.fault.inj hcontent]
      rfl }

theorem Makes.suppressAll {f : (Address → Label) → Fault} (hm : Makes h roots f made)
    (cs : List Cause) :
    Makes h roots (fun label => { f label with suppressed := (f label).suppressed ++ cs })
      (cs.foldl (fun made e => made.1.change al made.2 .suppressed (.other e)) made) := by
  induction cs generalizing made f with
  | nil =>
    have heta (g : Fault) : { g with suppressed := g.suppressed ++ [] } = g := by
      cases g
      simp
    simpa only [heta, List.foldl_nil] using hm
  | cons c cs ih => simpa [Edit.suppressed] using ih (hm.suppress al c)

/-- What comes of making a fault with all that a pattern has. -/
theorem Sound.create (hs : h.Sound roots) (pattern : Fault) :
    Makes h roots (fun _ => pattern) (h.create al pattern) := by
  have hsource : (pattern.source.map Boxed.other).elim [] Boxed.refs = [] := by
    cases pattern.source <;> rfl
  have hbuild : Makes h roots _
      (h.build al pattern.kind pattern.message (pattern.source.map .other)) :=
    Sound.build al (by rwa [hsource])
  have hall := hbuild.suppressAll al pattern.suppressed
  simp only [Option.map_map, Function.comp_def, Boxed.content, Option.map_id', List.nil_append]
    at hall
  exact { hall with read_self := hall.read_self }

end Heap

end CallGuard
