import CallGuard.Fault.Chain
import CallGuard.Keyed

/-!
# How faults are shared

A fault is kept in a cell that all its copies share, and so is each error that a fault is made of.
A cell counts the handles on it: those that are held from outside, and those in other cells. It goes
away with the last of them, and gives up the handles in it.

A change of a fault looks at the count. If there is no other handle the cell is changed in its
place. Otherwise what the fault is made of is copied into a new cell, which shares the errors, and
the copy is changed (`Heap.detach`).

* `Heap.retain` takes further handles, and `Heap.release` gives handles up;
* `Heap.build` and `Heap.create` make faults, and `Heap.change` changes one;
* `Heap.read` is the error in a cell, with all that it is made of. It is told what label the fault
  in each cell is given.
-/

namespace CallGuard

/-- Where a cell is. A handle on a cell is known by it. -/
abbrev Address : Type := Nat

/-! ### Cells -/

/-- An error that a fault is made of. -/
inductive Boxed where
  /-- A copy of a fault, which is a handle on its cell. -/
  | copy (p : Address)
  /-- An error that has no handle. -/
  | other (error : Cause)
  /-- An error around another one. -/
  | within (wrapper : Cause.Wrapper) (error : Boxed)

namespace Boxed

/-- The handles in an error. -/
def refs : Boxed → List Address
  | copy p => [p]
  | other _ => []
  | within _ e => e.refs

/-- The error, given what is in the cells. -/
def content (read : Address → Cause) : Boxed → Cause
  | copy p => read p
  | other e => e
  | within w e => w.around (e.content read)

theorem content_congr {read read' : Address → Cause} {e : Boxed}
    (h : ∀ p ∈ e.refs, read p = read' p) : e.content read = e.content read' := by
  induction e with
  | copy p => exact h p (List.mem_singleton_self p)
  | other e => rfl
  | within w e ih => exact congrArg w.around (ih h)

end Boxed

/-- What a fault is made of, with handles on its errors. -/
structure Inner where
  kind : Kind
  message : Option String
  source : Option Address
  suppressed : List Address

namespace Inner

/-- The handles in a fault. -/
def refs (i : Inner) : List Address :=
  i.source.toList ++ i.suppressed

/-- The fault, given its label and what is in the cells. -/
def content (label : Label) (read : Address → Cause) (i : Inner) : Fault where
  label := label
  kind := i.kind
  message := i.message
  source := i.source.map read
  suppressed := i.suppressed.map read

theorem content_congr {label : Label} {read read' : Address → Cause} {i : Inner}
    (h : ∀ p ∈ i.refs, read p = read' p) : i.content label read = i.content label read' := by
  have hsource : i.source.map read = i.source.map read' :=
    Option.map_congr fun p hp => h p (List.mem_append_left _ (by simp [hp]))
  have hsuppressed : i.suppressed.map read = i.suppressed.map read' :=
    List.map_congr_left fun p hp => h p (List.mem_append_right _ hp)
  rw [content, content, hsource, hsuppressed]

end Inner

/-- What a cell holds. -/
inductive Cell where
  | fault (i : Inner)
  | error (e : Boxed)

namespace Cell

/-- The handles in a cell. -/
def refs : Cell → List Address
  | fault i => i.refs
  | error e => e.refs

/-- The error in a cell, given the label of the cell and what is in the others. -/
def content (label : Label) (read : Address → Cause) : Cell → Cause
  | fault i => .fault (i.content label read)
  | error e => e.content read

theorem content_congr {label : Label} {read read' : Address → Cause} {c : Cell}
    (h : ∀ p ∈ c.refs, read p = read' p) : c.content label read = c.content label read' := by
  cases c with
  | fault i => exact congrArg Cause.fault (Inner.content_congr h)
  | error e => exact Boxed.content_congr h

end Cell

/-! ### The cells -/

/-- Cells with the numbers of handles on them. -/
structure Heap where
  /-- The cells by their addresses. -/
  cells : List (Address × Nat × Cell)
  /-- No two cells are at one address. -/
  nodup : (cells.map Prod.fst).Nodup

namespace Heap

/-- No cells. -/
def empty : Heap :=
  ⟨[], List.nodup_nil⟩

variable (h : Heap)

/-- The number of handles on a cell and what it holds. -/
def slot? (p : Address) : Option (Nat × Cell) :=
  Keyed.get? p h.cells

/-- What a cell holds. -/
def cell? (p : Address) : Option Cell :=
  (h.slot? p).map Prod.snd

/-- The number of handles on a cell. -/
def count (p : Address) : Nat :=
  ((h.slot? p).map Prod.fst).getD 0

/-- All handles in cells. -/
def refs : List Address :=
  h.cells.flatMap fun c => c.2.2.refs

/-- The cells with one of them changed, or a new one. -/
def set (p : Address) (n : Nat) (c : Cell) : Heap :=
  ⟨Keyed.alter p (fun _ => (n, c)) h.cells, Keyed.nodup_alter h.nodup⟩

/-- The cells without one of them. -/
def erase (p : Address) : Heap :=
  ⟨Keyed.erase p h.cells, Keyed.nodup_erase h.nodup⟩

theorem slot?_set (p r : Address) (n : Nat) (c : Cell) :
    (h.set p n c).slot? r = if r = p then some (n, c) else h.slot? r := by
  by_cases hr : r = p
  · subst hr
    rw [if_pos rfl]
    exact Keyed.get?_alter_self ..
  · rw [if_neg hr]
    exact Keyed.get?_alter_of_ne hr ..

theorem slot?_erase (p r : Address) :
    (h.erase p).slot? r = if r = p then none else h.slot? r :=
  Keyed.get?_erase ..

theorem cell?_set (p r : Address) (n : Nat) (c : Cell) :
    (h.set p n c).cell? r = if r = p then some c else h.cell? r := by
  rw [cell?, slot?_set, cell?]
  split <;> rfl

theorem cell?_erase (p r : Address) :
    (h.erase p).cell? r = if r = p then none else h.cell? r := by
  rw [cell?, slot?_erase, cell?]
  split <;> rfl

theorem count_set (p r : Address) (n : Nat) (c : Cell) :
    (h.set p n c).count r = if r = p then n else h.count r := by
  rw [count, slot?_set, count]
  split <;> rfl

theorem count_erase (p r : Address) :
    (h.erase p).count r = if r = p then 0 else h.count r := by
  rw [count, slot?_erase, count]
  split <;> rfl

variable {h}

theorem cell?_of_slot? {p : Address} {n : Nat} {c : Cell} (hp : h.slot? p = some (n, c)) :
    h.cell? p = some c := by
  rw [cell?, hp]; rfl

theorem count_of_slot? {p : Address} {n : Nat} {c : Cell} (hp : h.slot? p = some (n, c)) :
    h.count p = n := by
  rw [count, hp]; rfl

theorem cell?_eq_none {p : Address} (hp : h.slot? p = none) : h.cell? p = none := by
  rw [cell?, hp]; rfl

theorem count_eq_zero {p : Address} (hp : h.slot? p = none) : h.count p = 0 := by
  rw [count, hp]; rfl

theorem slot?_of_cell? {p : Address} {c : Cell} (hp : h.cell? p = some c) :
    h.slot? p = some (h.count p, c) := by
  obtain ⟨⟨n, d⟩, hslot, rfl⟩ := Option.map_eq_some_iff.1 hp
  rw [hslot, count_of_slot? hslot]

theorem length_erase_lt {p : Address} {c : Cell} (hp : h.cell? p = some c) :
    (h.erase p).cells.length < h.cells.length := by
  have hperm := Keyed.perm_erase h.nodup (slot?_of_cell? hp)
  rw [hperm.length_eq, List.length_cons]
  exact Nat.lt_succ_self _

theorem length_set {p : Address} {n : Nat} {c d : Cell} (hp : h.cell? p = some d) :
    (h.set p n c).cells.length = h.cells.length := by
  have hmem : p ∈ h.cells.map Prod.fst :=
    Classical.not_not.1 fun hmem => by
      rw [cell?_eq_none (Keyed.get?_eq_none_iff.2 hmem)] at hp
      cases hp
  have hkeys := Keyed.map_fst_alter p (fun _ => (n, c)) h.cells
  rw [if_pos hmem] at hkeys
  have hlength := congrArg List.length hkeys
  rwa [List.length_map, List.length_map] at hlength

/-! ### Handles -/

variable (h)

/-- Takes a further handle on each of some cells. -/
def retain : List Address → Heap → Heap
  | [], h => h
  | p :: ps, h =>
    match h.slot? p with
    | some (n, c) => retain ps (h.set p (n + 1) c)
    | none => retain ps h

/-- Gives handles up, one after the other. With the last handle on it a cell goes away, and the
handles in it are given up before the others. -/
def release : List Address → Heap → Heap
  | [], h => h
  | p :: ps, h =>
    match _h : h.slot? p with
    | some (n, c) =>
      if n ≤ 1 then release (c.refs ++ ps) (h.erase p) else release ps (h.set p (n - 1) c)
    | none => release ps h
termination_by ps h => (h.cells.length, ps.length)
decreasing_by
  · exact Prod.Lex.left _ _ (length_erase_lt (cell?_of_slot? ‹_›))
  · rw [length_set (cell?_of_slot? ‹_›)]
    exact Prod.Lex.right _ (Nat.lt_succ_self _)
  · exact Prod.Lex.right _ (Nat.lt_succ_self _)

/-- A way to find a place for a new cell. -/
structure Allocator where
  /-- Where a new cell comes. -/
  address : Heap → Address
  /-- No cell is there. -/
  unused : ∀ h : Heap, h.slot? (address h) = none

/-- New cells come behind all others. -/
def Allocator.behind : Allocator where
  address h := h.cells.foldr (fun c n => max (c.1 + 1) n) 0
  unused h := by
    have hlt : ∀ c ∈ h.cells, c.1 < h.cells.foldr (fun c n => max (c.1 + 1) n) 0 := by
      induction h.cells with
      | nil => nofun
      | cons c cs ih =>
        refine List.forall_mem_cons.2 ⟨Nat.le_max_left .., fun d hd => ?_⟩
        exact Nat.lt_of_lt_of_le (ih d hd) (Nat.le_max_right ..)
    refine Keyed.get?_eq_none_iff.2 fun hmem => ?_
    obtain ⟨c, hc, hp⟩ := List.mem_map.1 hmem
    exact Nat.lt_irrefl _ (hp ▸ hlt c hc)

instance : Inhabited Allocator := ⟨.behind⟩

variable (al : Allocator)

/-- A new cell with the one handle on it. -/
def allocate (c : Cell) : Heap × Address :=
  (h.set (al.address h) 1 c, al.address h)

/-- A handle on a cell that no other handle is on, in place of one on a cell that holds the same.
What is in a cell is copied with further handles in place of its handles. -/
def detach (p : Address) : Heap × Address :=
  match h.slot? p with
  | some (n, c) =>
    if n = 1 then (h, p)
    else
      let new := (h.retain c.refs).allocate al c
      (new.1.release [p], new.2)
  | none => (h, p)

/-! ### Faults -/

/-- A way to put an error into a fault. -/
structure Edit where
  /-- What a fault becomes. -/
  fault : Fault → Cause → Fault
  /-- The label does not matter. -/
  relabel : ∀ f e label, fault { f with label } e = { fault f e with label }
  /-- What it is made of then, given a handle on the error. -/
  inner : Inner → Address → Inner
  /-- The handles that are given up. -/
  dropped : Inner → List Address
  /-- The other handles are kept. -/
  perm : ∀ i b, (dropped i ++ (inner i b).refs).Perm (b :: i.refs)
  content : ∀ i b label read,
    (inner i b).content label read = fault (i.content label read) (read b)

/-- The error becomes the source. -/
def Edit.source : Edit where
  fault f e := { f with source := some e }
  relabel _ _ _ := rfl
  inner i b := { i with source := some b }
  dropped i := i.source.toList
  perm i b := by simp [Inner.refs]
  content i b label read := rfl

/-- The error is suppressed. -/
def Edit.suppressed : Edit where
  fault f e := { f with suppressed := f.suppressed ++ [e] }
  relabel _ _ _ := rfl
  inner i b := { i with suppressed := i.suppressed ++ [b] }
  dropped _ := []
  perm i b := by
    rw [List.nil_append, Inner.refs, Inner.refs, ← List.append_assoc]
    exact List.perm_append_singleton ..
  content i b label read := by simp [Inner.content]

/-- Puts the error behind one handle into the fault behind another. -/
def put (p : Address) (edit : Edit) (b : Address) : Heap × Address :=
  let alone := h.detach al p
  match alone.1.slot? alone.2 with
  | some (n, .fault i) =>
    ((alone.1.set alone.2 n (.fault (edit.inner i b))).release (edit.dropped i), alone.2)
  | _ => alone

/-- Changes the fault behind a handle. -/
def change (p : Address) (edit : Edit) (e : Boxed) : Heap × Address :=
  let box := h.allocate al (.error e)
  box.1.put al p edit box.2

/-- Makes a fault with nothing suppressed. -/
def build (kind : Kind) (message : Option String) : Option Boxed → Heap × Address
  | none => h.allocate al (.fault ⟨kind, message, none, []⟩)
  | some e =>
    let box := h.allocate al (.error e)
    box.1.allocate al (.fault ⟨kind, message, some box.2, []⟩)

/-- Makes a fault with all that a pattern has. -/
def create (pattern : Fault) : Heap × Address :=
  pattern.suppressed.foldl (fun made e => made.1.change al made.2 .suppressed (.other e))
    (h.build al pattern.kind pattern.message (pattern.source.map .other))

/-! ### Content -/

/-- The error in a cell with all that it is made of, given the labels of the cells. No cell is met
inside itself, so a cell is taken out before what it holds is looked at. -/
def read (label : Address → Label) (h : Heap) (p : Address) : Cause :=
  match _h : h.cell? p with
  | some c => c.content (label p) fun r => (h.erase p).read label r
  | none => .plain "" none
termination_by h.cells.length
decreasing_by exact length_erase_lt ‹_›

end Heap

end CallGuard
