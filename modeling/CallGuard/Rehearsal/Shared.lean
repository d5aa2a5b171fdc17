import CallGuard.Fault.Shared
import CallGuard.Rehearsal.Names

/-!
# Shared faults held under names

The steps of `NamedFaults.Step` on handles: each name holds a handle on the cell of its fault, and
two names hold the same fault if their handles are on one cell (`SharedFaults.isSame`). The handles
that a step needs are taken before the name gives up its own, and what the target of the step held
is given up last.
-/

namespace CallGuard

open NamedFaults Heap

/-- Handles on faults, held under names. -/
structure SharedFaults where
  heap : Heap
  names : Named Address

namespace SharedFaults

/-- Nothing is held. -/
def empty : SharedFaults :=
  ⟨.empty, .empty⟩

variable (s : SharedFaults)

/-- The fault held under a name with all that it is made of, given the labels of the cells. -/
def view? (label : Address → Label) (name : String) : Option Fault :=
  (s.names.get? name).bind fun p => (s.heap.read label p).fault?

/-- Two names hold handles on one cell. -/
def isSame (a b : String) : Bool :=
  match s.names.get? a, s.names.get? b with
  | some p, some q => p == q
  | _, _ => false

variable {s} in
theorem isSame_iff {a b : String} :
    s.isSame a b ↔ ∃ p, s.names.get? a = some p ∧ s.names.get? b = some p := by
  rw [isSame]
  split
  · rename_i p q hp hq
    rw [beq_iff_eq, hp, hq]
    constructor
    · rintro rfl
      exact ⟨p, rfl, rfl⟩
    · rintro ⟨r, hp, hq⟩
      cases hp
      cases hq
      rfl
  · rename_i hnone
    exact iff_of_false nofun fun ⟨p, hp, hq⟩ => hnone p p hp hq

/-- The error that an operand stands for, but for the further handles that it takes. -/
def boxed? : Operand → Option Boxed
  | .named name => (s.names.get? name).map .copy
  | .other e => some (.other e)
  | .within wrapper e => (boxed? e).map (.within wrapper)

/-- Holds a handle under a name, which gives up the one that it held. -/
def hold (names : Named Address) (target : String) (made : Heap × Address) : SharedFaults :=
  ⟨made.1.release (names.get? target).toList, names.hold target made.2⟩

variable (al : Allocator)

/-- Changes the fault held under a name. -/
def change (name target : String) (error : Operand) (edit : Edit) : Option SharedFaults :=
  match s.names.get? name, s.boxed? error with
  | some p, some e =>
    some (hold (s.names.release name) target ((s.heap.retain e.refs).change al p edit e))
  | _, _ => none

/-- Makes a step. -/
def make : Step → Option SharedFaults
  | .create target pattern => some (hold s.names target (s.heap.create al pattern))
  | .wrap target kind message error => (s.boxed? error).map fun e =>
    hold s.names target ((s.heap.retain e.refs).build al kind message (some e))
  | .copy name target => (s.names.get? name).map fun p =>
    hold s.names target (s.heap.retain [p], p)
  | .suppress name error target => s.change al name target error .suppressed
  | .changeSource name source target => s.change al name target source .source

/-- What a step leaves, which is what was there if it cannot be made. -/
def after (step : Step) : SharedFaults :=
  (s.make al step).getD s

/-- What is held once steps were made one after the other, but for those that could not be made. -/
def run (steps : List Step) : SharedFaults :=
  steps.foldl (fun s step => s.after al step) empty

end SharedFaults

end CallGuard
