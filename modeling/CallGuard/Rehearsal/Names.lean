import CallGuard.Fault.Make
import CallGuard.Keyed

/-!
# Faults held under names

Faults are created, copied and changed one step after the other, each held under a name. A fault
that is changed is given up by its name, and what it becomes is held under another one or the same.
A step that asks for a name under which nothing is held cannot be made.

`Named` is a table of things held under names, `NamedFaults.make` makes one step, and
`NamedFaults.run` makes steps one after the other.
-/

namespace CallGuard

/-- Things held under names. -/
structure Named (α : Type) where
  /-- Each name with what it holds. -/
  entries : List (String × α)
  /-- No name stands twice. -/
  nodup : (entries.map Prod.fst).Nodup

namespace Named

variable {α : Type}

/-- Nothing is held. -/
def empty : Named α :=
  ⟨[], List.nodup_nil⟩

variable (held : Named α)

/-- What is held under a name. -/
def get? (name : String) : Option α :=
  Keyed.get? name held.entries

/-- All that is held. -/
def values : List α :=
  held.entries.map Prod.snd

/-- What is left when a name gives up what it holds. -/
def release (name : String) : Named α :=
  ⟨Keyed.erase name held.entries, Keyed.nodup_erase held.nodup⟩

/-- The same with something held under a name, in place of what that name held. -/
def hold (name : String) (a : α) : Named α :=
  ⟨(name, a) :: Keyed.erase name held.entries,
    List.nodup_cons.2 ⟨Keyed.not_mem_keys_erase name _, Keyed.nodup_erase held.nodup⟩⟩

variable {held} {name k : String}

theorem get?_release : (held.release name).get? k = if k = name then none else held.get? k :=
  Keyed.get?_erase ..

theorem get?_hold {a : α} :
    (held.hold name a).get? k = if k = name then some a else held.get? k := by
  rw [get?, hold, Keyed.get?_cons, Keyed.get?_erase]
  by_cases hk : k = name
  · simp [hk]
  · simp [hk, Ne.symm hk, get?]

theorem mem_values {a : α} (h : held.get? k = some a) : a ∈ held.values :=
  List.mem_map.2 ⟨_, (Keyed.get?_eq_some_iff held.nodup).1 h, rfl⟩

theorem exists_of_mem_values {a : α} (h : a ∈ held.values) : ∃ k, held.get? k = some a := by
  obtain ⟨⟨k, _⟩, hmem, rfl⟩ := List.mem_map.1 h
  exact ⟨k, (Keyed.get?_eq_some_iff held.nodup).2 hmem⟩

/-- What a name holds is held besides all that the other names hold. -/
theorem values_perm (held : Named α) (name : String) :
    held.values.Perm ((held.get? name).toList ++ (held.release name).values) := by
  rw [get?]
  cases hget : Keyed.get? name held.entries with
  | none =>
    have hrest : (held.release name).entries = held.entries :=
      Keyed.erase_eq_self (Keyed.get?_eq_none_iff.1 hget)
    rw [values, values, hrest]
    exact .refl _
  | some a => exact (Keyed.perm_erase held.nodup hget).map Prod.snd

end Named

/-- Faults held under names. -/
abbrev NamedFaults : Type :=
  Named Fault

namespace NamedFaults

/-- An error that a fault is made of. -/
inductive Operand where
  /-- A copy of the fault held under a name. -/
  | named (name : String)
  /-- An error that has no part in the faults held under names. -/
  | other (error : Cause)
  /-- An error around another one. -/
  | within (wrapper : Cause.Wrapper) (error : Operand)

/-- A fault that is not held under a name. -/
def Operand.given (f : Fault) : Operand :=
  .other (.fault f)

/-- The error that an operand stands for, given the faults held under the names. -/
def Operand.error? (get? : String → Option Fault) : Operand → Option Cause
  | named name => (get? name).map .fault
  | other e => some e
  | within wrapper e => (e.error? get?).map wrapper.around

/-- One step. -/
inductive Step where
  /-- Creates a fault with all that a pattern has. -/
  | create (target : String) (pattern : Fault)
  /-- Creates a fault whose source is an error. -/
  | wrap (target : String) (kind : Kind) (message : Option String) (error : Operand)
  /-- Copies the fault held under a name. -/
  | copy (name target : String)
  /-- Suppresses an error in favour of the fault held under a name. -/
  | suppress (name : String) (error : Operand) (target : String)
  /-- Gives the fault held under a name another source. -/
  | changeSource (name : String) (source : Operand) (target : String)

variable (held : NamedFaults)

/-- Changes the fault held under a name. -/
def change (name target : String) (error : Operand) (f : Fault → Cause → Recorded Fault) :
    Recorded (Option (Fault × NamedFaults)) :=
  match held.get? name, error.error? held.get? with
  | some old, some e => do
    let new ← f old e
    return some (new, (held.release name).hold target new)
  | _, _ => pure none

/-- Makes a step, which comes to a fault. -/
def make : Step → Recorded (Option (Fault × NamedFaults))
  | .create target pattern => do
    let f ← pattern.anew
    return some (f, held.hold target f)
  | .wrap target kind message error =>
    match error.error? held.get? with
    | some e => do
      let f ← Fault.make kind message (some e)
      return some (f, held.hold target f)
    | none => pure none
  | .copy name target => pure ((held.get? name).map fun f => (f, held.hold target f))
  | .suppress name error target => change held name target error Fault.withSuppressed
  | .changeSource name source target => change held name target source Fault.withSource

/-- Makes steps one after the other, but for those that cannot be made. -/
def run : List Step → NamedFaults → Recorded NamedFaults
  | [], held => pure held
  | step :: steps, held => do
    let made ← make held step
    run steps ((made.map Prod.snd).getD held)

end NamedFaults

end CallGuard
