import CallGuard.Fault.Basic

/-!
# Chains of causes

Following `Cause.source` from an error gives its chain, which is finite because each error is larger
than its source. `Fault.chain` is the chain of a fault, the fault itself first, and the functions
`Fault.firstStatus?`, `Fault.firstVerdict?`, `Fault.firstFault?` and `Fault.firstCallError?` find
the first error of one sort in it. Suppressed errors are not part of a chain.
-/

namespace CallGuard

namespace Cause

/-- The error, its source, the source of that, and so on. -/
def chain (c : Cause) : List Cause :=
  c :: match _h : c.source with
    | some s => chain s
    | none => []
termination_by sizeOf c
decreasing_by exact sizeOf_lt_of_source ‹_›

/-- The status that the error is. -/
def status? : Cause → Option Status
  | .status s => some s
  | _ => none

/-- The verdict that the error is. -/
def verdict? : Cause → Option Verdict
  | .verdict v => some v
  | _ => none

/-- The fault that the error is. -/
def fault? : Cause → Option Fault
  | .fault f => some f
  | _ => none

/-- The failed operation on a call that the error is. -/
def callError? : Cause → Option CallError
  | .call e => some e
  | _ => none

end Cause

/-- The chain that starts at an optional source. -/
def chainOf (source : Option Cause) : List Cause :=
  match source with
  | some s => s.chain
  | none => []

theorem Cause.chain_eq (c : Cause) : c.chain = c :: chainOf c.source := by
  rw [Cause.chain]
  split <;> simp [chainOf, *]

namespace Fault

variable (f : Fault)

/-- The fault, its source, the source of that, and so on. -/
def chain : List Cause :=
  (Cause.fault f).chain

/-- The first status in the chain. -/
def firstStatus? : Option Status :=
  f.chain.findSome? Cause.status?

/-- The first verdict in the chain. -/
def firstVerdict? : Option Verdict :=
  f.chain.findSome? Cause.verdict?

/-- The first fault in the chain, which is the fault itself. -/
def firstFault? : Option Fault :=
  f.chain.findSome? Cause.fault?

/-- The first failed operation on a call in the chain. -/
def firstCallError? : Option CallError :=
  f.chain.findSome? Cause.callError?

end Fault

end CallGuard
