import CallGuard.Fault.Chain

/-!
# The standard way from an error to a status

An error that no handler maps is closed with the first status of its chain, and with the code
`Code.unknown` and its text when there is none. Either way the error becomes the source of the
status. The trailers come from the first verdict of the chain.
-/

namespace CallGuard

/-- The status that an error stands for: a copy of the first status in its chain, or an unknown
status with its text, with the error as its source. -/
def Cause.toStatus (c : Cause) : Status :=
  match c.chain.findSome? Cause.status? with
  | some s => { s with source := some c }
  | none => { Status.plain .unknown c.text with source := some c }

@[simp] theorem Cause.toStatus_source (c : Cause) : c.toStatus.source = some c := by
  rw [toStatus]
  split <;> rfl

/-- What a call is closed with for a fault that no handler maps. -/
def Fault.derive (f : Fault) : Verdict where
  status := (Cause.fault f).toStatus
  trailers := (f.firstVerdict?.map (·.trailers)).getD .empty

@[simp] theorem Fault.derive_source (f : Fault) : f.derive.status.source = some (.fault f) :=
  Cause.toStatus_source _

end CallGuard
