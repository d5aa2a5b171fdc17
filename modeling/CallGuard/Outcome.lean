import CallGuard.Fault.Basic

/-!
# How a step can end

A step of serving a call comes back with a value, fails with a fault, or panics. A panic carries a
payload, which is a text or something else.
-/

namespace CallGuard

/-- What a panic carries. -/
inductive Payload where
  | text (message : String)
  /-- A payload that is no text. -/
  | other

/-- The message of a panic. -/
def Payload.message : Payload → String
  | .text m => m
  | .other => "panic with non-string payload"

/-- How a step ended. -/
inductive Outcome (α : Type) where
  | done (value : α)
  | failed (fault : Fault)
  | panicked (payload : Payload)

/-- The outcome with its value changed by `f`. -/
def Outcome.map {α β : Type} (f : α → β) : Outcome α → Outcome β
  | .done a => .done (f a)
  | .failed e => .failed e
  | .panicked p => .panicked p

end CallGuard
