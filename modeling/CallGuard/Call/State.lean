import CallGuard.Text.Record

/-!
# The state of a guarded call

A guarded call remembers two things: that an error was raised, and that the call was closed. Each
can happen at most once, and an error counts only while neither has happened. Every operation here
is one atomic step.
-/

namespace CallGuard

/-- How far a guarded call has come. -/
inductive Phase where
  | active
  | errored
  | closed
deriving DecidableEq

/-- The name of a phase. -/
def Phase.name : Phase → String
  | active => "Active"
  | errored => "Errored"
  | closed => "Closed"

/-- What a guarded call remembers. -/
structure CallState where
  /-- An error was raised while the call was active. -/
  errored : Bool
  /-- The call was closed. -/
  closed : Bool
deriving DecidableEq

namespace CallState

/-- Nothing has happened yet. -/
def fresh : CallState := ⟨false, false⟩

instance : Inhabited CallState := ⟨fresh⟩

variable (s : CallState)

/-- The phase; a closed call is closed, errored or not. -/
def phase : Phase :=
  if s.closed then .closed else if s.errored then .errored else .active

/-- Raises an error, which succeeds only on an active call. -/
def tryError : Bool × CallState :=
  if s.errored || s.closed then (false, s) else (true, ⟨true, false⟩)

/-- Closes the call, which succeeds only once. -/
def markClosed : Bool × CallState :=
  (!s.closed, ⟨s.errored, true⟩)

section

variable {s}

theorem tryError_fresh : fresh.tryError = (true, ⟨true, false⟩) :=
  rfl

theorem tryError_of_closed (h : s.closed = true) : s.tryError = (false, s) := by
  simp [tryError, h]

theorem tryError_of_inactive (h : s.phase ≠ .active) : s.tryError = (false, s) := by
  rcases s with ⟨_ | _, _ | _⟩ <;> simp_all [phase, tryError]

theorem markClosed_of_open (h : s.closed = false) : s.markClosed = (true, ⟨s.errored, true⟩) := by
  simp [markClosed, h]

theorem markClosed_of_closed (h : s.closed = true) : s.markClosed = (false, s) := by
  obtain ⟨errored, closed⟩ := s
  simp_all [markClosed]

end

/-- The state as a number: one for an error, and two for a close. -/
def bits : Nat :=
  (if s.errored then 1 else 0) + (if s.closed then 2 else 0)

/-- The text that shows a state for inspection. -/
def inspect : String :=
  Text.recordText "CallState" [("bits", toString s.bits)]

end CallState

end CallGuard
