import CallGuard.Outcome
import CallGuard.Recorded

/-!
# Making and changing faults

Every function here takes a fresh label for the fault it makes. A change also makes a new fault: it
has all that the old one has but the changed part, and no earlier fault is a copy of it.
-/

namespace CallGuard

namespace Fault

/-- A fault with nothing suppressed. -/
def make (kind : Kind) (message : Option String) (source : Option Cause) : Recorded Fault := do
  let label ← Recorded.fresh
  return { label, kind, message, source, suppressed := [] }

/-- A new fault with all that another one has. -/
def anew (f : Fault) : Recorded Fault := do
  let label ← Recorded.fresh
  return { f with label }

/-- A fault with a message. -/
def new (kind : Kind) (message : String) : Recorded Fault :=
  make kind (some message) none

/-- A fault without a message. -/
def bare (kind : Kind) : Recorded Fault :=
  make kind none none

/-- A fault whose source is an error and whose message is the text of that error. -/
def ofCause (kind : Kind) (cause : Cause) : Recorded Fault :=
  make kind (some cause.text) (some cause)

/-- A fault whose source is a verdict and whose message is that of its status. -/
def ofVerdict (v : Verdict) : Recorded Fault :=
  make Kind.status (some v.status.message) (some (.verdict v))

/-- A fault whose source is a status without trailers. -/
def ofStatus (s : Status) : Recorded Fault :=
  ofVerdict (.ofStatus s)

/-- The fault that a panic is turned into. -/
def ofPanic (p : Payload) : Recorded Fault :=
  new Kind.panicked p.message

/-- The fault with another source. -/
def withSource (f : Fault) (source : Cause) : Recorded Fault := do
  let label ← Recorded.fresh
  return { f with label, source := some source }

/-- The fault with one more error suppressed. -/
def withSuppressed (f : Fault) (error : Cause) : Recorded Fault := do
  let label ← Recorded.fresh
  return { f with label, suppressed := f.suppressed ++ [error] }

end Fault

end CallGuard
