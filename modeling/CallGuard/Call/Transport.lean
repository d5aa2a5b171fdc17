import CallGuard.Call.Descriptor
import CallGuard.Fault.Basic

/-!
# The transport under a call

A `Transport` carries one call and remembers what was done with it: what was sent, how it was
closed, and how often a close was attempted. It accepts one close, and any attempt may fail. It can
be told that its client gave the call up.

Every operation here comes back. What a close panics with stands in the call over the transport
(`Call.transport`). Whatever else were to panic would do so in the one who wanted it.
-/

namespace CallGuard

/-- What an operation on a call comes to. -/
abbrev CallResult := Except CallError Unit

/-- A transport with what was done with it. It comes back from whatever is done. -/
structure Transport where
  /-- The method that is called. -/
  descriptor : Descriptor
  /-- The headers that were sent, oldest first. -/
  headers : List Metadata
  /-- The messages that were sent, oldest first. -/
  messages : List String
  /-- The closes that were accepted, oldest first. -/
  closes : List Verdict
  /-- How often a close was attempted. -/
  attempts : Nat
  /-- What an attempt to close the call fails with, by the number of attempts before it. -/
  closeFailure : Nat → Option CallError
  /-- The client gave the call up. -/
  cancelled : Bool

namespace Transport

/-- A transport with which nothing was done yet. -/
def fresh (d : Descriptor) : Transport :=
  { descriptor := d, headers := [], messages := [], closes := [], attempts := 0,
    closeFailure := fun _ => none, cancelled := false }

variable (t : Transport)

/-- Sends headers. -/
def sendHeaders (m : Metadata) : CallResult × Transport :=
  (.ok (), { t with headers := t.headers ++ [m] })

/-- Sends a message, unless the call is closed. -/
def sendMessage (body : String) : CallResult × Transport :=
  if t.closes.isEmpty then (.ok (), { t with messages := t.messages ++ [body] })
  else (.error .alreadyClosed, t)

/-- Attempts to close the call, and comes back. -/
def close (s : Status) (trailers : Metadata) : CallResult × Transport :=
  let attempted := { t with attempts := t.attempts + 1 }
  match t.closeFailure t.attempts with
  | some e => (.error e, attempted)
  | none =>
    if t.closes.isEmpty then (.ok (), { attempted with closes := t.closes ++ [⟨s, trailers⟩] })
    else (.error .alreadyClosed, attempted)

theorem attempts_close (s : Status) (trailers : Metadata) :
    (t.close s trailers).2.attempts = t.attempts + 1 := by
  unfold close
  split
  · rfl
  · split <;> rfl

/-- The last accepted close. -/
def lastClose? : Option Verdict :=
  t.closes.getLast?

end Transport

end CallGuard
