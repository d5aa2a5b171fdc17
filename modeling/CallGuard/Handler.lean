import CallGuard.Fault.Make

/-!
# Handlers

A handler is asked what to close a call with for a fault. It declines, answers with a verdict, or
panics. Several handlers are asked one after the other until one of them does not decline.
-/

namespace CallGuard

/-- What a handler says to a fault. -/
inductive Reply where
  | declined
  | answered (verdict : Verdict)
  | panicked (payload : Payload)

/-- What a handler says to each fault. -/
def Handler : Type :=
  Fault → Recorded Reply

namespace Handler

/-- Declines every fault. -/
def declining : Handler :=
  fun _ => pure .declined

/-- Asks the handlers in order and says what the first one says that does not decline. -/
def first : List Handler → Handler
  | [] => declining
  | h :: hs => fun f => do
    match ← h f with
    | .declined => first hs f
    | reply => pure reply

/-- The handler, with each fault that it is asked about written down under a number. -/
def counted (number : Nat) (h : Handler) : Handler := fun f => do
  Recorded.write [.asked number f]
  h f

/-- The text that shows a number of joined handlers for inspection. -/
def inspectFirst (count : Nat) : String :=
  Text.recordText "CompositeExceptionHandler" [("handler_count", toString count)]

end Handler

end CallGuard
