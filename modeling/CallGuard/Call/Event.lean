/-!
# What a listener can hear of a call
-/

namespace CallGuard

/-- Something that happens to a call and that its listener is told. -/
inductive Event where
  /-- The call can take more messages. -/
  | ready
  /-- A message came in. -/
  | message (body : String)
  /-- The client sends no more messages. -/
  | halfClose
  /-- The call ended. -/
  | complete
  /-- The client gave the call up. -/
  | cancel
deriving DecidableEq

namespace Event

/-- The name of an event, without the body of a message. -/
def name : Event → String
  | ready => "Ready"
  | message _ => "Message"
  | halfClose => "HalfClose"
  | complete => "Complete"
  | cancel => "Cancel"

/-- The event tells of the end of the call, which a listener hears in any case. -/
def isTerminal : Event → Bool
  | complete | cancel => true
  | _ => false

end Event

end CallGuard
