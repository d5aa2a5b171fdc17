import CallGuard.Fault.Inspect
import CallGuard.Interceptor.Plan

/-!
# Scripted listeners, services and interceptors

Behaviour of those who take part in a call, written down as data. A scripted listener notes each
event it hears before it reacts, and a scripted interceptor notes the headers it gets.
-/

namespace CallGuard

/-- What a scripted listener does about an event. -/
inductive Reaction where
  | fail (f : Fault)
  | panic (message : String)

/-- The text that shows a reaction for inspection. -/
def Reaction.inspect : Reaction → String
  | fail f => Text.variantText "Fail" f.inspect
  | panic message => Text.variantText "Panic" (Text.quote message)

/-- The reactions of a listener to events by their names. The last reaction to an event counts, and
without one the listener just hears it. -/
structure ListenerScript where
  /-- Names of events with reactions. -/
  reactions : List (String × Reaction)

namespace ListenerScript

variable (s : ListenerScript)

/-- The reaction to an event. -/
def reaction? (e : Event) : Option Reaction :=
  (s.reactions.reverse.find? (·.1 = e.name)).map (·.2)

/-- The listener that follows the script. -/
def listener : Listener := fun e => do
  Run.write [.heard e]
  match s.reaction? e with
  | none => return
  | some (.fail f) => Run.fail f
  | some (.panic message) => Run.raise (.panicked (.text message))

/-- The names of the events with reactions, in the order in which the reactions were given. -/
def events : List String :=
  (s.reactions.map (·.1)).eraseDups

/-- The text that shows a scripted listener that heard nothing yet for inspection. -/
def inspect : String :=
  Text.partialRecordText "ScriptedListener"
    [("reactions", Text.mapText (s.events.filterMap fun e =>
        (s.reactions.reverse.find? (·.1 = e)).map fun r => (e, r.2.inspect))),
      ("events", Text.listText [])]

end ListenerScript

/-- What a scripted service does when it is started. -/
inductive ServiceScript where
  /-- Comes back with the scripted listener. -/
  | listen
  | fail (f : Fault)
  | panic (message : String)

/-- The service that follows a script. -/
def ServiceScript.start (s : ServiceScript) (l : ListenerScript) : Start :=
  Start.following fun _ => .finish <|
    match s with
    | .listen => .done l.listener
    | .fail f => .failed f
    | .panic message => .panicked (.text message)

/-- The text that shows a scripted service for inspection, given how often it was started. -/
def ServiceScript.inspect (starts : Nat) : String :=
  Text.partialRecordText "TestService" [("starts", toString starts)]

/-- What a scripted interceptor does. -/
inductive Conduct where
  /-- Goes on. -/
  | pass
  | fail (f : Fault)
  | panic (payload : Payload)
  /-- Comes back with a silent listener without going on. -/
  | short
  /-- Goes on with more headers. -/
  | addHeader (extra : Metadata)
  /-- Goes on and turns a failure into a silent listener. -/
  | recover
  /-- Goes on and fails if that worked. -/
  | failAfter (f : Fault)
  /-- Closes the call, notes the result and goes on. -/
  | close (s : Status) (trailers : Metadata)

/-- The plan of a scripted interceptor for a call with these headers. -/
def Conduct.plan (c : Conduct) (name : String) (headers : Metadata) : Plan Choice :=
  .write [.entered name headers] <|
    match c with
    | pass => .finish (.goOn headers .finish)
    | fail f => .finish (.answer (.failed f))
    | panic p => .finish (.answer (.panicked p))
    | short => .finish (.answer (.done .silent))
    | addHeader extra => .finish (.goOn (headers.merge extra) .finish)
    | recover => .finish (.goOn headers fun
      | .failed _ => .finish (.done .silent)
      | o => .finish o)
    | failAfter f => .finish (.goOn headers fun
      | .done _ => .finish (.failed f)
      | o => .finish o)
    | close s trailers => .close s trailers fun r =>
      .write [.closedBy name r] (.finish (.goOn headers .finish))

/-- A scripted interceptor. -/
structure InterceptorScript where
  name : String
  order : Int
  conduct : Conduct

/-- The interceptor that follows a script. -/
def InterceptorScript.interceptor (s : InterceptorScript) : Interceptor :=
  .following s.name s.order (s.conduct.plan s.name)

end CallGuard
