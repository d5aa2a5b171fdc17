import CallGuard.Advice.Method
import CallGuard.Handler

/-!
# Scripted handlers and methods

Behaviour that is written down as data: what a handler method does when it is invoked
(`Action.run`), and what a handler says to a fault (`ScriptedHandler.handle`).
-/

namespace CallGuard

/-- What a scripted handler method does. Its argument is the fault in the first filled slot; an
action that needs it fails where there is none. -/
inductive Action where
  /-- Has no answer. -/
  | nothing
  /-- Answers with a status. -/
  | status (s : Status)
  /-- Answers with a verdict. -/
  | verdict (v : Verdict)
  /-- Answers with another fault. -/
  | fault (f : Fault)
  /-- Answers with its argument. -/
  | argument
  /-- Answers with a status that has the message of the argument. -/
  | message (code : Code)
  /-- Answers with a status that has the text of the argument. -/
  | text (code : Code)
  /-- Answers with a status that tells how the slots are filled. -/
  | slots (code : Code)
  /-- Answers with a status that names the advice. -/
  | owner (code : Code)
  /-- Fails. -/
  | fail (f : Fault)
  /-- Fails with its argument. -/
  | rethrow
  /-- Fails with its argument, in favour of which another error is suppressed. -/
  | rethrowWith (suppressed : Fault)
  /-- Fails with a fault whose source is the argument. -/
  | wrap (f : Fault)
  | panic (payload : Payload)

/-- How the slots of arguments are filled, in words: their number, whether there are none, each slot
up to one past the last, and the first filled one. -/
def Arguments.text (args : Arguments) : String :=
  let slot (f : Option Fault) : String := (f.map Fault.text).getD "-"
  toString args.size ++ " " ++ toString (args.size == 0) ++ " [" ++
    String.intercalate " | " ((List.range (args.size + 1)).map fun i => slot (args.get? i)) ++
    "] " ++ slot args.error?

namespace Action

/-- Goes on with the argument, or fails without one. -/
def withArgument (args : Arguments) (k : Fault → Recorded (Outcome (Option Answer))) :
    Recorded (Outcome (Option Answer)) := do
  match ← args.requireError with
  | .ok f => k f
  | .error e => return .failed e

/-- The outcome that is a status of nothing but a code and a message. -/
def plainStatus (code : Code) (message : String) : Outcome (Option Answer) :=
  .done (some (.status (.plain code message)))

/-- Performs an action for an advice with this name of its own. -/
def run (ownerName : String) (args : Arguments) : Action → Recorded (Outcome (Option Answer))
  | nothing => pure (.done none)
  | status s => pure (.done (some (.status s)))
  | verdict v => pure (.done (some (.verdict v)))
  | fault f => pure (.done (some (.fault f)))
  | argument => withArgument args fun f => pure (.done (some (.fault f)))
  | message code => withArgument args fun f => pure (plainStatus code (f.message.getD ""))
  | text code => withArgument args fun f => pure (plainStatus code f.text)
  | slots code => pure (plainStatus code args.text)
  | owner code => pure (plainStatus code ownerName)
  | fail f => pure (.failed f)
  | rethrow => withArgument args fun f => pure (.failed f)
  | rethrowWith s => withArgument args fun f => .failed <$> f.withSuppressed (.fault s)
  | wrap g => withArgument args fun f => .failed <$> g.withSource (.fault f)
  | panic p => pure (.panicked p)

end Action

/-- What a scripted handler says, and to which faults. -/
structure ScriptedHandler where
  /-- The kinds it does not decline; all kinds, if none are named. -/
  kinds : Option (List Kind)
  /-- What it says to a fault that it does not decline. -/
  reply : Reply

/-- What a scripted handler says to a fault. -/
def ScriptedHandler.handle (h : ScriptedHandler) : Handler := fun f =>
  match h.kinds with
  | none => pure h.reply
  | some ks => pure (if f.kind ∈ ks then h.reply else .declined)

/-- The scripted handlers, each writing down under its position what it is asked. -/
def ScriptedHandler.numbered (hs : List ScriptedHandler) : List Handler :=
  hs.zipIdx.map fun (h, i) => h.handle.counted i

/-- The text that shows a counting handler for inspection. -/
def Handler.inspectCounted (invocations : Nat) : String :=
  Text.partialRecordText "CountingHandler" [("invocations", toString invocations)]

end CallGuard
