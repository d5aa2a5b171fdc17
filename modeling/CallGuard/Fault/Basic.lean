import CallGuard.Code
import CallGuard.Kind
import CallGuard.Metadata

/-!
# Faults and what causes them

A `Fault` is an error raised while a call is served. It has a kind, it may have a message and a
cause, and it keeps the errors that were suppressed in its favour. Besides faults, four other sorts
of errors occur as causes; `Cause` joins the five.

* `Status` is what a call is closed with, and `Verdict` is a status with trailers;
* `CallError` is the failure of an operation on a call;
* any other error is known only by its text and its own cause.

Each fault carries a `Label`. Labels tell faults apart that look the same: a copy of a fault has its
label, while a fault that is made or changed takes a fresh one (`Recorded.fresh`).
-/

namespace CallGuard

/-- What tells faults apart that look the same. -/
abbrev Label := Nat

/-- The failure of an operation on a call. -/
inductive CallError where
  /-- The call was closed before. -/
  | alreadyClosed
  /-- The transport failed, for the reason it gives. -/
  | transport (reason : String)
deriving DecidableEq

mutual

/-- An error raised while a call is served. -/
structure Fault where
  /-- The identity of the fault, shared by its copies. -/
  label : Label
  /-- The kind by which a handler for the fault is chosen. -/
  kind : Kind
  /-- What went wrong, in words. -/
  message : Option String
  /-- The error that led to this one. -/
  source : Option Cause
  /-- The errors that were suppressed in favour of this one, oldest first. -/
  suppressed : List Cause

/-- What a call is closed with. -/
structure Status where
  /-- How the call ended. -/
  code : Code
  /-- What the client is told about it. -/
  message : String
  /-- Further details for the client. -/
  details : List UInt8
  /-- Metadata that belongs to the status. -/
  metadata : Metadata
  /-- The error that led to the status; the client does not see it. -/
  source : Option Cause

/-- A status together with trailers. As an error its source is its status. -/
structure Verdict where
  /-- The status. -/
  status : Status
  /-- The trailers that are sent with the status. -/
  trailers : Metadata

/-- An error in a chain of causes. -/
inductive Cause where
  | fault (f : Fault)
  | status (s : Status)
  | verdict (v : Verdict)
  | call (e : CallError)
  /-- Any other error: its text and its own cause. -/
  | plain (text : String) (source : Option Cause)

end

instance : Inhabited Status := ⟨⟨.ok, "", [], .empty, none⟩⟩

instance : Inhabited Verdict := ⟨⟨default, .empty⟩⟩

namespace CallError

/-- The failure in words. -/
def text : CallError → String
  | .alreadyClosed => "call already closed"
  | .transport reason => "transport error: " ++ reason

/-- The text that shows a failure for inspection. -/
def inspect : CallError → String
  | .alreadyClosed => "AlreadyClosed"
  | .transport reason => Text.recordText "Transport" [("message", Text.quote reason)]

end CallError

namespace Fault

/-- The fault in words: its kind, and its message if it has one. -/
def text (f : Fault) : String :=
  match f.message with
  | some m => f.kind.name ++ ": " ++ m
  | none => f.kind.name

/-- The two are copies of one fault. -/
def isSame (f g : Fault) : Bool :=
  f.label == g.label

end Fault

namespace Status

/-- A status of nothing but a code and a message. -/
def plain (code : Code) (message : String) : Status :=
  ⟨code, message, [], .empty, none⟩

/-- The status in words. -/
def text (s : Status) : String :=
  "status: " ++ s.code.name ++ ", message: " ++ Text.quote s.message ++ ", details: " ++
    Text.listText (s.details.map fun b => toString b.toNat) ++ ", metadata: " ++ s.metadata.inspect

end Status

namespace Verdict

/-- A status without trailers. -/
def ofStatus (s : Status) : Verdict :=
  ⟨s, .empty⟩

/-- The code of the status. -/
def code (v : Verdict) : Code :=
  v.status.code

/-- The verdict in words: the code and the message of its status. -/
def text (v : Verdict) : String :=
  v.code.name ++ ": " ++ v.status.message

end Verdict

namespace Cause

/-- The error in words. -/
def text : Cause → String
  | .fault f => f.text
  | .status s => s.text
  | .verdict v => v.text
  | .call e => e.text
  | .plain t _ => t

/-- The error that led to this one. -/
def source : Cause → Option Cause
  | .fault f => f.source
  | .status s => s.source
  | .verdict v => some (.status v.status)
  | .call _ => none
  | .plain _ s => s

/-- An error around another one, but for its source. -/
inductive Wrapper where
  /-- An error with a text. -/
  | plain (text : String)
  /-- A status; the source it has is replaced. -/
  | status (s : Status)
  /-- A verdict; the source that its status has is replaced. -/
  | verdict (v : Verdict)

/-- The error whose source, or the source of whose status, is the given one. -/
def Wrapper.around : Wrapper → Cause → Cause
  | .plain text, c => .plain text (some c)
  | .status s, c => .status { s with source := some c }
  | .verdict v, c => .verdict { v with status := { v.status with source := some c } }

theorem sizeOf_lt_of_source {c s : Cause} (h : c.source = some s) : sizeOf s < sizeOf c := by
  cases c with
  | fault f => cases f; simp only [source] at h; subst h; simp; omega
  | status s => cases s; simp only [source] at h; subst h; simp; omega
  | verdict v => cases v; simp only [source, Option.some.injEq] at h; subst h; simp; omega
  | call e => simp [source] at h
  | plain t s => simp only [source] at h; subst h; simp; omega

end Cause

end CallGuard
