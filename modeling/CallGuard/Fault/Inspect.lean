import CallGuard.Fault.Basic

/-!
# Faults, statuses and verdicts for inspection

The texts that show the structure of an error and of what led to it. A status shows its message, its
details and its metadata only if they are not empty, and a fault shows the number of the errors
suppressed in its favour.
-/

namespace CallGuard

mutual

/-- The text that shows a fault for inspection. -/
def Fault.inspect : Fault → String
  | ⟨_, kind, message, source, suppressed⟩ =>
    Text.recordText "Fault"
      [("kind", kind.inspect), ("message", Text.optionText (message.map Text.quote)),
        ("source", match source with
          | none => Text.optionText none
          | some c => Text.optionText (some c.inspect)),
        ("suppressed", toString suppressed.length)]

/-- The text that shows a status for inspection. -/
def Status.inspect : Status → String
  | ⟨code, message, details, metadata, source⟩ =>
    Text.recordText "Status"
      ([("code", code.name)] ++
        (if message = "" then [] else [("message", Text.quote message)]) ++
        (if details = [] then [] else [("details", Text.quoteBytes details)]) ++
        (if metadata.isEmpty then [] else [("metadata", metadata.inspect)]) ++
        [("source", match source with
          | none => Text.optionText none
          | some c => Text.optionText (some c.inspect))])

/-- The text that shows a verdict for inspection. -/
def Verdict.inspect : Verdict → String
  | ⟨status, trailers⟩ =>
    Text.recordText "StatusError" [("status", status.inspect), ("trailers", trailers.inspect)]

/-- The text that shows an error for inspection. -/
def Cause.inspect : Cause → String
  | .fault f => f.inspect
  | .status s => s.inspect
  | .verdict v => v.inspect
  | .call e => e.inspect
  | .plain text source =>
    Text.recordText "Plain"
      [("text", Text.quote text),
        ("source", match source with
          | none => Text.optionText none
          | some c => Text.optionText (some c.inspect))]

end

end CallGuard
