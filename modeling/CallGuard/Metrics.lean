import CallGuard.Journal

/-!
# Metrics

Counters are a view of the journal: the value of a series is the number of its increments
(`Metrics.total`). `Metrics.lines` is their text exposition, one line for each series that was
incremented, and for each metric with such a series a line with its type and, once the metrics are
described, one with its description. Series whose label values are escaped alike share the line of
the first of them. The lines are sorted.
-/

namespace CallGuard

namespace Metrics

/-- The metric that counts how errors came to their statuses. -/
def exceptionsTotal : String := "aegis_exceptions_total"

/-- The metric that counts the codes of statuses. -/
def statusCodesTotal : String := "aegis_status_codes_total"

/-- The metric that counts the errors no handler mapped. -/
def unmappedTotal : String := "aegis_unmapped_exceptions_total"

/-- What a metric counts, in words. -/
def description (metric : String) : String :=
  if metric = exceptionsTotal then "Total number of call errors resolved to a status"
  else if metric = statusCodesTotal then "Total number of status codes produced for call errors"
  else "Total number of call errors no exception handler was bound for"

/-- The label of a way to a status. -/
def resolutionLabel : Resolution → String
  | .mapped => "mapped"
  | .handlerFailure => "handler_failure"
  | .fallback => "fallback"

/-- The metric of a series, the name of its label and the value of the label. -/
def address : Series → String × String × String
  | .resolved r => (exceptionsTotal, "outcome", resolutionLabel r)
  | .coded c => (statusCodesTotal, "code", c.name)
  | .unmapped k => (unmappedTotal, "error_type", k.name)

/-- The increments that were written into the journal, in order. -/
def increments (journal : List Entry) : List Series :=
  journal.filterMap fun
    | .counted s => some s
    | _ => none

/-- The value of a series. -/
def total (s : Series) (journal : List Entry) : Nat :=
  (increments journal).count s

/-- The characters of a label value with backslash, quote and newline escaped by a backslash; a
backslash that stands before a backslash or a quote counts as escaping it already. `held` tells
that the character before was such a backslash and is not written yet. -/
def escapeLabel (held : Bool) : List Char → List Char
  | [] => if held then ['\\', '\\'] else []
  | '\n' :: cs => '\\' :: 'n' :: escapeLabel held cs
  | '"' :: cs => '\\' :: '"' :: escapeLabel false cs
  | '\\' :: cs => if held then '\\' :: '\\' :: escapeLabel false cs else escapeLabel true cs
  | c :: cs => (if held then ['\\', '\\'] else []) ++ c :: escapeLabel false cs

/-- The metric and the label of a series, as its line shows them. -/
def heading (s : Series) : String :=
  let (metric, label, labelValue) := address s
  metric ++ "\x7b" ++ label ++ "=\"" ++ String.ofList (escapeLabel false labelValue.toList) ++
    "\"\x7d"

/-- The line of a series with its value. -/
def seriesLine (s : Series) (value : Nat) : String :=
  heading s ++ " " ++ toString value

/-- The lines that stand above the series of a metric. -/
def headLines (described : Bool) (metric : String) : List String :=
  (if described then ["# HELP " ++ metric ++ " " ++ description metric] else []) ++
    ["# TYPE " ++ metric ++ " counter"]

/-- The text exposition of all series that were incremented, its lines sorted. -/
def lines (described : Bool) (journal : List Entry) : List String :=
  let series := (increments journal).eraseDupsBy fun a b => heading a == heading b
  let metrics := (series.map fun s => (address s).1).eraseDups
  (metrics.flatMap (headLines described) ++ series.map fun s => seriesLine s (total s journal))
    |>.mergeSort fun a b => decide (a ≤ b)

end Metrics

end CallGuard
