import CallGuard.Format.Json
import CallGuard.Format.Toml.Basic
import CallGuard.Settings.Error
import CallGuard.Settings.Layer

/-!
# Settings in documents

A document is a record of sections, and a section is a record of fields. Every part may be left out.
No part may come twice or be unknown, and each field has to have a value of its type.

A record may also be a list of its parts in their order, of which the last ones may be missing. In
JSON nothing may follow the last part; in TOML whatever follows it does not count. A format is
written as its name; or as a table with nothing but the name as key, whose value is null in JSON,
and an empty table or array in TOML.
-/

namespace CallGuard

namespace Settings

namespace DocumentFormat

/-- The value that a document in the format stands for. -/
def read? (format : DocumentFormat) (document : String) : Option Value :=
  match format with
  | .toml => Toml.read document
  | .json => Json.read document

/-- The value says nothing more about the name that it stands under. -/
def isBare (format : DocumentFormat) (v : Value) : Bool :=
  match format, v with
  | .json, .null => true
  | .toml, .list [] => true
  | .toml, .table _ [] => true
  | _, _ => false

/-- The parts of a record by name, each name one of those given and none twice. -/
def parts? (format : DocumentFormat) (names : List String) (v : Value) :
    Option (List (String × Value)) :=
  match format, v with
  | _, .table _ entries =>
    if (entries.map (·.1)).Nodup ∧ ∀ e ∈ entries, e.1 ∈ names then some entries else none
  | .toml, .list items => some (names.zip items)
  | .json, .list items => if items.length ≤ names.length then some (names.zip items) else none
  | _, _ => none

end DocumentFormat

/-- The truth value that a value is. -/
def bool? : Value → Option Bool
  | .bool b => some b
  | _ => none

/-- The text that a value is. -/
def text? : Value → Option String
  | .text t => some t
  | _ => none

/-- The format of log lines that a value stands for. -/
def logFormat? (format : DocumentFormat) : Value → Option LogFormat
  | .text t => LogFormat.ofName? t
  | .table _ [(name, v)] => if format.isBare v then LogFormat.ofName? name else none
  | _ => none

/-- What a value sets a field to. -/
def Field.value? (format : DocumentFormat) (v : CallGuard.Value) :
    (f : Field) → Option f.Value
  | .handlerEnabled | .logUnmapped | .loggingEnabled | .ansiEnabled | .includeLocation
  | .metricsEnabled => bool? v
  | .failureDescription | .level => text? v
  | .format => logFormat? format v

namespace Layer

/-- The layer with the fields set that the parts of a section set. -/
def addFields? (format : DocumentFormat) (s : Section) (l : Layer) :
    List (String × Value) → Option Layer
  | [] => some l
  | (name, v) :: rest => do
    let f ← s.fields.find? (·.name = name)
    addFields? format s (l.set f (← f.value? format v)) rest

/-- The layer with the fields set that the parts of a document set. -/
def addSections? (format : DocumentFormat) (l : Layer) : List (String × Value) → Option Layer
  | [] => some l
  | (name, v) :: rest => do
    let s ← Section.all.find? (·.name = name)
    let parts ← format.parts? (s.fields.map Field.name) v
    addSections? format (← addFields? format s l parts) rest

/-- What a document says. -/
def ofDocument? (format : DocumentFormat) (document : String) : Option Layer := do
  let parts ← format.parts? (Section.all.map Section.name) (← format.read? document)
  addSections? format .empty parts

end Layer

end Settings

end CallGuard
