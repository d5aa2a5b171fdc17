import CallGuard.Filter.Pattern.Basic
import CallGuard.Filter.Threshold
import CallGuard.Text.Number
import CallGuard.Text.Split

/-!
# Directives of a log filter

A directive is a threshold for the log events of some targets. It is written as a threshold, as a
target, as `target=threshold`, or as `target[span{field,…}]=threshold`, where target, span, fields
and the threshold with its sign may each be left out. A lone text that does not name a threshold is
a target.

A directive begins with a bracket, a letter, a digit, or one of `-`, `:` and `_`. White space at its
two ends does not count for where its parts begin and end, but each part is cut out of the text as
it stands, white space included.

A field is written as its name, or as `name=value`, where the value is a number or a pattern. What
follows another sign of equality in it does not count.
-/

namespace CallGuard

/-- A field that a directive asks for, perhaps with a value. -/
structure FieldMatch where
  name : List Char
  hasValue : Bool
deriving DecidableEq

/-- A threshold with what it applies to. -/
structure Directive where
  /-- How the targets begin to which it applies; all targets, if nothing is said. -/
  target : Option (List Char)
  /-- The span that has to be entered. -/
  span : Option (List Char)
  /-- The fields that have to be there. -/
  fields : List FieldMatch
  threshold : Threshold

/-- Why a text is no log filter. -/
inductive FilterError where
  | invalidDirective
  | invalidThreshold
  /-- The value of a field is neither a number nor a pattern. -/
  | invalidValue (reason : PatternError)
deriving DecidableEq

/-- What is wrong, in words. -/
def FilterError.message : FilterError → String
  | .invalidDirective => "invalid filter directive"
  | .invalidThreshold =>
    "error parsing level filter: expected one of \"off\", \"error\", \"warn\", \"info\", " ++
      "\"debug\", \"trace\", or a number 0-5"
  | .invalidValue reason => "invalid field filter: " ++ reason.message

namespace Directive

/-- The text from a number of bytes on, if a character begins there. -/
def dropBytes : Nat → List Char → Option (List Char)
  | 0, cs => some cs
  | _, [] => none
  | n, c :: cs => if c.utf8Size ≤ n then dropBytes (n - c.utf8Size) cs else none

/-- The first characters of a text with a number of bytes, if a character ends there. -/
def takeBytes : Nat → List Char → Option (List Char)
  | 0, _ => some []
  | _, [] => none
  | n, c :: cs =>
    if c.utf8Size ≤ n then (takeBytes (n - c.utf8Size) cs).map (c :: ·) else none

/-- The part of a text between two positions, counted in bytes. -/
def cut (text : List Char) (first last : Nat) : Except FilterError (List Char) :=
  match (dropBytes first text).bind (takeBytes (last - first)) with
  | some part => .ok part
  | none => .error .invalidDirective

/-- The rest of a text from a position on. -/
def cutFrom (text : List Char) (first : Nat) : Except FilterError (List Char) :=
  match dropBytes first text with
  | some part => .ok part
  | none => .error .invalidDirective

/-- What is being read, and the position where it began. -/
inductive Place where
  | start
  | levelOrTarget
  | span (first : Nat)
  | field (first : Nat)
  /-- After the last field. -/
  | fields
  /-- After the bracket that closes a span. -/
  | target
  | threshold (first : Nat)

/-- What is known of a directive before anything of it was read. -/
def blank : Directive := ⟨none, none, [], .level .trace⟩

/-- The field that a text asks for. -/
def fieldOf (cs : List Char) : Except FilterError FieldMatch :=
  match Text.split '=' cs with
  | name :: value :: _ =>
    if Text.isNumber value then .ok ⟨name, true⟩
    else match Pattern.check value with
      | .ok () => .ok ⟨name, true⟩
      | .error e => .error (.invalidValue e)
  | _ => .ok ⟨cs, false⟩

/-- Reads a character at a position. -/
def step (text : List Char) (d : Directive) (place : Place) (i : Nat) (c : Char) :
    Except FilterError (Directive × Place) :=
  match place, c with
  | .start, '[' => .ok (d, .span (i + 1))
  | .start, c =>
    if c = '-' || c = ':' || c = '_' || Text.isAlphanumeric c then .ok (d, .levelOrTarget)
    else .error .invalidDirective
  | .levelOrTarget, '=' => do
    return ({ d with target := some (← cut text 0 i) }, .threshold (i + 1))
  | .levelOrTarget, '[' => do
    return ({ d with target := some (← cut text 0 i) }, .span (i + 1))
  | .levelOrTarget, _ => .ok (d, place)
  | .target, '=' => .ok (d, .threshold (i + 1))
  | .span first, ']' => do
    return ({ d with span := some (← cut text first i) }, .target)
  | .span first, '\x7b' => do
    let name ← cut text first i
    return ({ d with span := if name = [] then none else some name }, .field (i + 1))
  | .span _, _ => .ok (d, place)
  | .field first, '\x7d' => do
    let name ← cut text first i
    if name = [] then .error .invalidDirective
    else return ({ d with fields := d.fields ++ [← fieldOf name] }, .fields)
  | .field _, _ => .ok (d, place)
  | .fields, ']' => .ok (d, .target)
  | .threshold _, _ => .ok (d, place)
  | _, _ => .error .invalidDirective

/-- Reads characters from a position on. -/
def scan (text : List Char) (d : Directive) (place : Place) (i : Nat) :
    List Char → Except FilterError (Directive × Place)
  | [] => .ok (d, place)
  | c :: cs =>
    match step text d place i c with
    | .ok (d, place) => scan text d place (i + c.utf8Size) cs
    | .error e => .error e

/-- Reads the end of a directive. -/
def finish (text : List Char) (d : Directive) : Place → Except FilterError Directive
  | .levelOrTarget =>
    match Threshold.ofText? text with
    | some t => .ok { d with threshold := t, target := none }
    | none => .ok { d with threshold := .level .trace, target := some text }
  | .threshold first => do
    let rest ← cutFrom text first
    if rest = [] then return { d with threshold := .level .trace }
    else match Threshold.ofText? rest with
      | some t => return { d with threshold := t }
      | none => .error .invalidThreshold
  | .target => .ok d
  | _ => .error .invalidDirective

/-- Reads a directive. -/
def parse (text : List Char) : Except FilterError Directive :=
  match scan text blank .start 0 (Text.trim text) with
  | .ok (d, place) => finish text d place
  | .error e => .error e

end Directive

end CallGuard
