import CallGuard.Filter.Directive
import CallGuard.Text.Split

/-!
# Log filters

A log filter is written as directives with commas between them. Of the directives that apply to a
log event, the most specific one decides: one with a longer target before one with a shorter target
or none, then one that asks for more fields. Of two directives for the same target and fields the
later one counts. An event to which no directive applies does not pass.

Directives that ask for a span, or for the value of a field, apply to no event outside of spans.
-/

namespace CallGuard

/-- The directives of a log filter, in the order in which they are written. -/
structure Filter where
  directives : List Directive

namespace Filter

/-- Reads a log filter; empty parts do not count. -/
def parse (text : String) : Except FilterError Filter := do
  return ⟨← ((Text.split ',' text.toList).filter (· ≠ [])).mapM Directive.parse⟩

/-- The text is a log filter. -/
def isValid (text : String) : Bool :=
  match parse text with
  | .ok _ => true
  | .error _ => false

/-- The directive applies to log events outside of spans. -/
def isStatic (d : Directive) : Bool :=
  d.span.isNone && d.fields.all fun f => !f.hasValue

/-- The directive applies to an event with this target and these fields. -/
def applies (target : List Char) (fields : List (List Char)) (d : Directive) : Bool :=
  isStatic d && (match d.target with
    | some t => t.isPrefixOf target
    | none => true) && d.fields.all fun f => fields.contains f.name

/-- How specific a directive is: whether it has a target, the length of that in bytes, and the
number of fields. -/
def specificity (d : Directive) : Nat × Nat × List (List Char) :=
  (match d.target with
    | some t => (String.ofList t).utf8ByteSize + 1
    | none => 0, d.fields.length, d.fields.map (·.name))

/-- The first directive is at most as specific as the second one; of equal numbers of fields, the
names decide. -/
def isLessSpecific (a b : Directive) : Bool :=
  let (at', af, an) := specificity a
  let (bt, bf, bn) := specificity b
  if at' ≠ bt then decide (at' < bt)
  else if af ≠ bf then decide (af < bf)
  else !bn.lex an fun x y => x.lex y fun c d => c.toNat < d.toNat

/-- The directive that decides, among those that apply. -/
def decisive? (ds : List Directive) : Option Directive :=
  ds.foldl (fun best d => match best with
    | none => some d
    | some b => if isLessSpecific b d then some d else some b) none

/-- An event with this target and these fields may pass. -/
def allows (f : Filter) (target : String) (level : Level) (fields : List String) : Bool :=
  match decisive? (f.directives.filter (applies target.toList (fields.map String.toList))) with
  | some d => d.threshold.allows level
  | none => false

end Filter

end CallGuard
