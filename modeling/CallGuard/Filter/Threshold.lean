import CallGuard.Journal

/-!
# Thresholds for log events

A threshold lets the events pass that matter at least as much as it asks for. It is written as the
name of a level in any case, as `off`, or as a number from zero to five.
-/

namespace CallGuard

/-- Which log events may pass. -/
inductive Threshold where
  /-- None. -/
  | off
  /-- Those of this level and of all that matter more. -/
  | level (l : Level)
deriving DecidableEq

namespace Threshold

/-- How much must be let pass for events of a level. -/
def verbosity : Level → Nat
  | .error => 1
  | .warn => 2
  | .info => 3
  | .debug => 4
  | .trace => 5

/-- How much the threshold lets pass. -/
def width : Threshold → Nat
  | off => 0
  | level l => verbosity l

/-- Events of the level may pass. -/
def allows (t : Threshold) (l : Level) : Bool :=
  verbosity l ≤ t.width

/-- The thresholds in the order of their numbers. -/
def all : List Threshold :=
  [off, level .error, level .warn, level .info, level .debug, level .trace]

/-- The name of a threshold. -/
def name : Threshold → String
  | off => "off"
  | level .error => "error"
  | level .warn => "warn"
  | level .info => "info"
  | level .debug => "debug"
  | level .trace => "trace"

/-- The number that decimal digits stand for; a plus sign may stand before them. -/
def number? (cs : List Char) : Option Nat :=
  let digits := match cs with
    | '+' :: rest => rest
    | cs => cs
  if digits = [] || !digits.all Char.isDigit then none
  else some (digits.foldl (fun n d => n * 10 + (d.toNat - '0'.toNat)) 0)

/-- The threshold that a text names. No text at all stands for errors only. -/
def ofText? (cs : List Char) : Option Threshold :=
  match (number? cs).bind (all[·]?) with
  | some t => some t
  | none =>
    if cs = [] then some (level .error)
    else all.find? fun t => t.name.toList = cs.map Char.toLower

end Threshold

end CallGuard
