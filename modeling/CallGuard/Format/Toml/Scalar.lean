import CallGuard.Format.Parsed
import CallGuard.Format.Toml.Moment

/-!
# Numbers, dates and times at the front of a text

Such a value is as long as its letters, digits and signs go on, and only a date may have a space in
it, before its time. `Toml.scalar` keeps it as it is written.
-/

namespace CallGuard

namespace Toml

/-- The character may stand in a number, a date or a time. -/
def inScalar (c : Char) : Bool :=
  c.isAlphanum || c ∈ ['_', '+', '-', '.', ':']

/-- A number, a date or a time. -/
def scalar (s : List Char) : Option (Parsed String s) :=
  let word := s.takeWhile inScalar
  let plain := s.dropWhile inScalar
  let timed := match plain with
    | ' ' :: r => if isDate word && isTimeOfDate (r.takeWhile inScalar) then some r else none
    | _ => none
  let written := match timed with
    | some r => word ++ ' ' :: r.takeWhile inScalar
    | none => word
  let rest := (timed.map (·.dropWhile inScalar)).getD plain
  if h : rest.length < s.length then
    if isInteger word || isFloat word || isMoment word then
      some ⟨String.ofList written, rest, h⟩
    else none
  else none

end Toml

end CallGuard
