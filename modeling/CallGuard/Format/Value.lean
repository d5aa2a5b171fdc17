/-!
# Values of configuration documents

What a configuration document can say, in whatever format it is written. Numbers, dates and times
are kept as they are written, because no setting takes one.
-/

namespace CallGuard

/-- How a table came about, which decides whether it can still be added to. -/
inductive Origin where
  /-- Written out in one place, between braces. -/
  | inline
  /-- Begun by a header of its own. -/
  | header
  /-- Begun by the header of a table inside it. -/
  | implied
  /-- Begun by a dotted key. -/
  | dotted
deriving DecidableEq

/-- A value in a configuration document. -/
inductive Value where
  | null
  | bool (b : Bool)
  | text (t : String)
  /-- A number, a date or a time. -/
  | scalar (written : String)
  | list (items : List Value)
  | table (origin : Origin) (entries : List (String × Value))

end CallGuard
