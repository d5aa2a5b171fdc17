import CallGuard.Text.Quoted
import CallGuard.Text.Record

/-!
# Kinds of errors

An error is classified by its kind, and a kind is nothing but a name: two kinds are equal exactly
when their names are. Four kinds are built in.
-/

namespace CallGuard

/-- The kind of an error. -/
structure Kind where
  /-- The name by which kinds are told apart. -/
  name : String
deriving DecidableEq, Inhabited

namespace Kind

/-- The root of every hierarchy: each kind is a subkind of it. -/
def any : Kind := ⟨"Error"⟩

/-- The kind of a fault that was a panic. -/
def panicked : Kind := ⟨"Panic"⟩

/-- The kind of a fault made from a status. -/
def status : Kind := ⟨"StatusError"⟩

/-- The kind of a fault that tells of a call or a handler in the wrong state. -/
def illegalState : Kind := ⟨"IllegalState"⟩

/-- The text that shows a kind for inspection. -/
def inspect (k : Kind) : String :=
  Text.variantText "ErrorType" (Text.quote k.name)

end Kind

end CallGuard
