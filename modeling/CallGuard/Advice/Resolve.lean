import CallGuard.Advice.Registry

/-!
# Which method handles a kind

A kind is handled by the method that is bound to the nearest of its ancestors, itself included. Of
several bound ancestors at the same distance the one that was bound first counts.
-/

namespace CallGuard

namespace Registry

/-- The first of the candidates with the least distance. -/
def nearest? {α : Type} : List (Nat × α) → Option (Nat × α)
  | [] => none
  | c :: cs =>
    match nearest? cs with
    | none => some c
    | some best => if c.1 ≤ best.1 then some c else some best

variable (r : Registry)

/-- The bound ancestors of a kind with their distances, in the order in which they were bound. -/
def candidates (k : Kind) : List (Nat × Kind × Binding) :=
  r.bindings.filterMap fun b => (r.hierarchy.distance b.1 k).map (·, b)

/-- The bound kind that handles a kind, with its method. -/
def resolveBound? (k : Kind) : Option (Kind × Binding) :=
  (nearest? (r.candidates k)).map (·.2)

/-- The method that handles a kind. -/
def resolve? (k : Kind) : Option Binding :=
  (r.resolveBound? k).map (·.2)

/-- Some method handles the kind. -/
def isMapped (k : Kind) : Bool :=
  (r.resolve? k).isSome

/-- The text that shows a registry as a resolver for inspection. -/
def inspectResolver : String :=
  Text.recordText "HandlerResolver" [("registry", r.inspect)]

end Registry

end CallGuard
