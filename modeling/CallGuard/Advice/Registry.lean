import CallGuard.Advice.Method
import CallGuard.Hierarchy.Basic

/-!
# The registry of handler methods

A registry binds kinds of errors to handler methods. Registering an advice goes through its methods
in order. A method maps the kinds it lists, or the kind of its first parameter when it lists none,
and asks for a binding for each of them (`Registry.requests`). A request is granted when the kind is
free, changes nothing when the kind is bound to the same method already, and is refused when it is
bound to another one (`Registry.grant`). The first refusal, or the first method that does not know
what it maps, ends the registration.

Two methods are the same when the types of their advices and their positions in them are: names and
instances do not matter.
-/

namespace CallGuard

/-- A method of a registered advice. -/
structure Binding where
  /-- The type of the advice. -/
  owner : Nat
  /-- The position of the method in its advice. -/
  position : Nat
  /-- The name of the advice. -/
  advice : String
  /-- The method. -/
  method : Method

namespace Binding

variable (b : Binding)

/-- The name of the advice and that of the method. -/
def qualifiedName : String :=
  b.advice ++ "::" ++ b.method.name

/-- The two are the same method of the same type of advice. -/
def isSameMethod (c : Binding) : Bool :=
  b.owner == c.owner && b.position == c.position

/-- The arguments for a fault: the first parameter whose kind accepts that of the fault gets it. -/
def bind (h : Hierarchy) (f : Fault) : Arguments :=
  ⟨Arguments.fill (fun p => h.isAssignable p f.kind) f b.method.params⟩

/-- The text that shows a binding for inspection. -/
def inspect : String :=
  Text.partialRecordText "HandlerBinding"
    [("advice", Text.quote b.advice), ("method", Text.quote b.method.name),
      ("params", Text.listText (b.method.params.map Kind.inspect))]

end Binding

/-- Kinds with the methods they are bound to, in the order in which they were bound. -/
structure Registry where
  /-- The hierarchy that the kinds belong to. -/
  hierarchy : Hierarchy
  /-- Each bound kind with its method. -/
  bindings : List (Kind × Binding)
  /-- No kind stands twice. -/
  nodup : (bindings.map Prod.fst).Nodup

namespace Registry

/-- Why an advice cannot be registered. -/
inductive Error where
  /-- A method lists a kind that none of its parameters accepts. -/
  | parameterMismatch (method : String) (declared : Kind) (params : List Kind)
  /-- A method lists no kind and has no parameter. -/
  | nothingMapped (method : String)
  /-- A kind is mapped by two methods. -/
  | ambiguous (kind : Kind) (existing duplicate : String)

/-- What is wrong, in words. -/
def Error.message : Error → String
  | .parameterMismatch m d ps =>
    "parameter type mismatch: no parameter of handler method `" ++ m ++ "` " ++
      Text.listText (ps.map Kind.name) ++
      " is equal to or an ancestor of declared exception `" ++ d.name ++ "`"
  | .nothingMapped m =>
    "no mapped exception: handler method `" ++ m ++ "` lists no error types and has no parameters"
  | .ambiguous k e d =>
    "ambiguous mapping for `" ++ k.name ++ "`: \x7b" ++ Text.commaSeparated [e, d] ++ "\x7d"

/-- The list without each element that equals the one before it. -/
def squeeze : List Kind → List Kind
  | a :: b :: rest => if a = b then squeeze (b :: rest) else a :: squeeze (b :: rest)
  | ks => ks

variable (r : Registry)

/-- Nothing is bound. -/
def empty (h : Hierarchy) : Registry := ⟨h, [], List.nodup_nil⟩

/-- The method that a kind itself is bound to. -/
def get? (k : Kind) : Option Binding :=
  Keyed.get? k r.bindings

/-- The number of bound kinds. -/
def size : Nat :=
  r.bindings.length

/-- Nothing is bound. -/
def isEmpty : Bool :=
  r.bindings.isEmpty

/-- The kinds that the method of a binding maps. -/
def mappedKinds (b : Binding) : Except Error (List Kind) :=
  match b.method.listed, b.method.params with
  | [], [] => .error (.nothingMapped b.qualifiedName)
  | [], p :: _ => .ok [p]
  | listed, [] => .ok (squeeze listed)
  | listed, params =>
    match listed.find? fun k => !params.any fun p => r.hierarchy.isAssignable p k with
    | some k => .error (.parameterMismatch b.qualifiedName k params)
    | none => .ok (squeeze listed)

/-- The bindings that an advice offers, one for each of its methods. -/
def offers (a : Advice) : List Binding :=
  a.methods.zipIdx.map fun (m, i) => ⟨a.type, i, a.name, m⟩

/-- What an advice asks for, in order: bindings of kinds to its methods, with an error in the place
of a method that does not know what it maps. -/
def requests (a : Advice) : List (Except Error (Kind × Binding)) :=
  (offers a).flatMap fun b =>
    match r.mappedKinds b with
    | .error e => [.error e]
    | .ok ks => ks.map fun k => .ok (k, b)

theorem nodup_append {k : Kind} (b : Binding) (h : r.get? k = none) :
    ((r.bindings ++ [(k, b)]).map Prod.fst).Nodup := by
  rw [List.map_append, List.nodup_append]
  refine ⟨r.nodup, by simp, fun a ha c hc => ?_⟩
  rintro rfl
  simp only [List.map_cons, List.map_nil, List.mem_singleton] at hc
  exact Keyed.get?_eq_none_iff.1 h (hc ▸ ha)

/-- The registry with a kind bound to a method. -/
def grant (k : Kind) (b : Binding) : Except Error Registry :=
  match h : r.get? k with
  | none => .ok { r with bindings := r.bindings ++ [(k, b)], nodup := r.nodup_append b h }
  | some e =>
    if e.isSameMethod b then .ok r
    else .error (.ambiguous k e.qualifiedName b.qualifiedName)

/-- The registry after the requests in order. -/
def grantAll (r : Registry) : List (Except Error (Kind × Binding)) → Except Error Registry
  | [] => .ok r
  | .error e :: _ => .error e
  | .ok (k, b) :: rest =>
    match r.grant k b with
    | .error e => .error e
    | .ok r => grantAll r rest

/-- The registry with the methods of an advice. -/
def add (a : Advice) : Except Error Registry :=
  r.grantAll (r.requests a)

/-- The registry with the methods of several advices, in order. -/
def addAll (r : Registry) : List Advice → Except Error Registry
  | [] => .ok r
  | a :: rest =>
    match r.add a with
    | .error e => .error e
    | .ok r => addAll r rest

/-! ### Log events -/

/-- The log events for requests that are granted already, up to the first refusal. -/
def keptEntries (r : Registry) : List (Except Error (Kind × Binding)) → List Entry
  | [] => []
  | .error _ :: _ => []
  | .ok (k, b) :: rest =>
    match r.grant k b with
    | .error _ => []
    | .ok r' =>
      (match r.get? k with
        | some e =>
          [Entry.log .debug "Handler method already bound, keeping first registration"
            [("error_type", .text k.name), ("method", .text e.qualifiedName)]]
        | none => []) ++ keptEntries r' rest

/-- Registers an advice and writes log events about it. -/
def register (a : Advice) : Recorded (Except Error Registry) := do
  Recorded.log .debug "Registering exception advice"
    [("advice", .text a.name), ("methods", .count a.methods.length)]
  Recorded.write (r.keptEntries (r.requests a))
  return r.add a

/-- Registers advices in order. An error comes with the position of the advice it is about. -/
def registerAll (r : Registry) : Nat → List Advice → Recorded (Except (Nat × Error) Registry)
  | _, [] => pure (.ok r)
  | i, a :: rest => do
    match ← r.register a with
    | .error e => return .error (i, e)
    | .ok r => registerAll r (i + 1) rest

/-- The text that shows a registry for inspection. -/
def inspect : String :=
  Text.partialRecordText "HandlerRegistry"
    [("bindings", Text.listText (r.bindings.map fun b => b.1.inspect))]

/-- The text that shows a registry under construction for inspection. -/
def inspectSize : String :=
  Text.partialRecordText "HandlerRegistryBuilder" [("bindings", toString r.size)]

/-- The text that shows the bound kinds with their methods for inspection. -/
def inspectBindings : String :=
  Text.listText (r.bindings.map fun b =>
    "(" ++ Text.commaSeparated [b.1.inspect, b.2.inspect] ++ ")")

end Registry

end CallGuard
