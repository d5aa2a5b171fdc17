import CallGuard.Fault.Make

/-!
# Advices and their methods

An `Advice` is an object with handler methods. A `Method` lists the kinds it handles and declares
the kinds of its parameters; invoked with `Arguments`, one slot for each parameter, it answers with
a status, a verdict or another fault, has no answer, fails, or panics.
-/

namespace CallGuard

/-- What a handler method answers with. -/
inductive Answer where
  | status (s : Status)
  | verdict (v : Verdict)
  /-- Another fault, whose derived status counts. -/
  | fault (f : Fault)

/-- What a handler method is invoked with. -/
structure Arguments where
  /-- A slot for each parameter, filled or not. -/
  slots : List (Option Fault)

namespace Arguments

variable (args : Arguments)

/-- The fault in a slot. -/
def get? (i : Nat) : Option Fault :=
  (args.slots[i]?).join

/-- The fault in the first filled slot. -/
def error? : Option Fault :=
  args.slots.findSome? id

/-- The fault in the first filled slot; without one, a fresh fault that tells so. -/
def requireError : Recorded (Except Fault Fault) :=
  match args.error? with
  | some f => pure (.ok f)
  | none => do
    return .error (← Fault.new Kind.illegalState "handler invoked without an exception argument")

/-- The number of slots. -/
def size : Nat :=
  args.slots.length

/-- The slots of a method with these parameters for a fault: the first parameter that accepts it
gets it, the other slots stay empty. -/
def fill (accepts : Kind → Bool) (f : Fault) : List Kind → List (Option Fault)
  | [] => []
  | p :: ps => if accepts p then some f :: ps.map fun _ => none else none :: fill accepts f ps

end Arguments

/-- A method that handles errors. -/
structure Method where
  /-- The name of the method. -/
  name : String
  /-- The kinds that the method lists as handled. -/
  listed : List Kind
  /-- The kinds of its parameters. -/
  params : List Kind
  /-- What happens when it is invoked. -/
  run : Arguments → Recorded (Outcome (Option Answer))

/-- The text that shows a method for inspection. -/
def Method.inspect (m : Method) : String :=
  Text.partialRecordText "HandlerMethod"
    [("name", Text.quote m.name), ("handles", Text.listText (m.listed.map Kind.inspect)),
      ("params", Text.listText (m.params.map Kind.inspect))]

/-- An object with methods that handle errors. -/
structure Advice where
  /-- What tells the type of the object from other types. -/
  type : Nat
  /-- The name of the advice. -/
  name : String
  /-- Its handler methods. -/
  methods : List Method

end CallGuard
