import CallGuard.Text.Quoted
import CallGuard.Text.Record

/-!
# The method that is called

A method has a full name, of which the part up to the last slash names its service, and a type that
tells which sides stream.
-/

namespace CallGuard

/-- Which sides of a method send several messages. -/
inductive MethodType where
  | unary
  | clientStreaming
  | serverStreaming
  | bidiStreaming
deriving DecidableEq

/-- The name of a type of methods. -/
def MethodType.name : MethodType → String
  | unary => "Unary"
  | clientStreaming => "ClientStreaming"
  | serverStreaming => "ServerStreaming"
  | bidiStreaming => "BidiStreaming"

/-- A method that can be called. -/
structure Descriptor where
  /-- The name of the service, a slash, and the name of the method in it. -/
  fullName : String
  /-- Which sides stream. -/
  type : MethodType
deriving DecidableEq

namespace Descriptor

variable (d : Descriptor)

/-- What stands after the last slash; everything without one. -/
def methodName : String :=
  String.ofList ((d.fullName.toList.reverse.takeWhile (· ≠ '/')).reverse)

/-- What stands before the last slash; nothing without one. -/
def serviceName? : Option String :=
  match d.fullName.toList.reverse.dropWhile (· ≠ '/') with
  | [] => none
  | _ :: before => some (String.ofList before.reverse)

/-- The text that shows a descriptor for inspection. -/
def inspect : String :=
  Text.recordText "MethodDescriptor"
    [("full_name", Text.quote d.fullName), ("method_type", d.type.name)]

end Descriptor

end CallGuard
