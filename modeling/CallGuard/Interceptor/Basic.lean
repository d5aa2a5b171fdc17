import CallGuard.Call.Guard

/-!
# Interceptors

An interceptor stands between a call and what is started with it. It is given a way to go on, which
takes a call and headers and comes back with a listener, and it may go on or not, with the call and
the headers it got or with others, and change what comes back.

`Interceptor.guarding` puts calls under guard. What follows it is started with the guarded call; the
listener that comes back is put under guard as well, and an error on the way is an error of the
call.
-/

namespace CallGuard

/-- Starts something with a call and its headers, which comes back with a listener. -/
abbrev Start := Call → Metadata → Run Listener

/-- What stands between a call and what is started with it. -/
structure Interceptor where
  /-- The name by which it is shown. -/
  name : String
  /-- Its place among others: the lower, the earlier. -/
  order : Int
  /-- Starts with a call and headers, given the way to go on. -/
  intercept : Start → Start

namespace Interceptor

/-- The first place of all. -/
def highestPrecedence : Int := -2147483648

/-- The last place of all. -/
def lowestPrecedence : Int := 2147483647

/-- The place of an interceptor that asks for none. -/
def defaultOrder : Int := 0

/-- Starts what follows with a guarded call. -/
def interceptGuarded (fallback : FragileFallback) (next : Start) : Start := fun call headers => do
  let g ← GuardedCall.start fallback call
  match ← Run.catchFault (next g.asCall headers) with
  | .ok l => return g.listener l
  | .error f =>
    Run.log .trace "Failed to start exception handler call"
      [("error_type", .text f.kind.name), ("error", .text f.text)]
    g.handleFailure f
    return Listener.silent

/-- The interceptor that puts calls under guard; it takes the first place. -/
def guardingWith (fallback : FragileFallback) : Interceptor where
  name := "exception-handler"
  order := highestPrecedence
  intercept := interceptGuarded fallback

/-- The same, with an observer whose hooks come back. -/
def guarding (fallback : Fallback) : Interceptor :=
  guardingWith fallback

/-- The text that shows the guarding interceptor for inspection. -/
def inspectGuarding : String :=
  Text.partialRecordText "ExceptionHandlerInterceptor" []

end Interceptor

end CallGuard
