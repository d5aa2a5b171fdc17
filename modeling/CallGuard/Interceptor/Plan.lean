import CallGuard.Interceptor.Basic

/-!
# Plans

What an interceptor or a service does with a call, written down as data. A `Plan` says what to do
with the call that it is carried out on: close it, look at the result and go on accordingly, write
into the journal, and at last end in some way.

The plan of a service ends with a listener, a failure or a panic. The plan of an interceptor ends
with a `Choice`: it answers by itself, or it goes on, once, with the call it got and headers of its
own, and has another plan for whatever comes back.
-/

namespace CallGuard

/-- What to do with a call before ending with a value. -/
inductive Plan (α : Type) where
  | finish (value : α)
  /-- Closes the call; the rest depends on the result. -/
  | close (status : Status) (trailers : Metadata) (rest : CallResult → Plan α)
  /-- Writes into the journal. -/
  | write (entries : List Entry) (rest : Plan α)

/-- Carries out a plan on a call. -/
def Plan.run {α : Type} (call : Call) : Plan α → Run α
  | .finish a => pure a
  | .close s trailers rest => do (rest (← call.close s trailers)).run call
  | .write es rest => do
    Run.write es
    rest.run call

/-- How the plan of an interceptor ends. -/
inductive Choice where
  /-- Answers without going on. -/
  | answer (result : Outcome Listener)
  /-- Goes on with these headers, and has a plan for what comes back. -/
  | goOn (headers : Metadata) (after : Outcome Listener → Plan (Outcome Listener))

/-- A service that follows a plan, chosen by the headers. It notes the call that it is started
with. -/
def Start.following (plan : Metadata → Plan (Outcome Listener)) : Start := fun call headers => do
  Run.noteStart call
  Run.raise (← (plan headers).run call)

namespace Interceptor

/-- Follows a plan, chosen by the headers. -/
def interceptFollowing (plan : Metadata → Plan Choice) (next : Start) : Start :=
  fun call headers => do
    match ← (plan headers).run call with
    | .answer result => Run.raise result
    | .goOn headers after =>
      Run.raise (← (after (← Run.attempt (next call headers))).run call)

/-- An interceptor that follows a plan. -/
def following (name : String) (order : Int) (plan : Metadata → Plan Choice) : Interceptor where
  name
  order
  intercept := interceptFollowing plan

end Interceptor

end CallGuard
