import CallGuard.Interceptor.Basic

/-!
# Chains of interceptors

A chain starts a service behind interceptors, which stand in ascending order; of equal order, the
one that was added first stands first.
-/

namespace CallGuard

/-- A service behind interceptors. -/
structure Chain where
  /-- The interceptors, outermost first. -/
  interceptors : List Interceptor
  /-- What is started behind them. -/
  service : Start

namespace Chain

/-- The interceptors in ascending order, those of equal order as they were. -/
def arrange (is : List Interceptor) : List Interceptor :=
  is.mergeSort fun a b => decide (a.order ≤ b.order)

theorem order_trans (a b c : Interceptor) (hab : decide (a.order ≤ b.order))
    (hbc : decide (b.order ≤ c.order)) : decide (a.order ≤ c.order) :=
  decide_eq_true (Int.le_trans (of_decide_eq_true hab) (of_decide_eq_true hbc))

theorem order_total (a b : Interceptor) :
    decide (a.order ≤ b.order) || decide (b.order ≤ a.order) := by
  simpa using Int.le_total a.order b.order

/-- The names of the interceptors, outermost first. -/
def names (c : Chain) : List String :=
  c.interceptors.map (·.name)

/-- The names as a list, for inspection. -/
def inspectNames (c : Chain) : String :=
  Text.listText (c.names.map Text.quote)

/-- The chain of interceptors that were added in this order. -/
def build (is : List Interceptor) (service : Start) : Recorded Chain := do
  let c : Chain := ⟨arrange is, service⟩
  Recorded.log .debug "Interceptor chain built" [("interceptors", .text c.inspectNames)]
  return c

/-- Starts the service behind the interceptors. -/
def start (c : Chain) : Start :=
  c.interceptors.foldr (fun i next => i.intercept next) c.service

/-- The text that shows a chain for inspection. -/
def inspect (c : Chain) : String :=
  Text.partialRecordText "InterceptorChain" [("interceptors", c.inspectNames)]

/-- The text that shows a chain with a number of interceptors under construction. -/
def inspectSize (count : Nat) : String :=
  Text.partialRecordText "InterceptorChainBuilder" [("interceptor_count", toString count)]

end Chain

end CallGuard
