/-!
Linearisation of multiple inheritance: one order of all ancestors of a class that keeps every class
before its own ancestors and respects the order of every list of parents.
-/
namespace GuardAlgebra.Linearization

variable {α : Type} [DecidableEq α]

/-- The first head that stands in no tail. -/
def nextHead (orders : List (List α)) : Option α :=
  (orders.filterMap List.head?).find? fun candidate =>
    orders.all fun order => !order.tail.contains candidate

/-- Takes a class off the front of every order that begins with it. -/
def dropHead (chosen : α) (orders : List (List α)) : List (List α) :=
  orders.map fun order => if order.head? = some chosen then order.tail else order

/-- Merges the orders, choosing one class at each turn; none when no class may come next. -/
def mergeWithin : Nat → List (List α) → Option (List α)
  | 0, orders => if orders.all List.isEmpty then some [] else none
  | fuel + 1, orders =>
      if orders.all List.isEmpty then some [] else do
        let chosen ← nextHead orders
        let rest ← mergeWithin fuel (dropHead chosen orders)
        pure (chosen :: rest)

/-- Every turn shortens an order, so the merge ends within the sum of their lengths. -/
def merge (orders : List (List α)) : Option (List α) :=
  mergeWithin orders.flatten.length orders

/-- The order of a class with the given parents, each with its own order; none when the parents are
not all different or their orders contradict each other. -/
def linearize (cls : α) (parents : List (α × List α)) : Option (List α) := do
  let names := parents.map Prod.fst
  if names.Nodup then
    let rest ← merge (parents.map Prod.snd ++ [names])
    pure (cls :: rest)
  else none

end GuardAlgebra.Linearization
