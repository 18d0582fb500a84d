import GuardAlgebra.Attribute.Access

/-!
What calls give. A value that is called answers at once, or with a computation that is still to be
awaited.
-/
namespace GuardAlgebra

inductive Answer where
  | now (value : Value)
  | later (run : Run Value)

namespace Answer

/-- The value of an answer, after waiting for it if need be. -/
def settle : Answer → Run Value
  | .now value => .done value
  | .later run => run

/-- The value of an answer that has to be waited for. -/
def await (site : Site) : Answer → Run Value
  | .now value => Run.fail site (.notAwaitable value.typeName)
  | .later run => run

/-- The answer as a value, not waited for. -/
def unawaited (site : Site) : Answer → Value
  | .now value => value
  | .later _ => .pending site

end Answer

/-- How values are called: what they are called with, and where. -/
abbrev Call : Type := Value → Arguments → Site → Run Answer

/-- What runs take place in: the classes and attributes of the session, and how values are called. -/
structure Surroundings where
  facts : Facts
  call : Call

namespace Surroundings

/-- Calls what an object has under a name. -/
def ask (around : Surroundings) (object : Value) (name : String) (arguments : Arguments)
    (site : Site) : Run Answer := do
  let function ← .ofExcept site (around.facts.read object name)
  around.call function arguments site

/-- Asks for a value that is there at once. -/
def demand (around : Surroundings) (object : Value) (name : String) (arguments : List Value)
    (site : Site) : Run Value := do
  let answer ← around.ask object name ⟨arguments, []⟩ site
  pure (answer.unawaited site)

end Surroundings

end GuardAlgebra
