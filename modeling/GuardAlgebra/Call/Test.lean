import GuardAlgebra.Call.Answer

/-!
Tests that application callables make of a context and a value: what they read of them, and how a
value that lacks it fails. What the context tells of being authenticated is passed on as it is.
-/
namespace GuardAlgebra

/-- Whether a number is above a bound; no other value can be. -/
def Value.isAbove (bound : Int) : Value → Except Fault Bool
  | .int number => .ok (bound < number)
  | .bool truth => .ok (bound < truth.toNat)
  | .float _ number => .ok ((Decimal.Real.ofFloat number).compareInt bound = some .gt)
  | value => .error (.unorderable value.typeName "int")

namespace Test

/-- What the test says of a context and a value. -/
def holds (around : Surroundings) (site : Site) (context value : Value) : Test → Run Value
  | .authenticated => .ofExcept site (around.facts.read context "is_authenticated")
  | .organization expected => do
      let organization ← .ofExcept site (around.facts.read context "organization_id")
      agree organization expected
  | .user key expected => do
      match ← .ofExcept site (around.facts.read context "user") with
      | .none => pure (.bool false)
      | known =>
          let found ← around.demand known "get" [key] (site.child 0)
          agree found expected
  | .extra key expected => do
      let found ← around.demand context "get" [key] (site.child 0)
      agree found expected
  | .contextIs expected => agree context expected
  | .above bound => judge (value.isAbove bound)
  | .shorter bound => judge (value.length.map fun length => (length : Int) < bound)
  | .truthy => judge value.truth
  | .owner => do
      let owner ← .ofAttempt (value.item site (.str "owner_id"))
      let user ← .ofExcept site (around.facts.read context "user")
      let id ← .ofAttempt (user.item site (.str "id"))
      agree owner id
where
  judge (truth : Except Fault Bool) : Run Value := .ofExcept site (truth.map Value.bool)
  agree (value other : Value) : Run Value := judge (value.same other)

end Test

end GuardAlgebra
