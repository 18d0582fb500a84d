import GuardAlgebra.Decimal.Binary
import GuardAlgebra.Value.Kind

/-!
Which values count as true. Empty containers and texts, zero and nothing are false; the result of a
check answers by what it allows, which must then be a truth value.
-/
namespace GuardAlgebra.Value

def truth : Value → Except Fault Bool
  | .none => .ok false
  | .bool truth => .ok truth
  | .int number => .ok (number ≠ 0)
  | .float _ number => .ok ((Decimal.Real.ofFloat number).compareInt 0 ≠ some .eq)
  | .str text => .ok (text ≠ "")
  | .bytes octets => .ok (!octets.isEmpty)
  | .list _ items | .tuple _ items => .ok (!items.isEmpty)
  | .dict _ entries => .ok (!entries.isEmpty)
  | .result _ (.bool allowed) _ => .ok allowed
  | .result _ allowed _ => .error (.undecided allowed.typeName)
  | _ => .ok true

end GuardAlgebra.Value
