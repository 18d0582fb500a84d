import GuardAlgebra.Decimal.Binary

/-!
What numbers denote, apart from their kind: an exact fraction, or one of the infinities. What is no
number denotes nothing.
-/
namespace GuardAlgebra.Decimal

inductive Quantity where
  | finite (amount : Rat)
  | infinite (negative : Bool)
  deriving DecidableEq, Repr

/-- The magnitude as a fraction. -/
def Binary.amount (value : Binary) : Rat :=
  match value.exponent with
  | .ofNat power => mkRat (value.significand * Nat.pow 2 power) 1
  | .negSucc power => mkRat value.significand (Nat.pow 2 (power + 1))

def Real.quantity? : Real → Option Quantity
  | .undefined => none
  | .infinite negative => some (.infinite negative)
  | .finite negative magnitude =>
      some (.finite (if negative then -magnitude.amount else magnitude.amount))

end GuardAlgebra.Decimal
