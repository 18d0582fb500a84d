import GuardAlgebra.Call.Answer

/-!
Operators. Guards compose with guards and post guards with post guards, by the method of the left
one; integers combine bit by bit, and dictionaries into one with the entries of both, of which the
right ones stand.
-/
namespace GuardAlgebra

inductive Operator where
  | and
  | or
  deriving DecidableEq, Repr

namespace Operator

def symbol : Operator → String
  | .and => "&"
  | .or => "|"

/-- The method that composes guards. -/
def method : Operator → String
  | .and => "and_"
  | .or => "or_"

/-- Combines integers bit by bit, as if they went on for ever to the left. -/
def bits : Operator → Int → Int → Int
  | .and, first, second =>
      match first, second with
      | .ofNat first, .ofNat second => .ofNat (first &&& second)
      | .ofNat first, .negSucc second => .ofNat (first ^^^ (first &&& second))
      | .negSucc first, .ofNat second => .ofNat (second ^^^ (second &&& first))
      | .negSucc first, .negSucc second => .negSucc (first ||| second)
  | .or, first, second =>
      match first, second with
      | .ofNat first, .ofNat second => .ofNat (first ||| second)
      | .ofNat first, .negSucc second => .negSucc (second ^^^ (second &&& first))
      | .negSucc first, .ofNat second => .negSucc (first ^^^ (first &&& second))
      | .negSucc first, .negSucc second => .negSucc (first &&& second)

def truths : Operator → Bool → Bool → Bool
  | .and, first, second => first && second
  | .or, first, second => first || second

end Operator

namespace Surroundings

/-- Combines two values by an operator. -/
def operate (around : Surroundings) (operator : Operator) (left right : Value) (site : Site) :
    Run Value :=
  match operator, left, right with
  | operator, .guard tree, .guard other =>
      around.demand (.guard tree) operator.method [.guard other] site
  | .and, .post tree, .post other => around.demand (.post tree) Operator.and.method [.post other] site
  | operator, .bool truth, .bool other => .done (.bool (operator.truths truth other))
  | operator, .int number, .int other => .done (.int (operator.bits number other))
  | operator, .bool truth, .int other => .done (.int (operator.bits truth.toNat other))
  | operator, .int number, .bool truth => .done (.int (operator.bits number truth.toNat))
  | .or, .dict _ entries, .dict _ others => do
      let entries ← .ofExcept site (Value.extend entries others)
      pure (.dict site entries)
  | operator, left, right =>
      .fail site (.unsupportedOperands operator.symbol left.typeName right.typeName)

end Surroundings

end GuardAlgebra
