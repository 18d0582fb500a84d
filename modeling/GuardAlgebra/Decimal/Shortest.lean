import GuardAlgebra.Decimal.Binary

/-!
The shortest decimal that reads back to a given double, found by exact arithmetic: for one digit,
two digits and so on, the two neighbours of the value on the decimal grid of that many digits are
tried against the interval of numbers that round to the value.
-/
namespace GuardAlgebra.Decimal

/-- The number `digits * 10 ^ exponent`. -/
structure Number where
  digits : Nat
  exponent : Int
  deriving Repr, DecidableEq

/-- How `digits * 10 ^ tens` compares with `count * 2 ^ twos`. -/
def comparePowers (digits : Nat) (tens : Int) (count : Nat) (twos : Int) : Ordering :=
  compare (digits * Nat.pow 10 tens.toNat * Nat.pow 2 (-twos).toNat)
    (count * Nat.pow 2 twos.toNat * Nat.pow 10 (-tens).toNat)

/-- The decimal lies among the numbers that round to the value: between the midpoints to its
neighbours, the midpoints themselves belonging to even significands. -/
def Binary.readsBack (value : Binary) (decimal : Number) : Bool :=
  let quarter := value.exponent - 2
  let below := 4 * value.significand - (if value.narrowBelow then 1 else 2)
  let above := 4 * value.significand + 2
  let closed := value.significand % 2 = 0
  (match comparePowers decimal.digits decimal.exponent below quarter with
    | .gt => true
    | .eq => closed
    | .lt => false) &&
  (match comparePowers decimal.digits decimal.exponent above quarter with
    | .lt => true
    | .eq => closed
    | .gt => false)

/-- The least power of ten above the value, from its binary logarithm corrected by exact
comparisons. -/
def Binary.decimalScale (value : Binary) : Int :=
  let estimate := ((value.significand.log2 + value.exponent) * 30103).fdiv 100000 - 1
  let tries := (List.range 4).map fun step => estimate + (step : Nat)
  (tries.find? fun scale =>
    comparePowers 1 scale value.significand value.exponent = .gt).getD (estimate + 4)

/-- The value in units of `10 ^ tens`, rounded down. -/
def Binary.unitsOf (value : Binary) (tens : Int) : Nat :=
  (value.significand * Nat.pow 2 value.exponent.toNat * Nat.pow 10 (-tens).toNat) /
    (Nat.pow 2 (-value.exponent).toNat * Nat.pow 10 tens.toNat)

/-- The neighbour on the grid of `10 ^ tens` that reads back; of two, the nearer, and on a tie the
even one. -/
def Binary.onGrid (value : Binary) (tens : Int) : Option Number :=
  let low : Number := ⟨value.unitsOf tens, tens⟩
  let high : Number := ⟨value.unitsOf tens + 1, tens⟩
  match value.readsBack low, value.readsBack high with
  | false, false => none
  | true, false => some low
  | false, true => some high
  | true, true =>
      match comparePowers (low.digits + high.digits) tens (2 * value.significand) value.exponent with
      | .gt => some low
      | .lt => some high
      | .eq => some (if low.digits % 2 = 0 then low else high)

/-- The value itself in decimal, with as many digits as it takes. -/
def Binary.exact (value : Binary) : Number :=
  match value.exponent with
  | .ofNat power => ⟨value.significand * Nat.pow 2 power, 0⟩
  | .negSucc power => ⟨value.significand * Nat.pow 5 (power + 1), .negSucc power⟩

/-- Moves zeros at the end of the digits into the exponent. -/
def Number.strip (decimal : Number) : Nat → Number
  | 0 => decimal
  | fuel + 1 =>
      if decimal.digits ≠ 0 ∧ decimal.digits % 10 = 0 then
        Number.strip ⟨decimal.digits / 10, decimal.exponent + 1⟩ fuel
      else decimal

/-- The shortest decimal that reads back to the value, zero included. -/
def Binary.shortest (value : Binary) : Number :=
  if value.significand = 0 then ⟨0, 0⟩ else
    let scale := value.decimalScale
    let found := (List.range 17).findSome? fun digits => value.onGrid (scale - (digits + 1 : Nat))
    let decimal := found.getD value.exact
    decimal.strip decimal.digits

end GuardAlgebra.Decimal
