/-!
Doubles as exact numbers: a finite double is a signed significand times a power of two, read from
its bits, so that comparing it with an integer or cutting off its fraction is done exactly.
-/
namespace GuardAlgebra.Decimal

/-- The magnitude `significand * 2 ^ exponent` of a finite double. -/
structure Binary where
  significand : Nat
  exponent : Int
  /-- The gap to the next smaller magnitude is half the gap to the next larger one. -/
  narrowBelow : Bool
  deriving Repr, DecidableEq

/-- The magnitude held in the bits of a finite double. -/
def Binary.ofBits (bits : UInt64) : Binary :=
  let biased : Nat := (bits.toNat / Nat.pow 2 52) % 2048
  let fraction : Nat := bits.toNat % Nat.pow 2 52
  if biased = 0 then ⟨fraction, -1074, false⟩
  else ⟨Nat.pow 2 52 + fraction, (biased : Int) - 1075, fraction = 0 ∧ 1 < biased⟩

/-- The whole part of the magnitude. -/
def Binary.whole (value : Binary) : Nat :=
  match value.exponent with
  | .ofNat power => value.significand * Nat.pow 2 power
  | .negSucc power => value.significand / Nat.pow 2 (power + 1)

def Binary.isWhole (value : Binary) : Bool :=
  match value.exponent with
  | .ofNat _ => true
  | .negSucc power => value.significand % Nat.pow 2 (power + 1) = 0

/-- A double as a number: not a number, an infinity, or a finite magnitude with a sign. -/
inductive Real where
  | undefined
  | infinite (negative : Bool)
  | finite (negative : Bool) (magnitude : Binary)
  deriving Repr, DecidableEq

def Real.ofFloat (number : Float) : Real :=
  let bits := number.toBits
  let negative := decide (Nat.pow 2 63 ≤ bits.toNat)
  if (bits.toNat / Nat.pow 2 52) % 2048 = 2047 then
    if bits.toNat % Nat.pow 2 52 = 0 then .infinite negative else .undefined
  else .finite negative (.ofBits bits)

/-- The number without its fraction; none for infinities and what is no number. -/
def Real.truncate : Real → Option Int
  | .finite negative magnitude =>
      some (if negative then -(magnitude.whole : Int) else magnitude.whole)
  | _ => none

/-- The integer that a whole number is. -/
def Real.integer? : Real → Option Int
  | .finite negative magnitude =>
      if magnitude.isWhole then (Real.finite negative magnitude).truncate else none
  | _ => none

/-- How the number compares with an integer; none for what is no number. -/
def Real.compareInt : Real → Int → Option Ordering
  | .undefined, _ => none
  | .infinite negative, _ => some (if negative then .lt else .gt)
  | .finite negative magnitude, other =>
      let scaled : Int := magnitude.significand * Nat.pow 2 magnitude.exponent.toNat
      let signed := if negative then -scaled else scaled
      some (compare signed (other * Nat.pow 2 (-magnitude.exponent).toNat))

end GuardAlgebra.Decimal
