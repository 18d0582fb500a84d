import Mathlib
import GuardAlgebra.Value.Hash

namespace GuardAlgebra

/-! # Equal numbers

Numbers are equal when they denote the same quantity, of whatever kind they are. For two doubles this
rests on a magnitude having but one significand and exponent; zero alone comes with two signs.
-/

namespace Decimal

namespace Binary

variable {bits other : UInt64}

theorem amount_eq (value : Binary) :
    value.amount = value.significand * (2 : ℚ) ^ value.exponent := by
  unfold amount
  cases value.exponent with
  | ofNat power => simp [Rat.mkRat_eq_div]
  | negSucc power => simp [Rat.mkRat_eq_div, zpow_negSucc, div_eq_mul_inv]

def biased (bits : UInt64) : Nat := (bits.toNat / Nat.pow 2 52) % 2048

def fraction (bits : UInt64) : Nat := bits.toNat % Nat.pow 2 52

theorem fraction_lt (bits : UInt64) : fraction bits < Nat.pow 2 52 := Nat.mod_lt _ (by decide)

theorem ofBits_of_subnormal (subnormal : biased bits = 0) :
    ofBits bits = ⟨fraction bits, -1074, false⟩ := if_pos subnormal

theorem ofBits_of_normal (normal : biased bits ≠ 0) :
    ofBits bits = ⟨Nat.pow 2 52 + fraction bits, (biased bits : Int) - 1075,
      fraction bits = 0 ∧ 1 < biased bits⟩ := if_neg normal

/-- The least magnitude. -/
def least : ℚ := 2 ^ (-1074 : Int)

/-- How often the least magnitude goes into the one held in the bits. -/
def units (bits : UInt64) : Nat :=
  if biased bits = 0 then fraction bits
  else (Nat.pow 2 52 + fraction bits) * 2 ^ (biased bits - 1)

theorem amount_ofBits (bits : UInt64) : (ofBits bits).amount = units bits * least := by
  rw [amount_eq, units, least]
  by_cases subnormal : biased bits = 0
  · rw [ofBits_of_subnormal subnormal, if_pos subnormal]
  · have exponent : (biased bits : Int) - 1075 = (biased bits - 1 : Nat) + (-1074) := by omega
    rw [ofBits_of_normal subnormal, if_neg subnormal, exponent, zpow_add₀ (two_ne_zero' ℚ),
      zpow_natCast, Nat.cast_mul, Nat.cast_pow, mul_assoc, Nat.cast_ofNat]

/-- A greater exponent outweighs every significand. -/
theorem units_lt (less : biased bits < biased other) : units bits < units other := by
  have bound := fraction_lt bits
  rw [units, units, if_neg (by omega : biased other ≠ 0)]
  by_cases subnormal : biased bits = 0
  · rw [if_pos subnormal]
    calc fraction bits < (Nat.pow 2 52 + fraction other) * 1 := by omega
      _ ≤ (Nat.pow 2 52 + fraction other) * 2 ^ (biased other - 1) :=
          Nat.mul_le_mul_left _ Nat.one_le_two_pow
  · rw [if_neg subnormal]
    have step : 2 * 2 ^ (biased bits - 1) ≤ 2 ^ (biased other - 1) := by
      rw [← Nat.pow_succ']
      exact Nat.pow_le_pow_right (by decide) (by omega)
    calc (Nat.pow 2 52 + fraction bits) * 2 ^ (biased bits - 1)
        < (Nat.pow 2 52 * 2) * 2 ^ (biased bits - 1) :=
          Nat.mul_lt_mul_of_pos_right (by omega) Nat.one_le_two_pow
      _ = Nat.pow 2 52 * (2 * 2 ^ (biased bits - 1)) := Nat.mul_assoc _ _ _
      _ ≤ Nat.pow 2 52 * 2 ^ (biased other - 1) := Nat.mul_le_mul_left _ step
      _ ≤ (Nat.pow 2 52 + fraction other) * 2 ^ (biased other - 1) :=
          Nat.mul_le_mul_right _ (Nat.le_add_right _ _)

theorem units_inj (same : units bits = units other) :
    biased bits = biased other ∧ fraction bits = fraction other := by
  have aligned : biased bits = biased other := by
    rcases Nat.lt_trichotomy (biased bits) (biased other) with less | equal | greater
    · exact absurd same (units_lt less).ne
    · exact equal
    · exact absurd same (units_lt greater).ne'
  refine ⟨aligned, ?_⟩
  rw [units, units, aligned] at same
  by_cases subnormal : biased other = 0
  · simpa [subnormal] using same
  · simp only [subnormal, if_false] at same
    have significands := Nat.eq_of_mul_eq_mul_right Nat.one_le_two_pow same
    omega

theorem amount_inj (same : (ofBits bits).amount = (ofBits other).amount) :
    biased bits = biased other ∧ fraction bits = fraction other := by
  rw [amount_ofBits, amount_ofBits] at same
  have positive : least ≠ 0 := zpow_ne_zero _ two_ne_zero
  exact units_inj (Nat.cast_injective (R := ℚ) (mul_right_cancel₀ positive same))

theorem amount_scaled (value : Binary) :
    value.amount * 2 ^ (-value.exponent).toNat =
      (value.significand * 2 ^ value.exponent.toNat : Nat) := by
  rw [amount_eq]
  push_cast
  rw [mul_assoc, ← zpow_natCast, ← zpow_natCast, ← zpow_add₀ (two_ne_zero' ℚ)]
  congr 2
  omega

theorem amount_nonneg (value : Binary) : 0 ≤ value.amount := by
  rw [amount_eq]
  exact mul_nonneg (Nat.cast_nonneg _) (zpow_nonneg zero_le_two _)

theorem amount_of_isWhole {value : Binary} (isWhole : value.isWhole = true) :
    value.amount = (value.whole : ℚ) := by
  obtain ⟨significand, exponent, narrow⟩ := value
  cases exponent with
  | ofNat power => simp [amount, whole, Rat.mkRat_eq_div]
  | negSucc power =>
      have divides : Nat.pow 2 (power + 1) ∣ significand :=
        Nat.dvd_of_mod_eq_zero (of_decide_eq_true isWhole)
      obtain ⟨times, rfl⟩ := divides
      have positive : 0 < Nat.pow 2 (power + 1) := Nat.pow_pos (by decide)
      have nonzero : ((Nat.pow 2 (power + 1) : Nat) : ℚ) ≠ 0 := by exact_mod_cast positive.ne'
      change mkRat ((Nat.pow 2 (power + 1) * times : Nat) : Int) (Nat.pow 2 (power + 1)) =
        ((Nat.pow 2 (power + 1) * times / Nat.pow 2 (power + 1) : Nat) : ℚ)
      rw [Rat.mkRat_eq_div, Nat.mul_div_cancel_left _ positive, Int.cast_natCast, Nat.cast_mul]
      exact mul_div_cancel_left₀ _ nonzero

theorem isWhole_of_amount {value : Binary} {number : Int} (same : value.amount = number) :
    value.isWhole = true := by
  obtain ⟨significand, exponent, narrow⟩ := value
  cases exponent with
  | ofNat power => rfl
  | negSucc power =>
      have positive : 0 < Nat.pow 2 (power + 1) := Nat.pow_pos (by decide)
      have nonzero : ((Nat.pow 2 (power + 1) : Nat) : ℚ) ≠ 0 := by exact_mod_cast positive.ne'
      change mkRat (significand : Int) (Nat.pow 2 (power + 1)) = (number : ℚ) at same
      rw [Rat.mkRat_eq_div, div_eq_iff nonzero] at same
      have product : (significand : Int) = number * (Nat.pow 2 (power + 1) : Nat) := by
        exact_mod_cast same
      have divides : Nat.pow 2 (power + 1) ∣ significand :=
        Int.natCast_dvd_natCast.mp ⟨number, product.trans (Int.mul_comm _ _)⟩
      exact decide_eq_true (Nat.mod_eq_zero_of_dvd divides)

end Binary

namespace Real

variable {number other : Float} {quantity : Quantity}

def isNegative (number : Float) : Bool := decide (Nat.pow 2 63 ≤ number.toBits.toNat)

/-- A double is told by its sign, its exponent and its fraction. -/
theorem float_ext (signs : isNegative number = isNegative other)
    (exponents : Binary.biased number.toBits = Binary.biased other.toBits)
    (fractions : Binary.fraction number.toBits = Binary.fraction other.toBits) :
    number = other := by
  have bound := number.toBits.toNat_lt
  have otherBound := other.toBits.toNat_lt
  simp only [isNegative, decide_eq_decide] at signs
  simp only [Binary.biased, Binary.fraction, Nat.pow_eq, Nat.reducePow] at exponents fractions signs
  rw [← Float.toBits_inj, ← UInt64.toNat_inj]
  omega

theorem ofFloat_of_finite (finite : Binary.biased number.toBits ≠ 2047) :
    ofFloat number = .finite (isNegative number) (.ofBits number.toBits) := if_neg finite

theorem ofFloat_of_infinite (great : Binary.biased number.toBits = 2047)
    (round : Binary.fraction number.toBits = 0) :
    ofFloat number = .infinite (isNegative number) := (if_pos great).trans (if_pos round)

theorem ofFloat_of_undefined (great : Binary.biased number.toBits = 2047)
    (rough : Binary.fraction number.toBits ≠ 0) : ofFloat number = .undefined :=
  (if_pos great).trans (if_neg rough)

/-- Only one double denotes nothing. -/
theorem eq_nan_of_undefined (undefined : ofFloat number = .undefined) : number = Float.nan := by
  by_cases great : Binary.biased number.toBits = 2047
  · by_cases round : Binary.fraction number.toBits = 0
    · rw [ofFloat_of_infinite great round] at undefined
      cases undefined
    · have valid := number.toModel.valid.eq_packedNaN
      have bits : Float.nan.toBits.toBitVec =
          Float.Model.UnpackedFloat.packedNaN Float.Model.Format.binary64 := by decide +kernel
      rw [← Float.toBits_inj, ← UInt64.toBitVec_inj, bits]
      apply valid
      · rw [Float.Model.UnpackedFloat.unpackExponent_def, ← BitVec.toNat_inj]
        change (number.toBits.toNat >>> 52) % Nat.pow 2 11 = 2047
        rw [Nat.shiftRight_eq_div_pow]
        exact great
      · rw [Float.Model.UnpackedFloat.unpackMantissa_def, Ne, ← BitVec.toNat_inj]
        change ¬ (number.toBits.toNat >>> 0) % Nat.pow 2 52 = 0
        exact round
  · rw [ofFloat_of_finite great] at undefined
    cases undefined

theorem ofFloat_nan : ofFloat Float.nan = .undefined := by decide +kernel

theorem quantity?_nan : (ofFloat Float.nan).quantity? = none := by
  rw [ofFloat_nan]
  rfl

theorem quantity?_zero : (ofFloat 0).quantity? = some (.finite 0) := by decide +kernel

theorem quantity?_negative_zero : (ofFloat (-0)).quantity? = some (.finite 0) := by decide +kernel

theorem exists_quantity (defined : number ≠ Float.nan) :
    ∃ quantity, (ofFloat number).quantity? = some quantity := by
  cases real : ofFloat number with
  | undefined => exact absurd (eq_nan_of_undefined real) defined
  | infinite negative => exact ⟨_, rfl⟩
  | finite negative magnitude => exact ⟨_, rfl⟩

theorem ne_nan_of_quantity (found : (ofFloat number).quantity? = some quantity) :
    number ≠ Float.nan := by
  rintro rfl
  rw [quantity?_nan] at found
  cases found

/-- The fraction that a finite double of this sign denotes. -/
def signed (negative : Bool) (amount : ℚ) : ℚ := if negative then -amount else amount

theorem quantity?_cases (found : (ofFloat number).quantity? = some quantity) :
    quantity = .finite (signed (isNegative number) (Binary.ofBits number.toBits).amount) ∨
      Binary.biased number.toBits = 2047 ∧ Binary.fraction number.toBits = 0 ∧
        quantity = .infinite (isNegative number) := by
  by_cases great : Binary.biased number.toBits = 2047
  · by_cases round : Binary.fraction number.toBits = 0
    · rw [ofFloat_of_infinite great round] at found
      exact .inr ⟨great, round, (Option.some.inj found).symm⟩
    · rw [ofFloat_of_undefined great round] at found
      cases found
  · rw [ofFloat_of_finite great] at found
    exact .inl (Option.some.inj found).symm

theorem signed_inj {negative also : Bool} {amount another : ℚ} (first : 0 ≤ amount)
    (second : 0 ≤ another) (same : signed negative amount = signed also another) :
    negative = also ∧ amount = another ∨ amount = 0 ∧ another = 0 := by
  cases negative <;> cases also <;> simp only [signed, if_true, if_false, Bool.false_eq_true] at same
  · exact .inl ⟨rfl, same⟩
  · right; constructor <;> linarith
  · right; constructor <;> linarith
  · exact .inl ⟨rfl, neg_injective same⟩

theorem eq_zero_of_amount (zero : (Binary.ofBits number.toBits).amount = 0) :
    number = 0 ∨ number = -0 := by
  have amount : (Binary.ofBits (0 : Float).toBits).amount = 0 := by decide +kernel
  have negativeAmount : (Binary.ofBits (-0 : Float).toBits).amount = 0 := by decide +kernel
  cases sign : isNegative number with
  | false =>
      obtain ⟨exponents, fractions⟩ := Binary.amount_inj (zero.trans amount.symm)
      refine .inl (float_ext ?_ exponents fractions)
      rw [sign]
      decide +kernel
  | true =>
      obtain ⟨exponents, fractions⟩ := Binary.amount_inj (zero.trans negativeAmount.symm)
      refine .inr (float_ext ?_ exponents fractions)
      rw [sign]
      decide +kernel

/-- Two doubles are equal when they denote the same. -/
theorem beq_iff :
    (number == other) = true ↔ ∃ quantity,
      (ofFloat number).quantity? = some quantity ∧ (ofFloat other).quantity? = some quantity := by
  rw [Float.beq_iff_ne_nan_and_eq]
  constructor
  · rintro ⟨defined, -, rfl | ⟨rfl, rfl⟩ | ⟨rfl, rfl⟩⟩
    · obtain ⟨quantity, found⟩ := exists_quantity defined
      exact ⟨quantity, found, found⟩
    · exact ⟨_, quantity?_zero, quantity?_negative_zero⟩
    · exact ⟨_, quantity?_negative_zero, quantity?_zero⟩
  · rintro ⟨quantity, found, otherFound⟩
    refine ⟨ne_nan_of_quantity found, ne_nan_of_quantity otherFound, ?_⟩
    rcases quantity?_cases found with rfl | ⟨great, round, rfl⟩
    · rcases quantity?_cases otherFound with same | ⟨-, -, same⟩
      · simp only [Quantity.finite.injEq] at same
        rcases signed_inj (Binary.amount_nonneg _) (Binary.amount_nonneg _) same with
          ⟨signs, amounts⟩ | ⟨zero, otherZero⟩
        · obtain ⟨exponents, fractions⟩ := Binary.amount_inj amounts
          exact .inl (float_ext signs exponents fractions)
        · rcases eq_zero_of_amount zero with rfl | rfl <;>
            rcases eq_zero_of_amount otherZero with rfl | rfl <;> simp
      · cases same
    · rcases quantity?_cases otherFound with same | ⟨otherGreat, otherRound, same⟩
      · cases same
      · simp only [Quantity.infinite.injEq] at same
        exact .inl (float_ext same (great.trans otherGreat.symm) (round.trans otherRound.symm))

theorem compareInt_eq_iff (real : Real) (integer : Int) :
    real.compareInt integer = some .eq ↔ real.quantity? = some (.finite integer) := by
  cases real with
  | undefined => simp [compareInt, quantity?]
  | infinite negative => cases negative <;> simp [compareInt, quantity?]
  | finite negative magnitude =>
      have scaled := magnitude.amount_scaled
      have positive : (2 : ℚ) ^ (-magnitude.exponent).toNat ≠ 0 := pow_ne_zero _ two_ne_zero
      simp only [compareInt, quantity?, Option.some.injEq, Quantity.finite.injEq,
        Std.LawfulEqCmp.compare_eq_iff_eq]
      rw [← mul_left_inj' positive, ← Int.cast_inj (α := ℚ)]
      cases negative <;> simp [scaled]

theorem integer?_eq_some_iff {real : Real} {number : Int} :
    real.integer? = some number ↔ real.quantity? = some (.finite number) := by
  cases real with
  | undefined => simp [integer?, quantity?]
  | infinite negative => simp [integer?, quantity?]
  | finite negative magnitude =>
      simp only [integer?, quantity?, truncate, Option.some.injEq, Quantity.finite.injEq,
        Option.ite_none_right_eq_some]
      constructor
      · rintro ⟨isWhole, same⟩
        rw [Binary.amount_of_isWhole isWhole, ← same]
        split <;> push_cast <;> rfl
      · intro same
        cases negative with
        | false =>
            have isWhole := Binary.isWhole_of_amount same
            have amount := (Binary.amount_of_isWhole isWhole).symm.trans same
            exact ⟨isWhole, Int.cast_inj.mp ((Int.cast_natCast _).trans amount)⟩
        | true =>
            have opposite : magnitude.amount = ((-number : Int) : ℚ) := by
              rw [Int.cast_neg]
              exact neg_eq_iff_eq_neg.mp same
            have isWhole := Binary.isWhole_of_amount opposite
            have amount := (Binary.amount_of_isWhole isWhole).symm.trans opposite
            have whole : (magnitude.whole : Int) = -number :=
              Int.cast_inj.mp ((Int.cast_natCast _).trans amount)
            exact ⟨isWhole, neg_eq_iff_eq_neg.mpr whole⟩

end Real

end Decimal

namespace Value

variable {value other : Value} {quantity : Decimal.Quantity}

theorem matchesInt_iff {number : Float} {integer : Int} :
    sameNumber?.matchesInt number integer = true ↔
      (Decimal.Real.ofFloat number).quantity? = some (.finite integer) := by
  rw [sameNumber?.matchesInt, decide_eq_true_iff, Decimal.Real.compareInt_eq_iff]

theorem number_cases (found : value.quantity? = some quantity) :
    (∃ truth, value = .bool truth) ∨ (∃ number, value = .int number) ∨
      ∃ site number, value = .float site number := by
  cases value <;> simp [quantity?] at found ⊢

theorem sameNumber?_iff :
    value.sameNumber? other = some true ↔
      ∃ quantity, value.quantity? = some quantity ∧ other.quantity? = some quantity := by
  fun_cases sameNumber? value other
  case case1 => simp [quantity?, Decimal.Real.beq_iff]
  case case2 | case3 | case4 | case5 => simp [quantity?, matchesInt_iff]
  case case6 => simp [quantity?, eq_comm]
  case case7 | case8 => simp [quantity?, eq_comm (a := (Bool.toNat _ : ℚ)), ← Int.cast_inj (α := ℚ)]
  case case9 one two => cases one <;> cases two <;> decide
  case case10 =>
    simp only [reduceCtorEq, false_iff]
    rintro ⟨quantity, found, otherFound⟩
    obtain ⟨_, rfl⟩ | ⟨_, rfl⟩ | ⟨_, _, rfl⟩ := number_cases found <;>
      obtain ⟨_, rfl⟩ | ⟨_, rfl⟩ | ⟨_, _, rfl⟩ := number_cases otherFound <;> grind

/-- Numbers that denote the same are equal. -/
theorem same_of_quantity (found : value.quantity? = some quantity)
    (otherFound : other.quantity? = some quantity) : value.same other = .ok true := by
  have numbers := sameNumber?_iff.mpr ⟨quantity, found, otherFound⟩
  obtain ⟨_, rfl⟩ | ⟨_, rfl⟩ | ⟨_, _, rfl⟩ := number_cases found <;>
    obtain ⟨_, rfl⟩ | ⟨_, rfl⟩ | ⟨_, _, rfl⟩ := number_cases otherFound <;>
    simp only [same, numbers]

end Value

end GuardAlgebra
