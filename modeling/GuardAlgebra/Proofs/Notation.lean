import GuardAlgebra.Decimal.Notation
import GuardAlgebra.Proofs.Numerals

namespace GuardAlgebra.Decimal

/-! # How numbers are laid out

A finite floating-point number is written as digits that no zeros lead, a point with digits behind it,
and a power of ten, of which the point and the power may be missing. No digits but those of zero itself
begin with a zero: a decimal without digits rounds to no other number.
-/

/-- One digit or more. -/
structure AllDigits (text : List Char) : Prop where
  written : text ≠ []
  plain : ∀ char ∈ text, char.isDigit = true

/-- The parts of a number as it is written. -/
structure Parts (whole fraction power : List Char) : Prop where
  digits : AllDigits whole
  /-- No zero leads but a single one. -/
  led : whole.head? = some '0' → whole = ['0']
  pointed : fraction = [] ∨ ∃ digits, fraction = '.' :: digits ∧ AllDigits digits
  raised : power = [] ∨ ∃ sign digits, power = 'e' :: sign :: digits ∧ sign ∈ ['+', '-'] ∧
    AllDigits digits

/-- A text that is made of these parts. -/
def IsNumber (text : List Char) : Prop :=
  ∃ whole fraction power, text = whole ++ (fraction ++ power) ∧ Parts whole fraction power

section Nonzero

variable {value : Binary} {decimal : Number}

/-- Zero lies below all numbers that round to another one. -/
theorem digits_ne_zero_of_readsBack (nonzero : value.significand ≠ 0)
    (reads : value.readsBack decimal = true) : decimal.digits ≠ 0 := by
  intro zero
  have positive : 0 < 4 * value.significand - (if value.narrowBelow then 1 else 2) := by
    split <;> omega
  have below : comparePowers decimal.digits decimal.exponent
      (4 * value.significand - (if value.narrowBelow then 1 else 2)) (value.exponent - 2) = .lt := by
    rw [comparePowers, zero, Nat.zero_mul, Nat.zero_mul, Nat.compare_eq_lt]
    exact Nat.mul_pos (Nat.mul_pos positive (Nat.pow_pos (by decide))) (Nat.pow_pos (by decide))
  simp [Binary.readsBack, below] at reads

theorem readsBack_of_onGrid {tens : Int} (found : value.onGrid tens = some decimal) :
    value.readsBack decimal = true := by
  unfold Binary.onGrid at found
  dsimp only at found
  split at found
  next => cases found
  next low high =>
    cases found
    exact low
  next low high =>
    cases found
    exact high
  next low high =>
    split at found
    · cases found
      exact low
    · cases found
      exact high
    · split at found
      · cases found
        exact low
      · cases found
        exact high

theorem digits_exact_ne_zero (nonzero : value.significand ≠ 0) : value.exact.digits ≠ 0 := by
  unfold Binary.exact
  split
  · exact Nat.mul_ne_zero nonzero (Nat.ne_of_gt (Nat.pow_pos (by decide)))
  · exact Nat.mul_ne_zero nonzero (Nat.ne_of_gt (Nat.pow_pos (by decide)))

theorem digits_strip_ne_zero (nonzero : decimal.digits ≠ 0) (fuel : Nat) :
    (decimal.strip fuel).digits ≠ 0 := by
  induction fuel generalizing decimal with
  | zero => exact nonzero
  | succ fuel ih =>
      rw [Number.strip]
      split
      next zeros =>
        apply ih
        change decimal.digits / 10 ≠ 0
        omega
      next => exact nonzero

/-- Only zero is written with the digit zero in front, and it has no power. -/
theorem shortest_of_zero (value : Binary) (zero : value.shortest.digits = 0) :
    value.shortest.exponent = 0 := by
  by_cases nothing : value.significand = 0
  · rw [Binary.shortest, if_pos nothing]
  · rw [Binary.shortest, if_neg nothing] at zero
    refine absurd zero (digits_strip_ne_zero ?_ _)
    cases found : (List.range 17).findSome? fun digits =>
        value.onGrid (value.decimalScale - (digits + 1 : Nat)) with
    | none => exact digits_exact_ne_zero nothing
    | some decimal =>
        obtain ⟨_, _, onGrid⟩ := List.exists_of_findSome?_eq_some found
        exact digits_ne_zero_of_readsBack nothing (readsBack_of_onGrid onGrid)

end Nonzero

section Digits

variable {digits others : List Char}

theorem AllDigits.append (written : AllDigits digits) (plain : ∀ char ∈ others, char.isDigit = true) :
    AllDigits (digits ++ others) where
  written := fun empty => written.written (List.append_eq_nil_iff.mp empty).1
  plain := List.forall_mem_append.mpr ⟨written.plain, plain⟩

theorem plain_zeros (count : Nat) : ∀ char ∈ zeros count, char.isDigit = true := by
  intro char member
  rw [List.eq_of_mem_replicate member]
  rfl

theorem AllDigits.zeros_append (written : AllDigits digits) (count : Nat) :
    AllDigits (zeros count ++ digits) where
  written := fun empty => written.written (List.append_eq_nil_iff.mp empty).2
  plain := List.forall_mem_append.mpr ⟨plain_zeros count, written.plain⟩

theorem digitsOf_eq (number : Nat) : digitsOf number = Nat.toDigits 10 number := by
  simp [digitsOf, Nat.toString_eq_repr, Nat.repr_eq_ofList_toDigits]

theorem allDigits_digitsOf (number : Nat) : AllDigits (digitsOf number) := by
  rw [digitsOf_eq]
  exact ⟨Nat.toDigits_ne_nil, Text.toDigits_plain number⟩

theorem digitsOf_of_head? {number : Nat} (leads : (digitsOf number).head? = some '0') :
    digitsOf number = ['0'] ∧ number = 0 := by
  rw [digitsOf_eq] at leads ⊢
  have digits := Text.toDigits_of_head? leads
  have value := Text.ofDigits_toDigits number
  rw [digits] at value
  exact ⟨digits, value.symm⟩

end Digits

section Layout

variable {digits : List Char} {decimal : Number}

theorem isNumber_positional (written : AllDigits digits) {leading : Int}
    (led : digits.head? = some '0' → digits = ['0'] ∧ leading = 0) :
    IsNumber (positional leading digits) := by
  cases leading with
  | negSucc gap =>
      refine ⟨['0'], '.' :: (zeros gap ++ digits), [], (by simp [positional]), ?_⟩
      exact ⟨⟨by simp, by simp⟩, fun _ => rfl, .inr ⟨_, rfl, written.zeros_append gap⟩, .inl rfl⟩
  | ofNat weight =>
      rw [positional]
      split
      next inside =>
        refine ⟨digits.take (weight + 1), '.' :: digits.drop (weight + 1), [], (by simp), ?_⟩
        refine ⟨⟨?_, fun char member => written.plain char (List.mem_of_mem_take member)⟩, ?_,
          .inr ⟨_, rfl, ?_, fun char member => written.plain char (List.mem_of_mem_drop member)⟩,
          .inl rfl⟩
        · simp [written.written]
        · rw [List.head?_take, if_neg (Nat.succ_ne_zero weight)]
          intro leads
          obtain ⟨rfl, -⟩ := led leads
          simp at inside
        · intro none
          rw [List.drop_eq_nil_iff] at none
          omega
      next outside =>
        refine ⟨digits ++ zeros (weight + 1 - digits.length), ['.', '0'], [], (by simp), ?_⟩
        refine ⟨written.append (plain_zeros _), ?_, .inr ⟨_, rfl, by simp, by simp⟩, .inl rfl⟩
        rw [List.head?_append_of_ne_nil _ written.written]
        intro leads
        obtain ⟨rfl, weightless⟩ := led leads
        cases weightless
        rfl

theorem isNumber_exponential (written : AllDigits digits) (leading : Int)
    (led : digits.head? = some '0' → digits = ['0']) : IsNumber (exponential leading digits) := by
  obtain ⟨first, rest, rfl⟩ := List.exists_cons_of_ne_nil written.written
  have front : AllDigits [first] :=
    ⟨by simp, fun char member => written.plain char (List.mem_singleton.mp member ▸ List.mem_cons_self)⟩
  have single : [first].head? = some '0' → [first] = ['0'] := by simp
  have power : AllDigits (zeros (2 - (digitsOf leading.natAbs).length) ++ digitsOf leading.natAbs) :=
    (allDigits_digitsOf _).zeros_append _
  have sign : (if leading < 0 then '-' else '+') ∈ ['+', '-'] := by
    split <;> simp
  cases rest with
  | nil => exact ⟨[first], [], _, rfl, front, single, .inl rfl, .inr ⟨_, _, rfl, sign, power⟩⟩
  | cons next rest =>
      refine ⟨[first], '.' :: next :: rest, _, rfl, front, single, .inr ⟨_, rfl, by simp, ?_⟩,
        .inr ⟨_, _, rfl, sign, power⟩⟩
      exact fun char member => written.plain char (List.mem_cons_of_mem _ member)

theorem isNumber_layout (powerless : decimal.digits = 0 → decimal.exponent = 0) :
    IsNumber decimal.layout := by
  have written := allDigits_digitsOf decimal.digits
  have led (leads : (digitsOf decimal.digits).head? = some '0') :
      digitsOf decimal.digits = ['0'] ∧ decimal.scientific.1 = 0 := by
    obtain ⟨digits, zero⟩ := digitsOf_of_head? leads
    refine ⟨digits, ?_⟩
    rw [Number.scientific, powerless zero, digits]
    rfl
  unfold Number.layout
  dsimp only
  split
  · exact isNumber_positional written led
  · exact isNumber_exponential written _ fun leads => (led leads).1

end Layout

/-- A finite number is written as a number, behind a sign if it is negative. -/
theorem exists_of_render {number : Float} {negative : Bool} {magnitude : Binary}
    (finite : Real.ofFloat number = .finite negative magnitude) :
    ∃ text, IsNumber text ∧
      (render number).toList = (if negative then ['-'] else []) ++ text := by
  refine ⟨magnitude.shortest.layout, isNumber_layout (shortest_of_zero magnitude), ?_⟩
  rw [render, finite]
  exact String.toList_ofList

end GuardAlgebra.Decimal
