import GuardAlgebra.Proofs.Numerals
import GuardAlgebra.Proofs.Sequence
import GuardAlgebra.Settings.Digits
import GuardAlgebra.Value.Silence

namespace GuardAlgebra.Settings.Digits

/-! # Whole numbers in the texts of settings

The grammar of the texts that a number is read from: blanks around, a plus sign or none, zeros and
underscores that begin with a zero, the number itself with single underscores between its digits, and a
point with zeros behind it. A number is read from the texts that spell it, and from no others.
-/

/-- A number as it is written; zero may have a minus sign. -/
def Written (number : Int) (digits : List Char) : Prop :=
  digits = (toString number).toList ∨ number = 0 ∧ digits = ['-', '0']

/-- A number with underscores in it that stand alone. -/
structure Grouped (number : Int) (body : List Char) : Prop where
  written : Written number (body.filter (· ≠ '_'))
  single : ¬['_', '_'] <:+: body
  first : body.head? ≠ some '_'
  last : body.getLast? ≠ some '_'
  bounded : isSpelled number = true

/-- What may stand in front of a number: zeros, with underscores behind the first one. -/
def Zeros (text : List Char) : Prop :=
  text = [] ∨ ∃ run, text = '0' :: run ∧ ∀ char ∈ run, char = '0' ∨ char = '_'

/-- A fraction of nothing. -/
def Pointed (text : List Char) : Prop :=
  text = [] ∨ ∃ run, text = '.' :: '0' :: run ∧ ∀ char ∈ run, char = '0'

/-- The number that a text spells. No minus sign may follow a plus sign at once. -/
inductive Spells : List Char → Int → Prop where
  | spelled {before plus zeros body fraction after : List Char} {number : Int}
      (blankBefore : ∀ char ∈ before, Text.isSpace char = true)
      (signed : plus = [] ∨ plus = ['+'] ∧ (zeros ++ (body ++ fraction)).head? ≠ some '-')
      (led : Zeros zeros) (grouped : Grouped number body) (pointed : Pointed fraction)
      (blankAfter : ∀ char ∈ after, Text.isSpace char = true) :
      Spells (before ++ (plus ++ (zeros ++ (body ++ fraction))) ++ after) number

variable {text rest digits body : List Char} {number : Int} {magnitude : Nat} {char : Char}

section Magnitudes

theorem isDigit_eq : isDigit = Char.isDigit := rfl

theorem digitChar_digitOf (plain : char.isDigit = true) :
    digitOf char < 10 ∧ (digitOf char).digitChar = char := by
  have bounds : 48 ≤ char.toNat ∧ char.toNat ≤ 57 := by
    simpa [Char.isDigit, UInt32.le_iff_toNat_le] using plain
  have each : ∀ value < 10, value.digitChar = Char.ofNat ('0'.toNat + value) := by decide
  have value : '0'.toNat + digitOf char = char.toNat := by
    rw [digitOf]
    simp
    omega
  have small : digitOf char < 10 := by
    simp at value
    omega
  refine ⟨small, ?_⟩
  rw [each _ small, value, Char.ofNat_toNat]

/-- Digits behind those of a number are the digits of another one. -/
theorem toDigits_foldl (positive : 0 < magnitude) (plain : ∀ char ∈ digits, char.isDigit = true) :
    Nat.toDigits 10 ((digits.map digitOf).foldl (fun number digit => number * 10 + digit) magnitude) =
      Nat.toDigits 10 magnitude ++ digits := by
  induction digits generalizing magnitude with
  | nil => rw [List.append_nil]; rfl
  | cons char digits ih =>
      obtain ⟨isDigit, plain⟩ := List.forall_mem_cons.mp plain
      obtain ⟨small, shown⟩ := digitChar_digitOf isDigit
      rw [List.map_cons, List.foldl_cons, ih (by omega) plain, Nat.mul_comm magnitude,
        ← Nat.toDigits_append_toDigits (by decide) positive small, Nat.toDigits_of_lt_base small, shown,
        List.append_assoc]
      rfl

/-- Digits that no zero leads are those of their own value. -/
theorem toDigits_valueOf (written : digits ≠ []) (led : digits.head? ≠ some '0')
    (plain : ∀ char ∈ digits, char.isDigit = true) :
    Nat.toDigits 10 (Text.valueOf 10 (digits.map digitOf)) = digits := by
  obtain ⟨char, digits, rfl⟩ := List.exists_cons_of_ne_nil written
  obtain ⟨isDigit, plain⟩ := List.forall_mem_cons.mp plain
  obtain ⟨small, shown⟩ := digitChar_digitOf isDigit
  have positive : 0 < digitOf char := by
    rw [Nat.pos_iff_ne_zero]
    intro zero
    rw [zero] at shown
    exact led (congrArg some shown.symm)
  rw [Text.valueOf, List.map_cons, List.foldl_cons, Nat.zero_mul, Nat.zero_add,
    toDigits_foldl positive plain, Nat.toDigits_of_lt_base small, shown]
  rfl

theorem valueOf_toDigits (magnitude : Nat) :
    Text.valueOf 10 ((Nat.toDigits 10 magnitude).map digitOf) = magnitude := by
  rw [Text.valueOf_ten]
  exact Text.ofDigits_toDigits magnitude

/-- Digits that no zero leads are read as their value, if there are not too many. -/
theorem magnitude_eq_ok_iff_of_led (written : text ≠ []) (led : text.head? ≠ some '0') :
    Digits.magnitude text = .ok magnitude ↔
      text = Nat.toDigits 10 magnitude ∧ magnitude < Nat.pow 10 Text.digitBound := by
  have several : 0 < Text.digitBound := by decide
  have read : Digits.magnitude text =
      if Text.digitBound < (text.takeWhile isDigit).length then .error .tooLong
      else if (text.takeWhile isDigit).length = text.length then
        .ok (Text.valueOf 10 ((text.takeWhile isDigit).map digitOf))
      else .error .malformed := by
    unfold Digits.magnitude
    split
    · exact absurd rfl written
    · exact absurd rfl led
    · exact absurd rfl led
    · rfl
  rw [read, isDigit_eq]
  by_cases plain : ∀ char ∈ text, char.isDigit = true
  · rw [List.takeWhile_eq_self_iff.mpr plain, if_pos rfl]
    have value := toDigits_valueOf written led plain
    split
    next long =>
      refine ⟨fun same => (nomatch same), fun ⟨same, few⟩ => absurd long (Nat.not_lt.mpr ?_)⟩
      rw [same]
      exact (Text.length_toDigits_le_iff several).mpr few
    next short =>
      constructor
      · intro same
        cases same
        refine ⟨value.symm, (Text.length_toDigits_le_iff several).mp ?_⟩
        rw [value]
        exact Nat.not_lt.mp short
      · rintro ⟨same, -⟩
        rw [same, valueOf_toDigits]
  · have partial' : (text.takeWhile Char.isDigit).length ≠ text.length := fun same =>
      plain (List.takeWhile_eq_self_iff.mp ((List.takeWhile_prefix _).eq_of_length same))
    rw [if_neg partial']
    constructor
    · intro same
      split at same <;> cases same
    · exact fun ⟨same, _⟩ => absurd (same ▸ Text.toDigits_plain magnitude) plain

theorem magnitude_eq_ok_iff :
    Digits.magnitude text = .ok magnitude ↔
      text = Nat.toDigits 10 magnitude ∧ magnitude < Nat.pow 10 Text.digitBound := by
  have several : 0 < Text.digitBound := by decide
  by_cases written : text = []
  · rw [written]
    exact ⟨fun same => (nomatch same), fun ⟨same, _⟩ => absurd same.symm Nat.toDigits_ne_nil⟩
  by_cases led : text.head? = some '0'
  · obtain ⟨rest, rfl⟩ := List.head?_eq_some_iff.mp led
    cases rest with
    | nil =>
        have zero : Nat.toDigits 10 0 = ['0'] := rfl
        constructor
        · intro same
          cases same
          exact ⟨zero.symm, (Text.length_toDigits_le_iff several).mp (by rw [zero]; decide)⟩
        · rintro ⟨same, -⟩
          rw [← valueOf_toDigits magnitude, ← same]
          rfl
    | cons next rest =>
        refine ⟨fun same => (nomatch same), fun ⟨same, _⟩ => ?_⟩
        have single := Text.toDigits_of_head? (same ▸ led)
        rw [← same] at single
        cases single
  · exact magnitude_eq_ok_iff_of_led written led

end Magnitudes

section Signs

theorem written_toDigits (magnitude : Nat) : Written magnitude (Nat.toDigits 10 magnitude) := by
  rw [Written, Text.toList_toString, if_neg (by omega), Int.natAbs_natCast]
  exact .inl rfl

theorem written_minus (magnitude : Nat) :
    Written (-(magnitude : Int)) ('-' :: Nat.toDigits 10 magnitude) := by
  rw [Written, Text.toList_toString]
  by_cases zero : magnitude = 0
  · rw [zero]
    exact .inr ⟨rfl, rfl⟩
  · rw [if_pos (by omega), Int.natAbs_neg, Int.natAbs_natCast]
    exact .inl rfl

/-- A number is written with the digits of its magnitude, behind a minus sign or not. -/
theorem written_cases (written : Written number text) :
    (∃ magnitude : Nat, number = magnitude ∧ text = Nat.toDigits 10 magnitude) ∨
      ∃ magnitude : Nat, number = -(magnitude : Int) ∧ text = '-' :: Nat.toDigits 10 magnitude := by
  rw [Written, Text.toList_toString] at written
  obtain rfl | ⟨rfl, rfl⟩ := written
  · split
    next negative => exact .inr ⟨number.natAbs, by omega, rfl⟩
    next positive => exact .inl ⟨number.natAbs, by omega, rfl⟩
  · exact .inr ⟨0, rfl, rfl⟩

theorem ofBare_of_unsigned (unsigned : text.head? ≠ some '-') :
    ofBare text = (Digits.magnitude text).map fun (number : Nat) => (number : Int) := by
  unfold ofBare
  split
  next => exact absurd rfl unsigned
  next => rfl

theorem head?_toDigits_ne (magnitude : Nat) : (Nat.toDigits 10 magnitude).head? ≠ some '-' :=
  fun signed => nomatch Text.toDigits_plain magnitude '-' (List.mem_of_head? signed)

theorem ofBare_eq_ok_iff :
    ofBare text = .ok number ↔ Written number text ∧ isSpelled number = true := by
  have spelled (number : Int) :
      isSpelled number = true ↔ number.natAbs < Nat.pow 10 Text.digitBound := decide_eq_true_iff
  constructor
  · intro read
    unfold ofBare at read
    split at read <;> obtain ⟨magnitude, found, rfl⟩ := Attempt.map_eq_ok.mp read <;>
      obtain ⟨rfl, few⟩ := magnitude_eq_ok_iff.mp found
    · exact ⟨written_minus magnitude, (spelled _).mpr (by rwa [Int.natAbs_neg, Int.natAbs_natCast])⟩
    · exact ⟨written_toDigits magnitude, (spelled _).mpr (by rwa [Int.natAbs_natCast])⟩
  · rintro ⟨written, few⟩
    rw [spelled] at few
    obtain ⟨magnitude, rfl, rfl⟩ | ⟨magnitude, rfl, rfl⟩ := written_cases written
    · rw [Int.natAbs_natCast] at few
      rw [ofBare_of_unsigned (head?_toDigits_ne magnitude), magnitude_eq_ok_iff.mpr ⟨rfl, few⟩]
      rfl
    · rw [Int.natAbs_neg, Int.natAbs_natCast] at few
      rw [ofBare, magnitude_eq_ok_iff.mpr ⟨rfl, few⟩]
      rfl

end Signs

section Front

theorem skipZeros?_eq_some {previous : Char} (found : skipZeros? previous text = some rest)
    (skipped : previous = '0' ∨ previous = '_') :
    ∃ run, previous :: text = run ++ rest ∧ ∀ char ∈ run, char = '0' ∨ char = '_' := by
  fun_induction skipZeros? previous text with
  | case1 previous =>
      cases found
      exact ⟨[], rfl, List.forall_mem_nil _⟩
  | case2 previous char text skips ih =>
      obtain ⟨run, parts, each⟩ := ih found (by simpa using skips)
      exact ⟨previous :: run, by rw [parts]; rfl, List.forall_mem_cons.mpr ⟨skipped, each⟩⟩
  | case3 previous char text stays starts =>
      cases found
      exact ⟨[previous], rfl, List.forall_mem_singleton.mpr skipped⟩
  | case4 previous char text =>
      cases found
      exact ⟨[], rfl, List.forall_mem_nil _⟩
  | case5 => cases found

theorem exists_of_dropZeros? (found : dropZeros? text = some rest) :
    ∃ zeros, text = zeros ++ rest ∧ Zeros zeros := by
  unfold dropZeros? at found
  split at found
  next text =>
    obtain ⟨run, parts, each⟩ := skipZeros?_eq_some found (.inl rfl)
    cases run with
    | nil => exact ⟨[], parts, .inl rfl⟩
    | cons char run =>
        cases parts
        exact ⟨_, rfl, .inr ⟨run, rfl, (List.forall_mem_cons.mp each).2⟩⟩
  next =>
    split at found
    · cases found
      exact ⟨[], rfl, .inl rfl⟩
    · cases found
  next => cases found

theorem exists_of_dropPlus? (found : dropPlus? text = some rest) :
    ∃ plus, text = plus ++ rest ∧ (plus = [] ∨ plus = ['+'] ∧ rest.head? ≠ some '-') := by
  unfold dropPlus? at found
  split at found
  next => cases found
  next => cases found
  next other noPlus noMinus =>
    cases found
    refine ⟨['+'], rfl, .inr ⟨rfl, fun minus => ?_⟩⟩
    obtain ⟨others, rfl⟩ := List.head?_eq_some_iff.mp minus
    exact noMinus others rfl
  next =>
    cases found
    exact ⟨[], rfl, .inl rfl⟩

end Front

section Back

theorem exists_of_dropZeroFraction (text : List Char) :
    ∃ fraction, text = dropZeroFraction text ++ fraction ∧ Pointed fraction := by
  unfold dropZeroFraction
  dsimp only
  split
  next zeros behind =>
    split
    next zero =>
      refine ⟨'.' :: '0' :: zeros, ?_, .inr ⟨zeros, rfl, ?_⟩⟩
      · rw [← behind, List.takeWhile_append_dropWhile]
      · simpa using zero
    next => exact ⟨[], (List.append_nil _).symm, .inl rfl⟩
  next => exact ⟨[], (List.append_nil _).symm, .inl rfl⟩

theorem hasDoubleUnderscore_iff : hasDoubleUnderscore text = true ↔ ['_', '_'] <:+: text := by
  fun_induction hasDoubleUnderscore text with
  | case1 rest => exact iff_of_true rfl ⟨[], rest, rfl⟩
  | case2 char rest single ih =>
      rw [ih, List.infix_cons_iff, or_iff_right]
      rintro ⟨behind, same⟩
      cases same
      exact single _ rfl rfl
  | case3 => simp

/-- Underscores are dropped from a text that has no two in a row and none at an end. -/
theorem dropUnderscores_eq_filter (single : ¬['_', '_'] <:+: body) (first : body.head? ≠ some '_')
    (last : body.getLast? ≠ some '_') : dropUnderscores body = body.filter (· ≠ '_') := by
  have apart : hasDoubleUnderscore body = false := by
    rwa [← Bool.not_eq_true, hasDoubleUnderscore_iff]
  rw [dropUnderscores, if_neg]
  simp [first, last, apart]

theorem dropUnderscores_eq_self_or (body : List Char) :
    dropUnderscores body = body ∧ '_' ∈ body ∨
      ¬['_', '_'] <:+: body ∧ body.head? ≠ some '_' ∧ body.getLast? ≠ some '_' := by
  by_cases single : ['_', '_'] <:+: body
  · refine .inl ⟨if_pos ?_, single.subset List.mem_cons_self⟩
    simp [hasDoubleUnderscore_iff.mpr single]
  by_cases first : body.head? = some '_'
  · exact .inl ⟨if_pos (by simp [first]), List.mem_of_head? first⟩
  by_cases last : body.getLast? = some '_'
  · exact .inl ⟨if_pos (by simp [last]), List.mem_of_getLast? last⟩
  exact .inr ⟨single, first, last⟩

theorem isDigit_of_written (written : Written number text) :
    ∀ char ∈ text, char = '-' ∨ char.isDigit = true := by
  obtain ⟨magnitude, -, rfl⟩ | ⟨magnitude, -, rfl⟩ := written_cases written
  · exact fun char member => .inr (Text.toDigits_plain magnitude char member)
  · exact List.forall_mem_cons.mpr
      ⟨.inl rfl, fun char member => .inr (Text.toDigits_plain magnitude char member)⟩

theorem grouped_of_ofBare (read : ofBare (dropUnderscores body) = .ok number) :
    Grouped number body := by
  obtain ⟨written, bounded⟩ := ofBare_eq_ok_iff.mp read
  obtain ⟨same, member⟩ | ⟨single, first, last⟩ := dropUnderscores_eq_self_or body
  · rw [same] at written
    exact absurd (isDigit_of_written written _ member) (by decide)
  · rw [dropUnderscores_eq_filter single first last] at written
    exact ⟨written, single, first, last, bounded⟩

end Back

theorem spells_of_read {text : String} (found : read text = .ok number) :
    Spells text.toList number := by
  unfold read at found
  split at found
  next => cases found
  next bare found' =>
    obtain ⟨unsigned, dropped, found'⟩ := Option.bind_eq_some_iff.mp found'
    obtain ⟨rest, skipped, same⟩ := Option.bind_eq_some_iff.mp found'
    cases same
    obtain ⟨before, after, parts, blankBefore, blankAfter⟩ := Text.exists_of_trim text.toList
    obtain ⟨plus, trimmed, signed⟩ := exists_of_dropPlus? dropped
    obtain ⟨zeros, rfl, led⟩ := exists_of_dropZeros? skipped
    obtain ⟨fraction, behind, pointed⟩ := exists_of_dropZeroFraction rest
    rw [parts, trimmed, behind]
    rw [behind] at signed
    exact .spelled blankBefore signed led (grouped_of_ofBare found) pointed blankAfter

section Reading

variable {zeros fraction : List Char}

theorem Grouped.exists_first (grouped : Grouped number body) :
    ∃ first rest, body = first :: rest ∧ (first = '-' ∨ first.isDigit = true) ∧
      (first = '0' → rest = []) := by
  have written := grouped.written
  cases body with
  | nil =>
      obtain ⟨_, -, none⟩ | ⟨_, -, none⟩ := written_cases written
      · exact absurd none.symm Nat.toDigits_ne_nil
      · exact nomatch none
  | cons first rest =>
      have stays : first ≠ '_' := fun same => grouped.first (congrArg some same)
      rw [List.filter_cons_of_pos (by simpa using stays)] at written
      refine ⟨first, rest, rfl, isDigit_of_written written first List.mem_cons_self, ?_⟩
      rintro rfl
      have none : rest.filter (· ≠ '_') = [] := by
        obtain ⟨magnitude, -, same⟩ | ⟨_, -, same⟩ := written_cases written
        · have single := Text.toDigits_of_head? (congrArg List.head? same).symm
          rw [← same] at single
          exact (List.cons.inj single).2
        · exact nomatch same
      -- Underscores behind a lone zero would stand at the end.
      obtain empty | ⟨front, last, rfl⟩ := List.eq_nil_or_concat' rest
      · exact empty
      · have underscore := List.filter_eq_nil_iff.mp none last (by simp)
        refine absurd grouped.last (not_not_intro ?_)
        rw [← List.cons_append, List.getLast?_concat]
        simpa using underscore

theorem solid_of_grouped (grouped : Grouped number body) :
    ∀ char ∈ body, Text.isSpace char = false ∧ char ≠ '.' := by
  intro char member
  by_cases apart : char = '_'
  · rw [apart]
    decide
  have kept : char ∈ body.filter (· ≠ '_') := List.mem_filter.mpr ⟨member, by simpa using apart⟩
  obtain rfl | plain := isDigit_of_written grouped.written char kept
  · decide
  · refine ⟨Text.not_isSpace_of_decimalDigit? (Text.decimalDigit?_of_isDigit plain), ?_⟩
    rintro rfl
    exact nomatch plain

theorem solid_of_zeros (led : Zeros zeros) : ∀ char ∈ zeros, Text.isSpace char = false := by
  obtain rfl | ⟨run, rfl, each⟩ := led
  · exact List.forall_mem_nil _
  · refine List.forall_mem_cons.mpr ⟨by decide, fun char member => ?_⟩
    obtain rfl | rfl := each char member <;> decide

theorem solid_of_pointed (pointed : Pointed fraction) :
    ∀ char ∈ fraction, Text.isSpace char = false := by
  obtain rfl | ⟨run, rfl, each⟩ := pointed
  · exact List.forall_mem_nil _
  · refine List.forall_mem_cons.mpr ⟨by decide, List.forall_mem_cons.mpr ⟨by decide, ?_⟩⟩
    rintro char member
    rw [each char member]
    decide

theorem solid_of_signed {plus : List Char} (signed : plus = [] ∨ plus = ['+'] ∧ rest.head? ≠ some '-') :
    ∀ char ∈ plus, Text.isSpace char = false := by
  obtain rfl | ⟨rfl, -⟩ := signed
  · exact List.forall_mem_nil _
  · exact List.forall_mem_singleton.mpr (by decide)

theorem dropZeroFraction_append (pointless : ∀ char ∈ body, char ≠ '.') (pointed : Pointed fraction) :
    dropZeroFraction (body ++ fraction) = body := by
  have whole : ∀ char ∈ body, decide (char ≠ '.') = true := by simpa using pointless
  have stops : Text.StopsAt (fun char => decide (char ≠ '.')) fraction := by
    obtain rfl | ⟨run, rfl, -⟩ := pointed <;> intro char isFirst <;> cases isFirst
    rfl
  rw [dropZeroFraction, Text.takeWhile_stretch whole stops, Text.dropWhile_stretch whole stops]
  obtain rfl | ⟨run, rfl, zeros⟩ := pointed
  · exact List.append_nil body
  · have ends : run.all (· = '0') = true := by simpa using zeros
    exact if_pos ends

theorem skipZeros?_append {run : List Char} (each : ∀ char ∈ run, char = '0' ∨ char = '_')
    (previous : Char) : ∃ last, skipZeros? previous (run ++ rest) = skipZeros? last rest := by
  induction run generalizing previous with
  | nil => exact ⟨previous, rfl⟩
  | cons char run ih =>
      obtain ⟨skips, each⟩ := List.forall_mem_cons.mp each
      obtain ⟨last, same⟩ := ih each char
      refine ⟨last, ?_⟩
      rw [List.cons_append, skipZeros?, if_pos (by simpa using skips), same]

theorem skipZeros?_pointed (previous : Char) (pointed : Pointed fraction) :
    skipZeros? previous fraction = some (previous :: fraction) := by
  obtain rfl | ⟨run, rfl, -⟩ := pointed <;> rfl

theorem skipZeros?_grouped (previous : Char) (grouped : Grouped number body)
    (pointed : Pointed fraction) : skipZeros? previous (body ++ fraction) = some (body ++ fraction) := by
  obtain ⟨first, rest, rfl, starts, single⟩ := grouped.exists_first
  rw [List.cons_append, skipZeros?]
  by_cases zero : first = '0'
  · rw [single zero, zero]
    exact skipZeros?_pointed '0' pointed
  · have stays : first ≠ '_' := fun same => grouped.first (congrArg some same)
    rw [if_neg (by simp [zero, stays]), if_pos (by rw [isDigit_eq]; simpa [or_comm] using starts)]

theorem dropZeros?_append (led : Zeros zeros) (grouped : Grouped number body)
    (pointed : Pointed fraction) :
    dropZeros? (zeros ++ (body ++ fraction)) = some (body ++ fraction) := by
  obtain rfl | ⟨run, rfl, each⟩ := led
  · obtain ⟨first, rest, rfl, starts, single⟩ := grouped.exists_first
    by_cases zero : first = '0'
    · rw [single zero, zero]
      exact skipZeros?_pointed '0' pointed
    · rw [List.nil_append, List.cons_append, dropZeros?.eq_def]
      split
      next same => exact absurd (List.cons.inj same).1 zero
      next same =>
        cases same
        rw [if_pos (by rw [isDigit_eq]; simpa [or_comm] using starts)]
      next none => cases none
  · obtain ⟨last, same⟩ := skipZeros?_append each '0'
    exact same.trans (skipZeros?_grouped last grouped pointed)

theorem dropPlus?_append {plus : List Char}
    (signed : plus = [] ∨ plus = ['+'] ∧ rest.head? ≠ some '-') (single : rest.head? ≠ some '+') :
    dropPlus? (plus ++ rest) = some rest := by
  obtain rfl | ⟨rfl, noMinus⟩ := signed
  · rw [List.nil_append]
    unfold dropPlus?
    split
    · exact absurd rfl single
    · exact absurd rfl single
    · exact absurd rfl single
    · rfl
  · cases rest with
    | nil => rfl
    | cons char rest =>
        rw [List.singleton_append]
        unfold dropPlus?
        split
        next same =>
          cases same
          exact absurd rfl single
        next same =>
          cases same
          exact absurd rfl noMinus
        next same =>
          cases same
          rfl
        next other =>
          exact absurd rfl (other _)

theorem trim_of_solid {before core after : List Char}
    (blankBefore : ∀ char ∈ before, Text.isSpace char = true) (written : core ≠ [])
    (solid : ∀ char ∈ core, Text.isSpace char = false)
    (blankAfter : ∀ char ∈ after, Text.isSpace char = true) :
    Text.trim Text.isSpace (before ++ core ++ after) = core := by
  obtain ⟨first, rest, starts⟩ := List.exists_cons_of_ne_nil written
  obtain empty | ⟨front, last, ends⟩ := List.eq_nil_or_concat' core
  · exact absurd empty written
  · exact Text.trim_append blankBefore blankAfter starts ends
      (solid first (by simp [starts])) (solid last (by simp [ends]))

theorem read_of_spells {text : String} (spells : Spells text.toList number) :
    read text = .ok number := by
  generalize same : text.toList = chars at spells
  obtain @⟨before, plus, zeros, body, fraction, after, _, blankBefore, signed, led, grouped, pointed,
    blankAfter⟩ := spells
  obtain ⟨first, rest, isBody, starts, -⟩ := grouped.exists_first
  have solid : ∀ char ∈ plus ++ (zeros ++ (body ++ fraction)), Text.isSpace char = false := by
    simp only [List.forall_mem_append]
    exact ⟨solid_of_signed signed, solid_of_zeros led,
      fun char member => (solid_of_grouped grouped char member).1, solid_of_pointed pointed⟩
  have single : (zeros ++ (body ++ fraction)).head? ≠ some '+' := by
    obtain rfl | ⟨run, rfl, -⟩ := led
    · rw [isBody]
      rintro ⟨⟩
      exact starts.elim nofun nofun
    · nofun
  have bare : bare? Text.isSpace text.toList = some (body.filter (· ≠ '_')) := by
    have pointless : ∀ char ∈ body, char ≠ '.' := fun char member =>
      (solid_of_grouped grouped char member).2
    rw [bare?, same, trim_of_solid blankBefore (by simp [isBody]) solid blankAfter,
      dropPlus?_append signed single]
    change (dropZeros? (zeros ++ (body ++ fraction)) >>= fun text => _) = _
    rw [dropZeros?_append led grouped pointed]
    change some (dropUnderscores (dropZeroFraction (body ++ fraction))) = _
    rw [dropZeroFraction_append pointless pointed,
      dropUnderscores_eq_filter grouped.single grouped.first grouped.last]
  rw [read, bare]
  exact ofBare_eq_ok_iff.mpr ⟨grouped.written, grouped.bounded⟩

/-- A number is read from the texts that spell it. -/
theorem read_eq_ok_iff {text : String} : read text = .ok number ↔ Spells text.toList number :=
  ⟨spells_of_read, read_of_spells⟩

end Reading

end GuardAlgebra.Settings.Digits
