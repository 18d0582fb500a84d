import GuardAlgebra.Text.Integer
import Mathlib.Data.List.DropRight
import Mathlib.Data.Nat.Digits.Defs

namespace GuardAlgebra.Text

/-! # What integer texts denote

The grammar of integer texts as it is read: blanks around, a sign or none, and digits of any script
with single underscores between them. Reading finds the integer of every text of the grammar, and of
no other text, up to the bound on the number of digits.
-/

/-- Digits with their values, most significant first. -/
inductive Digits : List Char → List Nat → Prop where
  | last {char : Char} {value : Nat} (isDigit : decimalDigit? char = some value) :
      Digits [char] [value]
  | next {char : Char} {value : Nat} {text : List Char} {values : List Nat}
      (isDigit : decimalDigit? char = some value) (rest : Digits text values) :
      Digits (char :: text) (value :: values)
  | apart {char : Char} {value : Nat} {text : List Char} {values : List Nat}
      (isDigit : decimalDigit? char = some value) (rest : Digits text values) :
      Digits (char :: '_' :: text) (value :: values)

inductive Signs : List Char → Bool → Prop where
  | unsigned : Signs [] false
  | plus : Signs ['+'] false
  | minus : Signs ['-'] true

/-- The integer that a text denotes. Leading zeros count among the digits. -/
inductive Denotes : List Char → Int → Prop where
  | written {before sign digits after : List Char} {negative : Bool} {values : List Nat}
      (blankBefore : ∀ char ∈ before, isSpace char = true)
      (signs : Signs sign negative) (reads : Digits digits values)
      (bounded : values.length ≤ digitBound)
      (blankAfter : ∀ char ∈ after, isSpace char = true) :
      Denotes (before ++ (sign ++ digits) ++ after)
        (if negative then -((Nat.ofDigits 10 values.reverse : Nat) : Int)
          else (Nat.ofDigits 10 values.reverse : Nat))

variable {char mark : Char} {text digits : List Char} {value : Nat} {values : List Nat}
  {negative : Bool}

section Characters

theorem digit?_ten : digit? 10 char = decimalDigit? char := by
  unfold digit?
  cases known : decimalDigit? char with
  | some value => simp [Option.filter, decimalDigit?_lt_ten known]
  | none =>
      by_cases letter : 'a' ≤ lowerAscii char ∧ lowerAscii char ≤ 'z' <;>
        simp [letter, Option.filter]

theorem decimalDigit?_ofNat (small : value < 10) :
    decimalDigit? (Char.ofNat ('0'.toNat + value)) = some value := by
  have each : ∀ value < 10, decimalDigit? (Char.ofNat ('0'.toNat + value)) = some value := by decide
  exact each value small

theorem decimalDigit?_plainDigit : decimalDigit? (plainDigit char) = decimalDigit? char := by
  cases known : decimalDigit? char with
  | none => simp [plainDigit, known]
  | some value =>
      simp only [plainDigit, known]
      exact decimalDigit?_ofNat (decimalDigit?_lt_ten known)

theorem plainDigit_eq_iff (noDigit : decimalDigit? mark = none) :
    plainDigit char = mark ↔ char = mark := by
  cases known : decimalDigit? char with
  | none => simp [plainDigit, known]
  | some value =>
      constructor
      · rintro rfl
        rw [decimalDigit?_plainDigit, known] at noDigit
        simp at noDigit
      · rintro rfl
        simp [known] at noDigit

theorem not_isSpace_of_decimalDigit? (isDigit : decimalDigit? char = some value) :
    isSpace char = false := by
  obtain ⟨start, found, -⟩ := Option.map_eq_some_iff.mp isDigit
  have member := List.mem_of_find?_eq_some found
  have bounds := List.find?_some found
  simp only [Bool.and_eq_true, decide_eq_true_eq] at bounds
  have apart : ∀ start ∈ zeroDigits, ∀ turn < 10,
      (decide (start + turn = 0x20) || (decide (0x09 ≤ start + turn) && decide (start + turn ≤ 0x0D)) ||
        inRanges wideSpaces (start + turn)) = false := by
    decide +kernel
  have free := apart start member (char.toNat - start) (by omega)
  rw [show start + (char.toNat - start) = char.toNat by omega] at free
  exact free

end Characters

section Runs

theorem digitRun_map (text : List Char) :
    digitRun (digit? 10) (text.map plainDigit) = digitRun decimalDigit? text := by
  fun_induction digitRun decimalDigit? text with
  | case1 => rfl
  | case2 char => simp [digitRun, digit?_ten, decimalDigit?_plainDigit]
  | case3 char rest ih =>
      have kept : plainDigit '_' = '_' := (plainDigit_eq_iff (by decide)).mpr rfl
      simp [digitRun, kept, digit?_ten, decimalDigit?_plainDigit, ih]
  | case4 char rest notAlone notApart ih =>
      cases rest with
      | nil => exact absurd rfl (notAlone)
      | cons next rest =>
          have other : plainDigit next ≠ '_' := by
            rw [Ne, plainDigit_eq_iff (by decide)]
            rintro rfl
            exact notApart rest rfl
          rw [List.map_cons, List.map_cons, digitRun, ← List.map_cons, ih, digit?_ten,
            decimalDigit?_plainDigit]
          · simp
          · simpa using other

theorem digits_of_digitRun (run : digitRun decimalDigit? text = some values) : Digits text values := by
  fun_induction digitRun decimalDigit? text generalizing values with
  | case1 => simp at run
  | case2 char =>
      obtain ⟨value, isDigit, rfl⟩ := Option.map_eq_some_iff.mp run
      exact .last isDigit
  | case3 char rest ih =>
      obtain ⟨value, isDigit, run⟩ := Option.bind_eq_some_iff.mp run
      obtain ⟨others, reads, made⟩ := Option.bind_eq_some_iff.mp run
      cases made
      exact .apart isDigit (ih reads)
  | case4 char rest _ _ ih =>
      obtain ⟨value, isDigit, run⟩ := Option.bind_eq_some_iff.mp run
      obtain ⟨others, reads, made⟩ := Option.bind_eq_some_iff.mp run
      cases made
      exact .next isDigit (ih reads)

theorem digitRun_of_digits (reads : Digits text values) : digitRun decimalDigit? text = some values := by
  induction reads with
  | last isDigit => simp [digitRun, isDigit]
  | apart isDigit _ ih => simp [digitRun, isDigit, ih]
  | @next char value text values isDigit rest ih =>
      -- A digit is no underscore, so what follows cannot be taken for one.
      cases rest with
      | last other | next other _ | apart other _ =>
          rw [digitRun, ih, isDigit]
          · rfl
          · simp
          · simp only [List.cons.injEq]
            rintro _ ⟨rfl, _⟩
            exact nomatch other

theorem Digits.inside (reads : Digits text values) :
    ∀ char ∈ text, (decimalDigit? char).isSome = true ∨ char = '_' := by
  induction reads with
  | last isDigit => simp [isDigit]
  | next isDigit _ ih => simpa [isDigit] using ih
  | apart isDigit _ ih => simpa [isDigit] using ih

end Runs

section Whole

theorem splitSign_map :
    splitSign (text.map plainDigit) = ((splitSign text).1, (splitSign text).2.map plainDigit) := by
  cases text with
  | nil => rfl
  | cons char rest =>
      have minus : plainDigit char = '-' ↔ char = '-' := plainDigit_eq_iff (by decide)
      have plus : plainDigit char = '+' ↔ char = '+' := plainDigit_eq_iff (by decide)
      by_cases isMinus : char = '-'
      · subst isMinus
        simp [splitSign, minus.mpr rfl]
      · by_cases isPlus : char = '+'
        · subst isPlus
          simp [splitSign, plus.mpr rfl]
        · simp [splitSign, minus, plus, isMinus, isPlus]

theorem namedBase?_ne_ten : namedBase? char ≠ some 10 := by
  simp only [namedBase?]
  split_ifs <;> simp

theorem splitBase_ten : splitBase 10 text = (10, text) := by
  unfold splitBase
  split
  · split
    · rename_i named found
      have other : 10 ≠ named := by
        rintro rfl
        exact namedBase?_ne_ten found
      simp [other]
    · rfl
  · rfl

theorem valueOf_ten : valueOf 10 values = Nat.ofDigits 10 values.reverse := by
  rw [Nat.ofDigits_eq_foldr, List.foldr_reverse]
  unfold valueOf
  congr
  funext number digit
  simp
  omega

/-- A text is read past its blanks and its sign, all of it. -/
theorem integer?_eq_some_iff_run {number : Int} :
    integer? text = some number ↔
      ∃ values, digitRun decimalDigit? (splitSign (trim isSpace text)).2 = some values ∧
        values.length ≤ digitBound ∧
        number = signed (splitSign (trim isSpace text)).1 (valueOf 10 values) := by
  generalize core : trim isSpace text = written
  simp only [integer?, readInteger, core, splitSign_map, splitBase_ten]
  generalize (splitSign written).1 = negative
  generalize (splitSign written).2 = magnitude
  generalize insides : (fun char => (digit? 10 char).isSome || decide (char = '_')) = inside
  by_cases whole : ∀ char ∈ magnitude.map plainDigit, inside char = true
  · rw [List.takeWhile_eq_self_iff.mpr whole, List.dropWhile_eq_nil_iff.mpr whole, digitRun_map]
    cases digitRun decimalDigit? magnitude with
    | none => simp [Except.toOption]
    | some values =>
        by_cases bounded : values.length ≤ digitBound
        · simp [isUnbounded, Nat.not_lt.mpr bounded, bounded, Except.toOption, eq_comm]
        · simp [isUnbounded, Nat.not_le.mp bounded, bounded, Except.toOption]
  · have broken : ((magnitude.map plainDigit).dropWhile inside).isEmpty = false := by
      rw [List.isEmpty_eq_false_iff, Ne, List.dropWhile_eq_nil_iff]
      exact whole
    have unread : digitRun decimalDigit? magnitude = none := by
      rw [Option.eq_none_iff_forall_ne_some]
      intro values reads
      apply whole
      rw [List.forall_mem_map, ← insides]
      intro char member
      rcases (digits_of_digitRun reads).inside char member with isDigit | rfl
      · simp [digit?_ten, decimalDigit?_plainDigit, isDigit]
      · simp [show plainDigit '_' = '_' by decide]
    rw [unread, broken]
    cases digitRun (digit? 10) ((magnitude.map plainDigit).takeWhile inside) with
    | none => simp [Except.toOption]
    | some values =>
        by_cases long : digitBound < values.length <;> simp [isUnbounded, long, Except.toOption]

section Stretches

variable {p : Char → Bool} {front rest : List Char}

/-- The rest does not go on as what stands before it. -/
def StopsAt (p : Char → Bool) (rest : List Char) : Prop := ∀ char ∈ rest.head?, p char = false

theorem dropWhile_stop (stops : StopsAt p rest) : rest.dropWhile p = rest := by
  cases rest with
  | nil => rfl
  | cons char rest => exact List.dropWhile_cons_of_neg (by simp [stops char rfl])

theorem dropWhile_stretch (inside : ∀ char ∈ front, p char = true) (stops : StopsAt p rest) :
    (front ++ rest).dropWhile p = rest := by
  rw [List.dropWhile_append_of_pos inside, dropWhile_stop stops]

theorem takeWhile_stretch (inside : ∀ char ∈ front, p char = true) (stops : StopsAt p rest) :
    (front ++ rest).takeWhile p = front := by
  have none : rest.takeWhile p = [] := by
    cases rest with
    | nil => rfl
    | cons char rest => exact List.takeWhile_cons_of_neg (by simp [stops char rfl])
  rw [List.takeWhile_append_of_pos inside, none, List.append_nil]

end Stretches

theorem exists_of_trim (text : List Char) :
    ∃ before after, text = before ++ trim isSpace text ++ after ∧
      (∀ char ∈ before, isSpace char = true) ∧ ∀ char ∈ after, isSpace char = true := by
  refine ⟨text.takeWhile isSpace, (text.dropWhile isSpace).rtakeWhile isSpace, ?_,
    fun char => List.mem_takeWhile_imp, fun char => List.mem_rtakeWhile_imp⟩
  have kept : trim isSpace text = (text.dropWhile isSpace).rdropWhile isSpace := rfl
  rw [kept, List.append_assoc, List.rdropWhile_append_rtakeWhile, List.takeWhile_append_dropWhile]

theorem trim_append {before core after : List Char} {first last : Char} {rest front : List Char}
    (blankBefore : ∀ char ∈ before, isSpace char = true)
    (blankAfter : ∀ char ∈ after, isSpace char = true) (starts : core = first :: rest)
    (ends : core = front ++ [last]) (firstStays : isSpace first = false)
    (lastStays : isSpace last = false) : trim isSpace (before ++ core ++ after) = core := by
  have left : (before ++ core ++ after).dropWhile isSpace = core ++ after := by
    rw [List.append_assoc]
    refine dropWhile_stretch blankBefore fun char isFirst => ?_
    rw [starts] at isFirst
    cases isFirst
    exact firstStays
  have right : (core ++ after).reverse.dropWhile isSpace = core.reverse := by
    rw [List.reverse_append]
    refine dropWhile_stretch (by simpa using blankAfter) fun char isLast => ?_
    rw [ends, List.reverse_append] at isLast
    cases isLast
    exact lastStays
  rw [trim, left, right, List.reverse_reverse]

theorem Digits.exists_first (reads : Digits text values) :
    ∃ first rest value, text = first :: rest ∧ decimalDigit? first = some value := by
  cases reads with
  | last isDigit | next isDigit _ | apart isDigit _ => exact ⟨_, _, _, rfl, isDigit⟩

theorem Digits.exists_last (reads : Digits text values) :
    ∃ front last value, text = front ++ [last] ∧ decimalDigit? last = some value := by
  induction reads with
  | last isDigit => exact ⟨[], _, _, rfl, isDigit⟩
  | @next char _ _ _ _ _ ih =>
      obtain ⟨front, last, value, rfl, isDigit⟩ := ih
      exact ⟨char :: front, last, value, rfl, isDigit⟩
  | @apart char _ _ _ _ _ ih =>
      obtain ⟨front, last, value, rfl, isDigit⟩ := ih
      exact ⟨char :: '_' :: front, last, value, rfl, isDigit⟩

theorem splitSign_of_signs {sign : List Char} (signs : Signs sign negative)
    (reads : Digits digits values) : splitSign (sign ++ digits) = (negative, digits) := by
  cases signs with
  | plus | minus => rfl
  | unsigned =>
      obtain ⟨first, rest, value, rfl, isDigit⟩ := reads.exists_first
      rw [List.nil_append, splitSign]
      · rintro _ ⟨rfl, _⟩
        exact nomatch isDigit
      · rintro _ ⟨rfl, _⟩
        exact nomatch isDigit

theorem exists_of_splitSign (text : List Char) :
    ∃ sign, Signs sign (splitSign text).1 ∧ text = sign ++ (splitSign text).2 := by
  unfold splitSign
  split
  · exact ⟨_, .minus, rfl⟩
  · exact ⟨_, .plus, rfl⟩
  · exact ⟨_, .unsigned, rfl⟩

theorem signed_eq (negative : Bool) (magnitude : Nat) :
    signed negative magnitude = if negative then -(magnitude : Int) else magnitude := rfl

theorem trim_written {before sign after : List Char}
    (blankBefore : ∀ char ∈ before, isSpace char = true) (signs : Signs sign negative)
    (reads : Digits digits values) (blankAfter : ∀ char ∈ after, isSpace char = true) :
    trim isSpace (before ++ (sign ++ digits) ++ after) = sign ++ digits := by
  obtain ⟨first, rest, firstValue, starts, isFirst⟩ := reads.exists_first
  obtain ⟨front, last, lastValue, ends, isLast⟩ := reads.exists_last
  have lastStays := not_isSpace_of_decimalDigit? isLast
  have ends : sign ++ digits = (sign ++ front) ++ [last] := by rw [ends, List.append_assoc]
  cases signs with
  | unsigned =>
      exact trim_append blankBefore blankAfter starts ends (not_isSpace_of_decimalDigit? isFirst)
        lastStays
  | plus | minus =>
      exact trim_append blankBefore blankAfter List.cons_append ends (by decide) lastStays

/-- A text is read as the integer that it denotes, and only then. -/
theorem integer?_eq_some_iff {number : Int} : integer? text = some number ↔ Denotes text number := by
  rw [integer?_eq_some_iff_run]
  constructor
  · rintro ⟨values, run, bounded, rfl⟩
    obtain ⟨before, after, parts, blankBefore, blankAfter⟩ := exists_of_trim text
    obtain ⟨sign, signs, core⟩ := exists_of_splitSign (trim isSpace text)
    have denotes := Denotes.written blankBefore signs (digits_of_digitRun run) bounded blankAfter
    rw [← core, ← parts] at denotes
    rw [signed_eq, valueOf_ten]
    exact denotes
  · rintro ⟨blankBefore, signs, reads, bounded, blankAfter⟩
    rw [trim_written blankBefore signs reads blankAfter, splitSign_of_signs signs reads]
    exact ⟨_, digitRun_of_digits reads, bounded, by rw [signed_eq, valueOf_ten]⟩

end Whole

section Spelled

theorem decimalDigit?_of_isDigit (isDigit : char.isDigit = true) :
    decimalDigit? char = some (char.toNat - '0'.toNat) := by
  have bounds : 48 ≤ char.toNat ∧ char.toNat ≤ 57 := by
    simpa [Char.isDigit, UInt32.le_iff_toNat_le] using isDigit
  have found : decimalDigit? (Char.ofNat ('0'.toNat + (char.toNat - 48))) =
      some (char.toNat - 48) := decimalDigit?_ofNat (by omega)
  rw [show '0'.toNat + (char.toNat - 48) = char.toNat by simp; omega, Char.ofNat_toNat] at found
  exact found

theorem digits_of_isDigit (written : text ≠ []) (plain : ∀ char ∈ text, char.isDigit = true) :
    Digits text (text.map fun char => char.toNat - '0'.toNat) := by
  induction text with
  | nil => exact absurd rfl written
  | cons char rest ih =>
      simp only [List.forall_mem_cons] at plain
      have isDigit := decimalDigit?_of_isDigit plain.1
      cases rest with
      | nil => exact .last isDigit
      | cons next rest => exact .next isDigit (ih (by simp) plain.2)

theorem toDigits_plain (magnitude : Nat) :
    ∀ char ∈ Nat.toDigits 10 magnitude, char.isDigit = true :=
  fun _ => Nat.isDigit_of_mem_toDigits (by omega) (by omega)

theorem digits_toDigits (number : Nat) :
    Digits (Nat.toDigits 10 number) ((Nat.toDigits 10 number).map fun char => char.toNat - '0'.toNat) :=
  digits_of_isDigit Nat.toDigits_ne_nil (toDigits_plain number)

theorem ofDigits_toDigits (number : Nat) :
    Nat.ofDigits 10 ((Nat.toDigits 10 number).map fun char => char.toNat - '0'.toNat).reverse =
      number := by
  rw [← valueOf_ten, valueOf, List.foldl_map]
  have read := Nat.ofDigitChars_ten_toDigits (n := number)
  rw [Nat.ofDigitChars_eq_foldl] at read
  simpa only [Nat.mul_comm 10] using read

/-- No zeros lead the digits of an integer. -/
theorem toDigits_of_head? {magnitude : Nat} (leads : (Nat.toDigits 10 magnitude).head? = some '0') :
    Nat.toDigits 10 magnitude = ['0'] := by
  induction magnitude using Nat.strongRecOn with
  | ind magnitude ih =>
      by_cases single : magnitude < 10
      · rw [Nat.toDigits_of_lt_base single] at leads ⊢
        simpa using leads
      · have several : 10 ≤ magnitude := by omega
        rw [Nat.toDigits_of_base_le (by omega) several,
          List.head?_append_of_ne_nil _ Nat.toDigits_ne_nil] at leads
        have zero := ih (magnitude / 10) (by omega) leads
        have value := ofDigits_toDigits (magnitude / 10)
        rw [zero] at value
        simp at value
        omega

theorem length_toDigits_le_iff {magnitude bound : Nat} (several : 0 < bound) :
    (Nat.toDigits 10 magnitude).length ≤ bound ↔ magnitude < Nat.pow 10 bound :=
  Nat.length_toDigits_le_iff (by omega) several

theorem denotes_toDigits {sign : List Char} {magnitude : Nat} (signs : Signs sign negative)
    (few : magnitude < Nat.pow 10 digitBound) :
    Denotes (sign ++ Nat.toDigits 10 magnitude)
      (if negative then -(magnitude : Int) else magnitude) := by
  have blank : ∀ char ∈ ([] : List Char), isSpace char = true := by simp
  have bounded : ((Nat.toDigits 10 magnitude).map fun char => char.toNat - '0'.toNat).length ≤
      digitBound := by
    rw [List.length_map]
    exact (length_toDigits_le_iff (by decide)).mpr few
  have denotes := Denotes.written blank signs (digits_toDigits magnitude) bounded blank
  rwa [ofDigits_toDigits, List.nil_append, List.append_nil] at denotes

theorem toList_toString (number : Int) :
    (toString number).toList =
      if number < 0 then '-' :: Nat.toDigits 10 number.natAbs
      else Nat.toDigits 10 number.natAbs := by
  cases number with
  | ofNat magnitude => simp [Int.toString_eq_repr, Int.repr, Nat.repr_eq_ofList_toDigits]
  | negSucc magnitude =>
      rw [Int.toString_eq_repr, Int.repr]
      simp [Nat.repr_eq_ofList_toDigits]

/-- An integer denotes itself as it is written, unless it has too many digits. -/
theorem denotes_toString {number : Int} (few : number.natAbs < Nat.pow 10 digitBound) :
    Denotes (toString number).toList number := by
  rw [toList_toString]
  split
  next negative =>
    have sign : -(number.natAbs : Int) = number := by omega
    have denotes := denotes_toDigits .minus few
    rw [if_pos rfl, sign] at denotes
    exact denotes
  next =>
    have sign : (number.natAbs : Int) = number := by omega
    have denotes := denotes_toDigits .unsigned few
    rw [if_neg Bool.false_ne_true, sign] at denotes
    exact denotes

end Spelled

end GuardAlgebra.Text
