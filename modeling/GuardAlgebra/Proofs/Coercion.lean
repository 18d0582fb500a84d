import GuardAlgebra.Proofs.Numbers
import GuardAlgebra.Proofs.Spelling
import GuardAlgebra.Settings.Reading

namespace GuardAlgebra

/-! # What values stand for as settings

Which texts, truth values and whole numbers the values stand for that settings are given by, whatever
reads them: bytes stand for what their text stands for, numbers of any kind for the whole numbers they
are equal to, and a few words for truth. Settings are read by this, and nothing else is read as one.
-/

theorem Text.lowerAscii_eq_toLower (char : Char) : Text.lowerAscii char = char.toLower := by
  unfold Text.lowerAscii Char.toLower
  by_cases upper : 'A' ≤ char ∧ char ≤ 'Z'
  · refine (if_pos upper).trans (Eq.trans ?_ (dif_pos upper).symm)
    have last : char.toNat ≤ 90 := UInt32.le_iff_toNat_le.mp upper.2
    have valid : (char.toNat + 32).isValidChar := .inl (by omega)
    apply Char.toNat_inj.mp
    rw [Char.toNat_ofNat, if_pos valid]
    change _ = (char.val + ('a'.val - 'A'.val)).toNat
    rw [UInt32.toNat_add]
    exact (Nat.mod_eq_of_lt (lt_of_le_of_lt (Nat.add_le_add_right last 32) (by decide))).symm
  · exact (if_neg upper).trans (Eq.symm (dif_neg upper))

namespace Settings

/-- The bytes of a text in UTF-8. -/
def Encodes (octets : List UInt8) (text : String) : Prop := text.toUTF8.data.toList = octets

/-- Texts, and bytes of texts. -/
inductive IsText : Value → Text → Prop where
  | str (text : Text) : IsText (.str text) text
  | bytes {octets : List UInt8} {text : String} (encodes : Encodes octets text) :
      IsText (.bytes octets) text

/-- Words for truth values, in letters of any case. -/
inductive IsWord (text : String) : Bool → Prop where
  | yes (affirms : text.toLower ∈ ["1", "on", "t", "true", "y", "yes"]) : IsWord text true
  | no (denies : text.toLower ∈ ["0", "off", "f", "false", "n", "no"]) : IsWord text false

/-- Truth values, the numbers zero and one, and words for truth. -/
inductive IsTruth : Value → Bool → Prop where
  | bool (truth : Bool) : IsTruth (.bool truth) truth
  | int (truth : Bool) : IsTruth (.int truth.toNat) truth
  | float (site : Site) {number : Float} {truth : Bool}
      (denotes : (Decimal.Real.ofFloat number).quantity? = some (.finite (truth.toNat : Int))) :
      IsTruth (.float site number) truth
  | str {text : String} {truth : Bool} (word : IsWord text truth) : IsTruth (.str text) truth
  | bytes {octets : List UInt8} {text : String} {truth : Bool} (encodes : Encodes octets text)
      (word : IsWord text truth) : IsTruth (.bytes octets) truth

/-- Whole numbers, truth values, and texts that spell whole numbers. A floating-point number is one if it
is whole and fits a machine word. -/
inductive IsInteger : Value → Int → Prop where
  | int (number : Int) : IsInteger (.int number) number
  | bool (truth : Bool) : IsInteger (.bool truth) truth.toNat
  | float (site : Site) {real : Float} {number : Int}
      (denotes : (Decimal.Real.ofFloat real).quantity? = some (.finite number))
      (small : number.natAbs < Nat.pow 2 63) : IsInteger (.float site real) number
  | str {text : String} {number : Int} (spells : Digits.Spells text.toList number) :
      IsInteger (.str text) number
  | bytes {octets : List UInt8} {text : String} {number : Int} (encodes : Encodes octets text)
      (spells : Digits.Spells text.toList number) : IsInteger (.bytes octets) number

variable {value : Value} {text : Text} {truth : Bool} {number : Int}

theorem readText_eq_ok_iff : readText value = .ok text ↔ IsText value text := by
  constructor
  · intro read
    unfold readText at read
    split at read
    next =>
      cases read
      exact .str text
    next octets =>
      split at read
      next found =>
        cases read
        exact .bytes (Text.decode?_eq_some_iff.mp found)
      next => cases read
    next => cases read
  · rintro (_ | encodes)
    · rfl
    · rw [readText, Text.decode?_eq_some_iff.mpr encodes]

theorem readWord_eq_ok_iff {text : String} : readWord text = .ok truth ↔ IsWord text truth := by
  have lower : String.ofList (text.toList.map Text.lowerAscii) = text.toLower := by
    rw [funext Text.lowerAscii_eq_toLower, ← String.toList_map, String.ofList_toList]
    rfl
  rw [readWord, lower]
  constructor
  · intro read
    split at read
    next affirms =>
      cases read
      exact .yes (List.contains_iff_mem.mp affirms)
    next =>
      split at read
      next denies =>
        cases read
        exact .no (List.contains_iff_mem.mp denies)
      next => cases read
  · -- no word stands for both
    have apart : ∀ word ∈ ["0", "off", "f", "false", "n", "no"],
        word ∉ ["1", "on", "t", "true", "y", "yes"] := by decide
    rintro (affirms | denies)
    · exact if_pos (List.contains_iff_mem.mpr affirms)
    · have none : ¬ ["1", "on", "t", "true", "y", "yes"].contains text.toLower = true :=
        fun affirms => apart _ denies (List.contains_iff_mem.mp affirms)
      exact (if_neg none).trans (if_pos (List.contains_iff_mem.mpr denies))

theorem readDigits_eq_ok_iff {text : String} :
    readDigits text = .ok number ↔ Digits.Spells text.toList number := by
  rw [← Digits.read_eq_ok_iff, readDigits]
  cases Digits.read text with
  | ok found => simp
  | error refusal => cases refusal <;> simp

theorem readSwitch_eq_ok_iff : readSwitch number = .ok truth ↔ number = truth.toNat := by
  unfold readSwitch
  cases truth <;> split_ifs <;> simp_all

theorem readWhole_eq_ok_iff {α : Type} {read : String → Except Flaw α} {result : α} :
    readWhole read text = .ok result ↔ ∃ body, text = .whole body ∧ read body = .ok result := by
  cases text with
  | whole body =>
      constructor
      · exact fun found => ⟨body, rfl, found⟩
      · rintro ⟨_, same, found⟩
        cases same
        exact found
  | torn front half rest =>
      constructor
      · exact fun found => nomatch found
      · rintro ⟨_, same, -⟩
        exact nomatch same

theorem readTruth_eq_ok_iff : readTruth value = .ok truth ↔ IsTruth value truth := by
  constructor
  · intro read
    unfold readTruth at read
    split at read
    next =>
      cases read
      exact .bool truth
    next number =>
      split at read
      next =>
        cases readSwitch_eq_ok_iff.mp read
        exact .int truth
      next => cases read
    next site real =>
      split at read
      next number denotes =>
        split at read
        next =>
          cases readSwitch_eq_ok_iff.mp read
          exact .float site (Decimal.Real.integer?_eq_some_iff.mp denotes)
        next => cases read
      next => cases read
    next text =>
      obtain ⟨body, rfl, word⟩ := readWhole_eq_ok_iff.mp read
      exact .str (readWord_eq_ok_iff.mp word)
    next octets =>
      split at read
      next found => exact .bytes (Text.decode?_eq_some_iff.mp found) (readWord_eq_ok_iff.mp read)
      next => cases read
    next => cases read
  · have small : ∀ truth : Bool, -wordBound < (truth.toNat : Int) ∧ truth.toNat < wordBound := by
      decide
    rintro (_ | _ | @⟨site, real, _, denotes⟩ | word | ⟨encodes, word⟩)
    · rfl
    · rw [readTruth, if_pos ⟨(small truth).1.le, (small truth).2⟩]
      exact readSwitch_eq_ok_iff.mpr rfl
    · rw [readTruth, Decimal.Real.integer?_eq_some_iff.mpr denotes]
      exact (if_pos (small truth)).trans (readSwitch_eq_ok_iff.mpr rfl)
    · exact readWord_eq_ok_iff.mpr word
    · rw [readTruth, Text.decode?_eq_some_iff.mpr encodes]
      exact readWord_eq_ok_iff.mpr word

theorem readInteger_eq_ok_iff : readInteger value = .ok number ↔ IsInteger value number := by
  have bound : wordBound = ((Nat.pow 2 63 : Nat) : Int) := rfl
  constructor
  · intro read
    unfold readInteger at read
    split at read
    next =>
      cases read
      exact .int number
    next truth =>
      cases read
      exact .bool truth
    next site real =>
      split at read
      next negative magnitude finite =>
        split at read
        next found denotes =>
          split at read
          next small =>
            cases read
            rw [bound] at small
            refine .float site ?_ (by omega)
            rw [finite]
            exact Decimal.Real.integer?_eq_some_iff.mp denotes
          next => cases read
        next => cases read
      next => cases read
    next text =>
      obtain ⟨body, rfl, digits⟩ := readWhole_eq_ok_iff.mp read
      exact .str (readDigits_eq_ok_iff.mp digits)
    next octets =>
      split at read
      next found => exact .bytes (Text.decode?_eq_some_iff.mp found) (readDigits_eq_ok_iff.mp read)
      next => cases read
    next => cases read
  · rintro (_ | _ | @⟨site, real, _, denotes, small⟩ | spells | ⟨encodes, spells⟩)
    · rfl
    · rfl
    · rw [readInteger]
      revert denotes
      cases Decimal.Real.ofFloat real with
      | undefined => exact fun denotes => nomatch denotes
      | infinite negative => exact fun denotes => nomatch denotes
      | finite negative magnitude =>
          intro denotes
          dsimp only
          rw [Decimal.Real.integer?_eq_some_iff.mpr denotes]
          exact if_pos (by rw [bound]; omega)
    · exact readDigits_eq_ok_iff.mpr spells
    · rw [readInteger, Text.decode?_eq_some_iff.mpr encodes]
      exact readDigits_eq_ok_iff.mpr spells

end Settings

end GuardAlgebra
