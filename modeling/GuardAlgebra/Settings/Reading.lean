import GuardAlgebra.Decimal.Binary
import GuardAlgebra.Settings.Digits
import GuardAlgebra.Text.Utf8
import GuardAlgebra.Value

/-!
Reading values as settings. A text setting admits text and bytes of UTF-8; a number admits integers,
whole floating-point numbers and texts of digits; a switch admits truth values, zero and one, and a
few words. Numbers beyond a machine word are no switches, and as floating-point numbers too large.
-/
namespace GuardAlgebra.Settings

/-- What is wrong with a value: the kind of the problem, and what to say of it. -/
structure Flaw where
  kind : String
  text : String
  deriving DecidableEq, Repr

namespace Flaw

def notText : Flaw := ⟨"string_type", "Input should be a valid string"⟩

def notUnicode : Flaw :=
  ⟨"string_unicode", "Input should be a valid string, unable to parse raw data as a unicode string"⟩

def notInteger : Flaw := ⟨"int_type", "Input should be a valid integer"⟩

def notDigits : Flaw :=
  ⟨"int_parsing", "Input should be a valid integer, unable to parse string as an integer"⟩

def tooLong : Flaw :=
  ⟨"int_parsing_size", "Unable to parse input string as an integer, exceeded maximum size"⟩

def notWhole : Flaw :=
  ⟨"int_from_float", "Input should be a valid integer, got a number with a fractional part"⟩

def notFinite : Flaw := ⟨"finite_number", "Input should be a finite number"⟩

def notTruth : Flaw := ⟨"bool_type", "Input should be a valid boolean"⟩

def notWord : Flaw :=
  ⟨"bool_parsing", "Input should be a valid boolean, unable to interpret input"⟩

def unexpected : Flaw := ⟨"extra_forbidden", "Extra inputs are not permitted"⟩

/-- A value of the right type that is refused all the same. -/
def refused (reason : String) : Flaw := ⟨"value_error", "Value error, " ++ reason⟩

end Flaw

def readText : Value → Except Flaw Text
  | .str text => .ok text
  | .bytes octets =>
      match Text.decode? octets with
      | some text => .ok text
      | none => .error .notUnicode
  | _ => .error .notText

/-- A text without halves, by a reader of such texts. -/
def readWhole {α : Type} (read : String → Except Flaw α) : Text → Except Flaw α
  | .whole text => read text
  | .torn .. => .error .notUnicode

/-- The integer that a text of digits denotes. -/
def readDigits (text : String) : Except Flaw Int :=
  match Digits.read text with
  | .ok number => .ok number
  | .error .tooLong => .error .tooLong
  | .error .malformed => .error .notDigits

/-- Whole numbers of this size are the greatest that a machine word holds. -/
def wordBound : Int := Nat.pow 2 63

def readInteger : Value → Except Flaw Int
  | .int number => .ok number
  | .bool truth => .ok truth.toNat
  | .float _ number =>
      match Decimal.Real.ofFloat number with
      | .finite negative magnitude =>
          match (Decimal.Real.finite negative magnitude).integer? with
          | some number =>
              if -wordBound < number ∧ number < wordBound then .ok number else .error .tooLong
          | none => .error .notWhole
      | _ => .error .notFinite
  | .str text => readWhole readDigits text
  | .bytes octets =>
      match Text.decode? octets with
      | some text => readDigits text
      | none => .error .notDigits
  | _ => .error .notInteger

def readWord (text : String) : Except Flaw Bool :=
  let word := String.ofList (text.toList.map Text.lowerAscii)
  if ["1", "on", "t", "true", "y", "yes"].contains word then .ok true
  else if ["0", "off", "f", "false", "n", "no"].contains word then .ok false
  else .error .notWord

/-- The truth value of a whole number, which must fit a machine word. -/
def readSwitch (number : Int) : Except Flaw Bool :=
  if number = 0 then .ok false
  else if number = 1 then .ok true
  else .error .notWord

def readTruth : Value → Except Flaw Bool
  | .bool truth => .ok truth
  | .int number =>
      if -wordBound ≤ number ∧ number < wordBound then readSwitch number else .error .notTruth
  | .float _ number =>
      match (Decimal.Real.ofFloat number).integer? with
      | some number =>
          if -wordBound < number ∧ number < wordBound then readSwitch number
          else .error .notTruth
      | none => .error .notTruth
  | .str text => readWhole readWord text
  | .bytes octets =>
      match Text.decode? octets with
      | some text => readWord text
      | none => .error .notWord
  | _ => .error .notTruth

end GuardAlgebra.Settings
