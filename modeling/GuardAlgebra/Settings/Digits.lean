import GuardAlgebra.Text.Integer

/-!
Whole numbers in the texts of settings. White space around a number, one plus sign, zeros in front,
a fraction of zeros and single underscores between digits are put aside; what is left must be a
sign and digits that do not begin with a zero, and no run of digits may be longer than a bound.
-/
namespace GuardAlgebra.Settings.Digits

/-- Why a text denotes no number. -/
inductive Refusal where
  | malformed
  | tooLong
  deriving DecidableEq, Repr

def isDigit (char : Char) : Bool := '0' ≤ char && char ≤ '9'

def digitOf (char : Char) : Nat := char.toNat - '0'.toNat

/-- Takes one plus sign off the front; a second sign behind it is refused. -/
def dropPlus? : List Char → Option (List Char)
  | '+' :: '+' :: _ | '+' :: '-' :: _ => none
  | '+' :: rest => some rest
  | text => some text

/-- Goes on behind a leading zero, over zeros and underscores; `previous` is what stands before. A
text of nothing else keeps its last character, and a point the one before it. -/
def skipZeros? (previous : Char) : List Char → Option (List Char)
  | [] => some [previous]
  | char :: rest =>
      if char = '0' || char = '_' then skipZeros? char rest
      else if isDigit char || char = '-' then some (char :: rest)
      else if char = '.' then some (previous :: char :: rest)
      else none

def dropZeros? : List Char → Option (List Char)
  | '0' :: rest => skipZeros? '0' rest
  | char :: rest => if isDigit char || char = '-' then some (char :: rest) else none
  | [] => none

/-- Drops a point followed by one or more zeros from the end of a text. -/
def dropZeroFraction (text : List Char) : List Char :=
  let whole := text.takeWhile (· ≠ '.')
  match text.dropWhile (· ≠ '.') with
  | '.' :: '0' :: zeros => if zeros.all (· = '0') then whole else text
  | _ => text

def hasDoubleUnderscore : List Char → Bool
  | '_' :: '_' :: _ => true
  | _ :: rest => hasDoubleUnderscore rest
  | [] => false

/-- Drops underscores, where all of them stand alone and none at an end. -/
def dropUnderscores (text : List Char) : List Char :=
  if text.head? = some '_' || text.getLast? = some '_' || hasDoubleUnderscore text then text
  else text.filter (· ≠ '_')

/-- The number of a text of digits, without a zero in front of other digits. -/
def magnitude (text : List Char) : Except Refusal Nat :=
  match text with
  | [] => .error .malformed
  | ['0'] => .ok 0
  | '0' :: _ => .error .malformed
  | text =>
      let digits := text.takeWhile isDigit
      if Text.digitBound < digits.length then .error .tooLong
      else if digits.length = text.length then .ok (Text.valueOf 10 (digits.map digitOf))
      else .error .malformed

/-- What is left of a text when all that may stand around and between its digits is dropped. -/
def bare? (isSpace : Char → Bool) (text : List Char) : Option (List Char) := do
  let text ← dropPlus? (Text.trim isSpace text)
  let text ← dropZeros? text
  pure (dropUnderscores (dropZeroFraction text))

/-- The number of a text that is bare of all but a minus sign and digits. -/
def ofBare : List Char → Except Refusal Int
  | '-' :: rest => (magnitude rest).map fun (number : Nat) => -(number : Int)
  | text => (magnitude text).map fun (number : Nat) => (number : Int)

/-- The whole number that a text denotes. -/
def read (text : String) : Except Refusal Int :=
  match bare? Text.isSpace text.toList with
  | none => .error .malformed
  | some text => ofBare text

end GuardAlgebra.Settings.Digits
