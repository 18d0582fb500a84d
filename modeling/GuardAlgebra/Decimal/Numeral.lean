import GuardAlgebra.Decimal.Notation
import GuardAlgebra.Text.Integer

/-!
Floating-point numbers as text: an optional sign, digits with an optional fraction and an optional
exponent, or one of the words for infinity and for what is no number, in any case. Single underscores
may stand between digits, and white space around it all.
-/
namespace GuardAlgebra.Decimal

/-- The text without underscores, each of which must stand between two digits. -/
def withoutUnderscores? : Option Char → List Char → Option (List Char)
  | _, [] => some []
  | before, '_' :: rest =>
      if before.any Char.isDigit && rest.head?.any Char.isDigit then
        withoutUnderscores? none rest
      else none
  | _, char :: rest => (withoutUnderscores? (some char) rest).map (char :: ·)

def word? (text : List Char) : Option Float :=
  let word := String.ofList (text.map Text.lowerAscii)
  if word = "inf" ∨ word = "infinity" then some (1.0 / 0.0)
  else if word = "nan" then some (0.0 / 0.0)
  else none

/-- The power of ten that an exponent gives. -/
def power? : List Char → Option Int
  | [] => some 0
  | letter :: rest =>
      if Text.lowerAscii letter = 'e' then
        let (negative, digits) := Text.splitSign rest
        if digits.isEmpty || !digits.all Char.isDigit then none
        else some (Text.signed negative (naturalOf digits))
      else none

def unsigned? (text : List Char) : Option Float :=
  let whole := text.takeWhile Char.isDigit
  let (fraction, rest) := match text.dropWhile Char.isDigit with
    | '.' :: rest => (rest.takeWhile Char.isDigit, rest.dropWhile Char.isDigit)
    | rest => ([], rest)
  if whole.isEmpty && fraction.isEmpty then none
  else (power? rest).map fun power => scaled (whole ++ fraction) (power - fraction.length)

/-- The number that a text denotes, if it denotes one. -/
def ofText? (text : List Char) : Option Float := do
  let plain ← withoutUnderscores? none ((Text.trim Text.isSpace text).map Text.plainDigit)
  let (negative, magnitude) := Text.splitSign plain
  let number ← (word? magnitude).or (unsigned? magnitude)
  pure (if negative then -number else number)

/-- The nearest floating-point number, unless that is beyond all finite ones. -/
def ofInteger? (number : Int) : Option Float :=
  let nearest := Float.ofScientific number.natAbs false 0
  if nearest.isInf then none else some (if number < 0 then -nearest else nearest)

end GuardAlgebra.Decimal
