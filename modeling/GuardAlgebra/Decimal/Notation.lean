import GuardAlgebra.Decimal.Shortest

/-!
How floating-point numbers are written and read. They are written with the shortest digits,
positionally from `0.0001` up to below `10 ^ 16` and otherwise with a signed exponent of at least
two digits; whole numbers keep one zero behind the point.
-/
namespace GuardAlgebra.Decimal

def digitsOf (number : Nat) : List Char := (toString number).toList

def zeros (count : Nat) : List Char := List.replicate count '0'

/-- Exponent of the first digit, then the digits themselves. -/
def Number.scientific (decimal : Number) : Int × List Char :=
  let digits := digitsOf decimal.digits
  (decimal.exponent + digits.length - 1, digits)

/-- The digits with the point set behind the one of weight `10 ^ 0`. -/
def positional (leading : Int) (digits : List Char) : List Char :=
  match leading with
  | .negSucc gap => '0' :: '.' :: (zeros gap ++ digits)
  | .ofNat weight =>
      if weight + 1 < digits.length then
        digits.take (weight + 1) ++ '.' :: digits.drop (weight + 1)
      else digits ++ zeros (weight + 1 - digits.length) ++ ['.', '0']

def exponential (leading : Int) (digits : List Char) : List Char :=
  let power := digitsOf leading.natAbs
  let sign := if leading < 0 then '-' else '+'
  let fraction := match digits.drop 1 with
    | [] => []
    | rest => '.' :: rest
  digits.take 1 ++ fraction ++ 'e' :: sign :: (zeros (2 - power.length) ++ power)

def Number.layout (decimal : Number) : List Char :=
  let (leading, digits) := decimal.scientific
  if -4 ≤ leading ∧ leading < 16 then positional leading digits else exponential leading digits

/-- The text of a floating-point number. -/
def render (number : Float) : String :=
  match Real.ofFloat number with
  | .undefined => "nan"
  | .infinite negative => if negative then "-inf" else "inf"
  | .finite negative magnitude =>
      String.ofList ((if negative then ['-'] else []) ++ magnitude.shortest.layout)

/-- The natural number that a run of digits denotes. -/
def naturalOf (digits : List Char) : Nat :=
  digits.foldl (fun number digit => number * 10 + (digit.toNat - 48)) 0

/-- Digits times a power of ten. A number that is far too large or far too small for a finite one is
not computed. -/
def scaled (digits : List Char) (exponent : Int) : Float :=
  let number := naturalOf digits
  let size := exponent + (digitsOf number).length
  if number = 0 ∨ size < -400 then 0.0
  else if 400 < size then 1.0 / 0.0
  else Float.ofScientific number (exponent < 0) exponent.natAbs

/-- Reads the decimal digits, fraction and exponent of an unsigned number. -/
def readUnsigned (text : List Char) : Float :=
  let whole := text.takeWhile Char.isDigit
  let afterWhole := text.dropWhile Char.isDigit
  let (fraction, afterFraction) := match afterWhole with
    | '.' :: rest => (rest.takeWhile Char.isDigit, rest.dropWhile Char.isDigit)
    | rest => ([], rest)
  let power : Int := match afterFraction with
    | 'e' :: '-' :: rest => -(naturalOf rest : Int)
    | 'e' :: '+' :: rest => naturalOf rest
    | 'e' :: rest => naturalOf rest
    | _ => 0
  scaled (whole ++ fraction) (power - fraction.length)

/-- Reads what `render` writes. -/
def read (text : String) : Float :=
  match text with
  | "nan" => 0.0 / 0.0
  | "inf" => 1.0 / 0.0
  | "-inf" => -1.0 / 0.0
  | _ =>
      match text.toList with
      | '-' :: rest => -(readUnsigned rest)
      | rest => readUnsigned rest

end GuardAlgebra.Decimal
