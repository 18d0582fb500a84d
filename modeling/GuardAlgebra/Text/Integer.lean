import GuardAlgebra.Text.Ranges

/-!
Integers as text: an optional sign and digits with single underscores between them, with white space
around. Digits are those of any script, and letters of ASCII for bases above ten. A text of ASCII
alone admits only the spaces of ASCII. A base can be named by what stands in front of the digits,
and unless the base is a power of two there may only be so many digits.
-/
namespace GuardAlgebra.Text

/-- More digits than this are refused. -/
def digitBound : Nat := 4300

/-- Strips spaces from both ends. -/
def trim (isSpace : Char → Bool) (text : List Char) : List Char :=
  ((text.dropWhile isSpace).reverse.dropWhile isSpace).reverse

def isSpace (char : Char) : Bool := isPlainSpace char || isWideSpace char

/-- Digits of any script as digits of ASCII; other characters as they are. -/
def plainDigit (char : Char) : Char :=
  match decimalDigit? char with
  | some digit => Char.ofNat ('0'.toNat + digit)
  | none => char

/-- The value of a digit or of a letter, if it is below the base. -/
def digit? (base : Nat) (char : Char) : Option Nat :=
  let lower := lowerAscii char
  let value := (decimalDigit? char).or
    (if 'a' ≤ lower ∧ lower ≤ 'z' then some (lower.toNat - 'a'.toNat + 10) else none)
  value.filter (· < base)

/-- Digits of an integer, most significant first: single underscores between digits are skipped. -/
def digitRun (digit? : Char → Option Nat) : List Char → Option (List Nat)
  | [] => none
  | [char] => (digit? char).map fun digit => [digit]
  | char :: '_' :: rest => do
      let digit ← digit? char
      let digits ← digitRun digit? rest
      pure (digit :: digits)
  | char :: rest => do
      let digit ← digit? char
      let digits ← digitRun digit? rest
      pure (digit :: digits)

def valueOf (base : Nat) (digits : List Nat) : Nat :=
  digits.foldl (fun number digit => number * base + digit) 0

/-- The sign in front of a text, and the rest. -/
def splitSign : List Char → Bool × List Char
  | '-' :: rest => (true, rest)
  | '+' :: rest => (false, rest)
  | rest => (false, rest)

def signed (negative : Bool) (magnitude : Nat) : Int :=
  if negative then -(magnitude : Int) else magnitude

/-- The base that a letter behind a zero names. -/
def namedBase? (char : Char) : Option Nat :=
  let lower := lowerAscii char
  if lower = 'x' then some 16
  else if lower = 'o' then some 8
  else if lower = 'b' then some 2
  else none

/-- The base of a magnitude and its digits. Base zero stands for the base that is named in front, or
else ten; in front of the digits of another base its own name is skipped. One underscore may follow
the name. -/
def splitBase (base : Nat) : List Char → Nat × List Char
  | '0' :: letter :: rest =>
      match namedBase? letter with
      | some named =>
          if base = named ∨ base = 0 then
            (named, match rest with
              | '_' :: digits => digits
              | digits => digits)
          else (base, '0' :: letter :: rest)
      | none => (if base = 0 then 10 else base, '0' :: letter :: rest)
  | digits => (if base = 0 then 10 else base, digits)

/-- Why a text is no integer. -/
inductive IntegerFlaw where
  | malformed
  | tooLong (digits : Nat)
  deriving DecidableEq, Repr

/-- Whether any number of digits is admitted. -/
def isUnbounded (base : Nat) : Bool := [2, 4, 8, 16, 32].contains base

/-- Reads an integer in a base from 2 to 36, or in the base that the text names. Without a name, no
zeros may lead then. -/
def readInteger (base : Nat) (text : List Char) : Except IntegerFlaw Int :=
  let (negative, magnitude) := splitSign ((trim isSpace text).map plainDigit)
  let (actual, written) := splitBase base magnitude
  let inside := fun char => (digit? actual char).isSome || char = '_'
  match digitRun (digit? actual) (written.takeWhile inside) with
  | none => .error .malformed
  | some digits =>
      if !isUnbounded actual && digitBound < digits.length then .error (.tooLong digits.length)
      else if !(written.dropWhile inside).isEmpty then .error .malformed
      else
        let number := valueOf actual digits
        if base = 0 ∧ magnitude.head? = some '0' ∧ actual = 10 ∧ number ≠ 0 then
          .error .malformed
        else .ok (signed negative number)

/-- The integer a text denotes in the base ten, if it denotes one. -/
def integer? (text : List Char) : Option Int := (readInteger 10 text).toOption

/-- Bytes of ASCII text as characters; a byte of none becomes a character of no number. -/
def plainText (bytes : List UInt8) : List Char :=
  bytes.map fun byte => if byte < 0x80 then Char.ofNat byte.toNat else '?'

/-- The integer that bytes of ASCII text denote. -/
def integerOfBytes? (bytes : List UInt8) : Option Int := integer? (plainText bytes)

end GuardAlgebra.Text
