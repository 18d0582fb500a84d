import GuardAlgebra.Text.Utf8

/-!
Query strings. A query is cut at every ampersand and each piece at its first equals sign; pieces
without text are skipped, and a name without a value has the empty one. A plus sign is a space, and
a percent sign with two hexadecimal digits is a byte. Runs of ASCII text are read as UTF-8 after
that, byte by byte, and a byte of the query outside ASCII is the character of its number.
-/
namespace GuardAlgebra.Query

/-- The pieces between separators. -/
def splitAt (separator : Char) : List Char → List (List Char)
  | [] => [[]]
  | char :: rest =>
      if char = separator then [] :: splitAt separator rest
      else
        match splitAt separator rest with
        | [] => [[char]]
        | piece :: pieces => (char :: piece) :: pieces

def hexDigit? (char : Char) : Option Nat :=
  if '0' ≤ char ∧ char ≤ '9' then some (char.toNat - '0'.toNat)
  else if 'a' ≤ char ∧ char ≤ 'f' then some (char.toNat - 'a'.toNat + 10)
  else if 'A' ≤ char ∧ char ≤ 'F' then some (char.toNat - 'A'.toNat + 10)
  else none

/-- The bytes of ASCII text with its escapes; an escape that is none stands for itself. -/
def bytesOf : List Char → List UInt8
  | [] => []
  | '%' :: high :: low :: rest =>
      match hexDigit? high, hexDigit? low with
      | some upper, some lower => UInt8.ofNat (upper * 16 + lower) :: bytesOf rest
      | _, _ => 37 :: bytesOf (high :: low :: rest)
  | char :: rest => UInt8.ofNat char.toNat :: bytesOf rest

/-- Decodes each run of ASCII text by itself. -/
def decodeRuns (run : List Char) : List Char → List Char
  | [] => Text.decodeReplacing (bytesOf run.reverse)
  | char :: rest =>
      if char.toNat < 128 then decodeRuns (char :: run) rest
      else Text.decodeReplacing (bytesOf run.reverse) ++ char :: decodeRuns [] rest

def decodePart (part : List Char) : String :=
  String.ofList (decodeRuns [] (part.map fun char => if char = '+' then ' ' else char))

/-- The query as one character per byte. -/
def octetsOf (query : String) : List Char :=
  query.toUTF8.toList.map fun byte => Char.ofNat byte.toNat

/-- The names and values of a query, in order. -/
def pairs (query : String) : List (String × String) :=
  (splitAt '&' (octetsOf query)).filterMap fun piece =>
    if piece.isEmpty then none
    else
      let name := piece.takeWhile (· ≠ '=')
      let value := (piece.dropWhile (· ≠ '=')).drop 1
      some (decodePart name, decodePart value)

/-- The last value given for a name. -/
def find? (query : String) (name : String) : Option String :=
  ((pairs query).reverse.find? fun pair => pair.1 = name).map Prod.snd

end GuardAlgebra.Query
