import GuardAlgebra.Text
import GuardAlgebra.Text.Ranges

/-!
Text and bytes as they are shown inside larger values: quoted, with a single quote unless the
content has one and no double quote, and with what cannot be printed written as an escape. Halves of
characters cannot be printed.
-/
namespace GuardAlgebra.Text

def hexDigit (value : Nat) : Char :=
  if value < 10 then Char.ofNat (48 + value) else Char.ofNat (87 + value)

/-- The number in lower-case hexadecimal, in exactly so many digits. -/
def hex : Nat → Nat → List Char
  | 0, _ => []
  | width + 1, value => hex width (value / 16) ++ [hexDigit (value % 16)]

def singleQuote : Char := Char.ofNat 39

def doubleQuote : Char := Char.ofNat 34

def backslash : Char := Char.ofNat 92

/-- The quote that goes around a content with these characters. -/
def quoteFor (content : List Char) : Char :=
  if content.contains singleQuote && !content.contains doubleQuote then doubleQuote
  else singleQuote

def escapeCode (code : Nat) : List Char :=
  if code < 0x100 then backslash :: 'x' :: hex 2 code
  else if code < 0x10000 then backslash :: 'u' :: hex 4 code
  else backslash :: 'U' :: hex 8 code

/-- One character between the given quotes. -/
def shownChar (quote char : Char) : List Char :=
  if char = quote || char = backslash then [backslash, char]
  else if char = '\n' then [backslash, 'n']
  else if char = '\r' then [backslash, 'r']
  else if char = '\t' then [backslash, 't']
  else if isPrintable char then [char]
  else escapeCode char.toNat

def shownPoint (quote : Char) : Char ⊕ Half → List Char
  | .inl char => shownChar quote char
  | .inr half => escapeCode half.code

def quoted (text : Text) : String :=
  let quote := quoteFor (text.points.filterMap Sum.getLeft?)
  String.ofList (quote :: (text.points.flatMap (shownPoint quote) ++ [quote]))

/-- The text with escapes in the place of its halves. -/
def escaped (text : Text) : String :=
  String.ofList (text.points.flatMap (Sum.elim (fun char => [char]) fun half => escapeCode half.code))

/-- One byte between the given quotes; only the printable part of ASCII stands for itself. -/
def shownByte (quote : Char) (byte : UInt8) : List Char :=
  if byte < 0x80 then
    let char := Char.ofNat byte.toNat
    if isPrintable char || char = '\n' || char = '\r' || char = '\t' then shownChar quote char
    else escapeCode byte.toNat
  else escapeCode byte.toNat

/-- Bytes are quoted behind the letter `b`. -/
def quotedBytes (bytes : List UInt8) : String :=
  let quote := quoteFor (bytes.map fun byte => Char.ofNat byte.toNat)
  String.ofList ('b' :: quote :: (bytes.flatMap (shownByte quote) ++ [quote]))

end GuardAlgebra.Text
