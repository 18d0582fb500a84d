import GuardAlgebra.Text.Unprintable

/-!
Character properties as closed ranges of code points, ascending and apart. The tables follow version
14 of the character standard.
-/
namespace GuardAlgebra.Text

def inRanges : List (Nat × Nat) → Nat → Bool
  | [], _ => false
  | (low, high) :: rest, code => low ≤ code && (code ≤ high || inRanges rest code)

/-- White space outside of ASCII. -/
def wideSpaces : List (Nat × Nat) :=
  [(0x85, 0x85), (0xA0, 0xA0), (0x1680, 0x1680), (0x2000, 0x200A), (0x2028, 0x2029),
   (0x202F, 0x202F), (0x205F, 0x205F), (0x3000, 0x3000)]

/-- The digit zero of each script that counts in tens; its other nine digits follow it. -/
def zeroDigits : List Nat :=
  [0x30, 0x660, 0x6F0, 0x7C0, 0x966, 0x9E6, 0xA66, 0xAE6, 0xB66, 0xBE6, 0xC66, 0xCE6, 0xD66, 0xDE6,
   0xE50, 0xED0, 0xF20, 0x1040, 0x1090, 0x17E0, 0x1810, 0x1946, 0x19D0, 0x1A80, 0x1A90, 0x1B50,
   0x1BB0, 0x1C40, 0x1C50, 0xA620, 0xA8D0, 0xA900, 0xA9D0, 0xA9F0, 0xAA50, 0xABF0, 0xFF10, 0x104A0,
   0x10D30, 0x11066, 0x110F0, 0x11136, 0x111D0, 0x112F0, 0x11450, 0x114D0, 0x11650, 0x116C0,
   0x11730, 0x118E0, 0x11950, 0x11C50, 0x11D50, 0x11DA0, 0x16A60, 0x16AC0, 0x16B50, 0x1D7CE,
   0x1D7D8, 0x1D7E2, 0x1D7EC, 0x1D7F6, 0x1E140, 0x1E2F0, 0x1E950, 0x1FBF0]

/-- The value of a decimal digit of any script. -/
def decimalDigit? (char : Char) : Option Nat :=
  (zeroDigits.find? fun start => start ≤ char.toNat && char.toNat < start + 10).map fun start =>
    char.toNat - start

/-- The six characters of ASCII that separate words. -/
def isPlainSpace (char : Char) : Bool :=
  char.toNat = 0x20 || (0x09 ≤ char.toNat && char.toNat ≤ 0x0D)

/-- A letter of ASCII in lower case; any other character as it is. -/
def lowerAscii (char : Char) : Char :=
  if 'A' ≤ char ∧ char ≤ 'Z' then Char.ofNat (char.toNat + 32) else char

def isWideSpace (char : Char) : Bool := inRanges wideSpaces char.toNat

def isPrintable (char : Char) : Bool := !inRanges unprintables char.toNat

theorem decimalDigit?_lt_ten {char : Char} {value : Nat} (digit : decimalDigit? char = some value) :
    value < 10 := by
  obtain ⟨start, found, rfl⟩ := Option.map_eq_some_iff.mp digit
  have bounds := List.find?_some found
  simp only [Bool.and_eq_true, decide_eq_true_eq] at bounds
  omega

end GuardAlgebra.Text
