import GuardAlgebra.Text

/-!
Reading bytes as UTF-8. A byte that starts no character, and a sequence that breaks off, become one
replacement character each; reading goes on at the byte that broke it off. The environment keeps each
byte of these as a half of a character instead.
-/
namespace GuardAlgebra.Text

/-- What the first byte of a character asks for: how many bytes still follow, the range of the
first of them, and the bits the first byte brings. -/
structure Lead where
  following : Nat
  low : Nat
  high : Nat
  bits : Nat

def leadOf (byte : Nat) : Option Lead :=
  if byte < 0x80 then some ⟨0, 0, 0, byte⟩
  else if byte < 0xC2 then none
  else if byte < 0xE0 then some ⟨1, 0x80, 0xBF, byte - 0xC0⟩
  else if byte = 0xE0 then some ⟨2, 0xA0, 0xBF, 0⟩
  else if byte = 0xED then some ⟨2, 0x80, 0x9F, 0xD⟩
  else if byte < 0xF0 then some ⟨2, 0x80, 0xBF, byte - 0xE0⟩
  else if byte = 0xF0 then some ⟨3, 0x90, 0xBF, 0⟩
  else if byte < 0xF4 then some ⟨3, 0x80, 0xBF, byte - 0xF0⟩
  else if byte = 0xF4 then some ⟨3, 0x80, 0x8F, 4⟩
  else none

def replacement : Char := Char.ofNat 0xFFFD

/-- Reads on inside a character: `owed` more bytes, the next between `low` and `high`, after the
bits read so far. -/
def decodeFrom (owed low high bits : Nat) : List UInt8 → List Char
  | [] => if owed = 0 then [] else [replacement]
  | byte :: rest =>
      if 0 < owed ∧ low ≤ byte.toNat ∧ byte.toNat ≤ high then
        let bits := bits * 64 + byte.toNat % 64
        if owed = 1 then Char.ofNat bits :: decodeFrom 0 0 0 0 rest
        else decodeFrom (owed - 1) 0x80 0xBF bits rest
      else
        let broken := if owed = 0 then [] else [replacement]
        broken ++
          match leadOf byte.toNat with
          | none => replacement :: decodeFrom 0 0 0 0 rest
          | some lead =>
              if lead.following = 0 then Char.ofNat lead.bits :: decodeFrom 0 0 0 0 rest
              else decodeFrom lead.following lead.low lead.high lead.bits rest

/-- The text with replacement characters where the bytes are no UTF-8. -/
def decodeReplacing (bytes : List UInt8) : List Char := decodeFrom 0 0 0 0 bytes

/-- The text, when the bytes are UTF-8. -/
def decode? (bytes : List UInt8) : Option String := String.fromUTF8? ⟨bytes.toArray⟩

theorem decode?_eq_some_iff {bytes : List UInt8} {text : String} :
    decode? bytes = some text ↔ text.toUTF8.data.toList = bytes := by
  rw [decode?, String.fromUTF8?]
  constructor
  · intro decoded
    split at decoded
    next valid =>
      cases decoded
      rfl
    next => cases decoded
  · rintro rfl
    exact dif_pos text.isValidUTF8

/-- The character that the first bytes are, and how many of them. -/
def character? (bytes : List UInt8) : Option (Char × Nat) :=
  [1, 2, 3, 4].findSome? fun count =>
    match (decode? (bytes.take count)).map String.toList with
    | some [char] => some (char, count)
    | _ => none

/-- Reads on behind bytes that are read already. -/
def keepFrom : Nat → List UInt8 → Text
  | _, [] => .whole ""
  | read + 1, _ :: bytes => keepFrom read bytes
  | 0, byte :: bytes =>
      match character? (byte :: bytes) with
      | some (char, count) => .whole (String.singleton char) ++ keepFrom (count - 1) bytes
      | none => .torn "" (.ofByte byte) (keepFrom 0 bytes)

/-- The text of bytes, where those that are no UTF-8 are kept as halves of characters. -/
def ofBytes (bytes : List UInt8) : Text := keepFrom 0 bytes

end GuardAlgebra.Text
