/-!
Texts. A text is a sequence of characters, among which halves of characters can stand by themselves:
a byte that cannot be read, of the environment for one, is kept as such a half. No encoding has bytes
for it, so a text with a half in it cannot be sent.

A text is cut at its halves: `whole` has none, and `torn` begins with the characters in front of the
first one.
-/
namespace GuardAlgebra

/-- Half of a character: one of the code points that stand for no character by themselves. -/
structure Half where
  offset : Fin 0x800
  deriving DecidableEq, Repr

namespace Half

def code (half : Half) : Nat := 0xD800 + half.offset

/-- The half in whose place a byte is kept. -/
def ofByte (byte : UInt8) : Half :=
  ⟨⟨0x400 + byte.toNat, by have := byte.toNat_lt; omega⟩⟩

end Half

inductive Text where
  | whole (text : String)
  | torn (front : String) (half : Half) (rest : Text)
  deriving DecidableEq, Repr

namespace Text

instance : Coe String Text := ⟨.whole⟩

/-- One text behind another one. -/
def append : Text → Text → Text
  | .whole text, .whole other => .whole (text ++ other)
  | .whole text, .torn front half rest => .torn (text ++ front) half rest
  | .torn front half rest, other => .torn front half (rest.append other)

instance : Append Text := ⟨append⟩

@[simp] theorem whole_append_whole (text other : String) :
    (Text.whole text ++ Text.whole other : Text) = .whole (text ++ other) := rfl

/-- Texts with a separator between them. -/
def join (separator : Text) : List Text → Text
  | [] => .whole ""
  | [text] => text
  | text :: next :: texts => text ++ separator ++ join separator (next :: texts)

/-- There are no halves in the text. -/
def IsWhole (text : Text) : Prop := ∃ body : String, text = .whole body

section Whole

variable {text other : Text} {body : String}

theorem append_eq_whole :
    text ++ other = .whole body ↔
      ∃ front back, text = .whole front ∧ other = .whole back ∧ front ++ back = body := by
  constructor
  · intro same
    cases text with
    | torn front half rest => exact nomatch same
    | whole front =>
        cases other with
        | torn => exact nomatch same
        | whole back => exact ⟨front, back, rfl, rfl, Text.whole.inj same⟩
  · rintro ⟨front, back, rfl, rfl, rfl⟩
    rfl

theorem join_whole (separator : String) (texts : List String) :
    join separator (texts.map .whole) = .whole (separator.intercalate texts) := by
  induction texts with
  | nil => rfl
  | cons text texts ih =>
      cases texts with
      | nil => simp [join]
      | cons next texts =>
          rw [String.intercalate_cons_cons]
          change whole text ++ whole separator ++ join separator ((next :: texts).map .whole) = _
          rw [ih]
          rfl

theorem exists_of_join_eq_whole {separator : Text} {texts : List Text}
    (same : join separator texts = .whole body) : ∃ bodies : List String, texts = bodies.map .whole := by
  induction texts generalizing body with
  | nil => exact ⟨[], rfl⟩
  | cons text texts ih =>
      cases texts with
      | nil => exact ⟨[body], congrArg (fun text => [text]) same⟩
      | cons next texts =>
          obtain ⟨_, _, isFront, isBack, -⟩ := append_eq_whole.mp same
          obtain ⟨first, _, rfl, -, -⟩ := append_eq_whole.mp isFront
          obtain ⟨bodies, rest⟩ := ih isBack
          exact ⟨first :: bodies, congrArg (Text.whole first :: ·) rest⟩

end Whole

/-- The characters and halves of a text, in order. -/
def points : Text → List (Char ⊕ Half)
  | .whole text => text.toList.map .inl
  | .torn front half rest => front.toList.map .inl ++ .inr half :: rest.points

def length (text : Text) : Nat := text.points.length

/-- The characters of a text, with a question mark in the place of each half. -/
def plain : Text → List Char
  | .whole text => text.toList
  | .torn front _ rest => front.toList ++ '?' :: rest.plain

/-- A text of one character or half. -/
def single : Char ⊕ Half → Text
  | .inl char => .whole (String.singleton char)
  | .inr half => .torn "" half (.whole "")

/-- The text, if it has no halves. -/
def whole? : Text → Option String
  | .whole text => some text
  | .torn .. => none

/-- Puts characters in the place of each character. -/
def expand (characters : Char → List Char) : Text → Text
  | .whole text => .whole (String.ofList (text.toList.flatMap characters))
  | .torn front half rest =>
      .torn (String.ofList (front.toList.flatMap characters)) half (rest.expand characters)

/-- The halves that a text begins with. -/
def leadingHalves : Text → List Half
  | .torn "" half rest => half :: rest.leadingHalves
  | _ => []

/-- The place of the first half of a text, and the halves that stand there in a row. -/
def firstHalves? : Text → Option (Nat × List Half)
  | .whole _ => none
  | .torn front half rest => some (front.length, half :: rest.leadingHalves)

end Text

end GuardAlgebra
