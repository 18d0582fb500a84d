import GuardAlgebra.Text.Quoted
import GuardAlgebra.Value.Display
import GuardAlgebra.Value.Silence

/-!
JSON text of values: no blanks, members in their order, and only quotation marks, backslashes and
control characters escaped. Nothing, truth values, integers, finite numbers, texts, lists and tuples
can be written, and dictionaries of these whose keys are texts or can be shown as one. Integers of too
many digits cannot.
-/
namespace GuardAlgebra.Json

/-- A character as it stands inside a JSON text. -/
def escaped (char : Char) : List Char :=
  if char = Text.doubleQuote then [Text.backslash, Text.doubleQuote]
  else if char = Text.backslash then [Text.backslash, Text.backslash]
  else if char = '\n' then [Text.backslash, 'n']
  else if char = '\r' then [Text.backslash, 'r']
  else if char = '\t' then [Text.backslash, 't']
  else if char.toNat = 8 then [Text.backslash, 'b']
  else if char.toNat = 12 then [Text.backslash, 'f']
  else if char.toNat < 32 then Text.backslash :: 'u' :: Text.hex 4 char.toNat
  else [char]

def quotation : Text := String.singleton Text.doubleQuote

/-- A text as a JSON text. Halves of characters stand for themselves. -/
def string (text : Text) : Text := quotation ++ text.expand escaped ++ quotation

def number (number : Float) : Except Fault Text :=
  match Decimal.Real.ofFloat number with
  | .finite .. => .ok (Decimal.render number)
  | _ => .error .nonFiniteNumber

def integer (integer : Int) : Except Fault Text :=
  if isSpelled integer then .ok (toString integer) else .error .unspellable

def truthWord (truth : Bool) : String := if truth then "true" else "false"

/-- The name that a key becomes. -/
def name : Value → Except Fault Text
  | .str text => .ok text
  | .none => .ok "null"
  | .bool truth => .ok (truthWord truth)
  | .int whole => integer whole
  | .float _ real => number real
  | value => .error (.unwritable value.typeName)

def array (items : List Text) : Text := "[" ++ Text.join "," items ++ "]"

def object (members : List Text) : Text := "\x7b" ++ Text.join "," members ++ "\x7d"

def member (name value : Text) : Text := string name ++ ":" ++ value

mutual

def write : Value → Except Fault Text
  | .none => .ok "null"
  | .bool truth => .ok (truthWord truth)
  | .int whole => integer whole
  | .float _ real => number real
  | .str text => .ok (string text)
  | .list _ items | .tuple _ items => (writeItems items).map array
  | .dict _ entries => (writeEntries entries).map object
  | value => .error (.unwritable value.typeName)
termination_by structural value => value

def writeItems : List Value → Except Fault (List Text)
  | [] => .ok []
  | item :: items => do
      let first ← write item
      let rest ← writeItems items
      pure (first :: rest)
termination_by structural items => items

def writeEntries : List (Value × Value) → Except Fault (List Text)
  | [] => .ok []
  | (key, value) :: entries => do
      let key ← name key
      let first ← write value
      let rest ← writeEntries entries
      pure (member key first :: rest)
termination_by structural entries => entries

end

end GuardAlgebra.Json
