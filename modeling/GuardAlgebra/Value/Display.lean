import GuardAlgebra.Decimal.Notation
import GuardAlgebra.Value.Kind

/-!
How values are shown. `display` shows a value as it stands inside another one, with text in quotes;
`text` is the value as a message: text stands for itself, and an exception for what it says.

What an exception says can be changed after it was made. A voice gives the words of those that were
changed; all others say what they were made with.
-/
namespace GuardAlgebra

def parenthesized (name : String) (parts : List String) : String :=
  name ++ "(" ++ ", ".intercalate parts ++ ")"

/-- A value in words: as it is shown, and as a message. -/
structure Wording where
  shown : String
  text : Text
  deriving DecidableEq, Repr

/-- The words of exceptions that do not say what they were made with. -/
abbrev Voice : Type := Exception → Option Wording

namespace Voice

/-- Everything says what it was made with. -/
def original : Voice := fun _ => none

end Voice

namespace Wording

/-- Several values as a tuple. -/
def tuple : List Wording → String
  | [item] => "(" ++ item.shown ++ ",)"
  | items => parenthesized "" (items.map Wording.shown)

def none : Wording := ⟨"None", "None"⟩

end Wording

namespace Exception

/-- Errors of the operating system. -/
def isSystem (cls : ClassId) : Bool := [ClassId.known "PermissionError", .known "OSError"].contains cls

/-- What an exception says by its arguments. A missing key is quoted. -/
def textOf (cls : ClassId) : List Wording → Text
  | [] => ""
  | [argument] => if cls = .known "KeyError" then .whole argument.shown else argument.text
  | arguments => Wording.tuple arguments

/-- What an error of the operating system says: a number and a description, with up to two file
names, where it has them. -/
def systemText (number description file other : Option Wording) (otherwise : Text) : Text :=
  let part := fun (wording : Option Wording) => wording.getD Wording.none
  let lead : Text := "[Errno " ++ (part number).text ++ "] " ++ (part description).text
  match file, other, number, description with
  | some file, some other, _, _ => lead ++ ": " ++ file.shown ++ " -> " ++ other.shown
  | some file, none, _, _ => lead ++ ": " ++ file.shown
  | none, _, some _, some _ => lead
  | none, _, _, _ => otherwise

/-- What an exception made with these arguments says. An error of the operating system takes up to
five: a number, a description, a file, an ignored one, and another file; a file that is nothing is
none. -/
def initialText (cls : ClassId) (arguments : List Wording) : Text :=
  let otherwise := textOf cls arguments
  let given := fun (wording : Wording) => if wording = Wording.none then none else some wording
  if isSystem cls then
    match arguments with
    | [number, description] => systemText (some number) (some description) none none otherwise
    | [number, description, file] | [number, description, file, _] =>
        systemText (some number) (some description) (given file) none otherwise
    | [number, description, file, _, other] =>
        systemText (some number) (some description) (given file)
          (if (given file).isSome then given other else none) otherwise
    | _ => otherwise
  else otherwise

/-- The arguments that an exception keeps: an error of the operating system with a file keeps the
number and the description. -/
def kept {α : Type} (isNone : α → Bool) (cls : ClassId) (arguments : List α) : List α :=
  match arguments with
  | number :: description :: file :: rest =>
      if isSystem cls && rest.length ≤ 2 && !isNone file then [number, description] else arguments
  | _ => arguments

end Exception

/-- The arguments that the exception of a fault shows. -/
def Fault.shownArguments : Fault → List String
  | .unencodable text =>
      let (place, halves) := text.firstHalves?.getD (0, [])
      [Text.quoted "utf-8", Text.quoted text, toString place, toString (place + halves.length),
        Text.quoted "surrogates not allowed"]
  | fault => [Text.quoted fault.message]

mutual

def Value.display (voice : Voice) : Value → String
  | .none => "None"
  | .bool truth => if truth then "True" else "False"
  | .int number => toString number
  | .float _ number => Decimal.render number
  | .str text => Text.quoted text
  | .bytes octets => Text.quotedBytes octets
  | .list _ items => "[" ++ ", ".intercalate (Value.displayAll voice items) ++ "]"
  | .tuple _ [item] => "(" ++ Value.display voice item ++ ",)"
  | .tuple _ items => "(" ++ ", ".intercalate (Value.displayAll voice items) ++ ")"
  | .dict _ entries => "\x7b" ++ ", ".intercalate (Value.displayEntries voice entries) ++ "\x7d"
  | .type expr => expr.display
  | .result _ allowed error =>
      parenthesized "GuardResult"
        ["allowed=" ++ Value.display voice allowed, "error=" ++ Value.display voice error]
  | .context _ received user organization extra =>
      parenthesized "GuardContext"
        ["request=" ++ Value.display voice received, "user=" ++ Value.display voice user,
          "organization_id=" ++ Value.display voice organization, "extra_data=" ++ Value.display voice extra]
  | .guard tree => Guard.display voice tree
  | .post tree => PostGuard.display voice tree
  | .exception raised => Exception.display voice raised
  | .callable function => "<fn " ++ function.label ++ ">"
  | .request received => "<request " ++ received.method ++ " " ++ received.path ++ ">"
  | .outcome _ field value error resolved stage =>
      parenthesized "FieldOutcome"
        ["field_name=" ++ Value.display voice field, "value=" ++ Value.display voice value,
          "error=" ++ Value.display voice error, "resolved=" ++ Value.display voice resolved,
          "stage=" ++ Value.display voice stage]
  | .resolver .. => "<field resolver>"
  | .routine .. => "<function>"
  | .method method => "<function " ++ method.name ++ ">"
  | .bound function _ => "<bound " ++ Value.display voice function ++ ">"
  | .instance _ cls => "<" ++ cls.qualified ++ " object>"
  | .pending _ => "<coroutine object>"
termination_by structural value => value

def Value.displayAll (voice : Voice) : List Value → List String
  | [] => []
  | item :: items => Value.display voice item :: Value.displayAll voice items
termination_by structural items => items

def Value.displayEntries (voice : Voice) : List (Value × Value) → List String
  | [] => []
  | (key, value) :: entries =>
      (Value.display voice key ++ ": " ++ Value.display voice value) :: Value.displayEntries voice entries
termination_by structural entries => entries

def Guard.display (voice : Voice) : Guard → String
  | .both _ left right =>
      parenthesized "And" ["left=" ++ Guard.display voice left, "right=" ++ Guard.display voice right]
  | .either _ left right =>
      parenthesized "Or" ["left=" ++ Guard.display voice left, "right=" ++ Guard.display voice right]
  | .allowAll _ => "AllowAll()"
  | .denyAll _ error => parenthesized "DenyAll" ["error=" ++ Value.display voice error]
  | .function _ callable error name =>
      parenthesized "FunctionGuard"
        ["func=" ++ Value.display voice callable, "error=" ++ Value.display voice error,
          "name=" ++ Value.display voice name]
  | .leaf _ cls ⟨name, _, _⟩ => parenthesized cls.name [Text.quoted name]
termination_by structural tree => tree

def PostGuard.display (voice : Voice) : PostGuard → String
  | .both _ _ left right resultType =>
      parenthesized "PostAnd"
        ["left=" ++ PostGuard.display voice left, "right=" ++ PostGuard.display voice right,
          "result_type=" ++ Value.display voice resultType]
  | .function _ _ callable error resultType name =>
      parenthesized "FunctionPostGuard"
        ["func=" ++ Value.display voice callable, "error=" ++ Value.display voice error,
          "result_type=" ++ Value.display voice resultType, "name=" ++ Value.display voice name]
  | .leaf _ cls _ _ ⟨name, _, _⟩ => parenthesized cls.name [Text.quoted name]
termination_by structural tree => tree

def Exception.display (voice : Voice) : Exception → String
  | .plain site cls arguments =>
      match voice (.plain site cls arguments) with
      | some wording => wording.shown
      | none =>
          parenthesized cls.name
            (Exception.kept (· = "None") cls (Value.displayAll voice arguments))
  | .domain site cls message code details carried =>
      match voice (.domain site cls message code details carried) with
      | some wording => wording.shown
      | none => parenthesized cls.name [Value.display voice message]
  | .http site arguments status detail headers =>
      match voice (.http site arguments status detail headers) with
      | some wording => wording.shown
      | none =>
          parenthesized "HTTPException"
            ["status_code=" ++ Value.display voice status, "detail=" ++ Value.display voice detail]
  | .invalid _ problems => parenthesized "ValidationError" (problems.map (Text.quoted ·.text))
  | .fault site cause =>
      match voice (.fault site cause) with
      | some wording => wording.shown
      | none => parenthesized cause.className cause.shownArguments
termination_by structural raised => raised

end

mutual

/-- A value as a message. -/
def Value.text (voice : Voice) : Value → Text
  | .str text => text
  | .exception raised => Exception.text voice raised
  | value => value.display voice
termination_by structural value => value

def Value.wordings (voice : Voice) : List Value → List Wording
  | [] => []
  | value :: values => ⟨value.display voice, Value.text voice value⟩ :: Value.wordings voice values
termination_by structural values => values

/-- What an exception says. -/
def Exception.text (voice : Voice) : Exception → Text
  | .plain site cls arguments =>
      match voice (.plain site cls arguments) with
      | some wording => wording.text
      | none => Exception.initialText cls (Value.wordings voice arguments)
  | .domain site cls message code details carried =>
      match voice (.domain site cls message code details carried) with
      | some wording => wording.text
      | none => Value.text voice message
  | .http site arguments status detail headers =>
      match voice (.http site arguments status detail headers) with
      | some wording => wording.text
      | none => Value.text voice status ++ ": " ++ Value.text voice detail
  | .invalid _ problems => "\n".intercalate (problems.map (·.text))
  | .fault site cause =>
      match voice (.fault site cause) with
      | some wording => wording.text
      | none => cause.message
termination_by structural raised => raised

end

/-- A value in words. -/
def Value.wording (voice : Voice) (value : Value) : Wording := ⟨value.display voice, value.text voice⟩

end GuardAlgebra
