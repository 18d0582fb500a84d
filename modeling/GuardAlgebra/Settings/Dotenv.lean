import GuardAlgebra.Text.Quoted
import GuardAlgebra.Text
import GuardAlgebra.Text.Integer

/-!
Files of assignments. Every line assigns a value to a name, with an optional word in front of it;
blank lines and what follows a number sign are comments. A value in quotes may span lines and hold
escapes; any other ends before a comment. A line that is no assignment is skipped. A value may
refer to names that were assigned before, or to the environment, between braces after a dollar sign.

All line ends are read as line feeds, and a byte order mark in front of the text is no part of it.
-/
namespace GuardAlgebra.Dotenv

/-- Reads a carriage return, alone or before a line feed, as a line feed. -/
def unifyNewlines : List Char → List Char
  | '\r' :: '\n' :: rest => '\n' :: unifyNewlines rest
  | '\r' :: rest => '\n' :: unifyNewlines rest
  | char :: rest => char :: unifyNewlines rest
  | [] => []

def byteOrderMark : Char := Char.ofNat 0xFEFF

def dropByteOrderMark : List Char → List Char
  | [] => []
  | char :: rest => if char = byteOrderMark then rest else char :: rest

def isNewline (char : Char) : Bool := char = '\n'

/-- Any white space, the separators among the controls included. -/
def isSpace (char : Char) : Bool :=
  Text.isPlainSpace char || Text.isWideSpace char || (0x1C ≤ char.toNat && char.toNat ≤ 0x1F)

/-- White space within a line. -/
def isBlank (char : Char) : Bool := isSpace char && !isNewline char

def skipBlanks (text : List Char) : List Char := text.dropWhile isBlank

/-- Skips the word in front of an assignment. -/
def skipExport (text : List Char) : List Char :=
  match text with
  | 'e' :: 'x' :: 'p' :: 'o' :: 'r' :: 't' :: char :: rest =>
      if isBlank char then skipBlanks rest else text
  | _ => text

def skipLine (text : List Char) : List Char := (text.dropWhile fun char => !isNewline char).drop 1

/-- Skips a comment, if one follows. -/
def skipComment (text : List Char) : List Char :=
  match skipBlanks text with
  | '#' :: rest => rest.dropWhile fun char => !isNewline char
  | _ => text

/-- Skips to the next line, when nothing else stands on this one. -/
def endLine? (text : List Char) : Option (List Char) :=
  match skipBlanks text with
  | [] => some []
  | char :: rest => if isNewline char then some rest else none

/-- A name, and the rest; a comment has none. -/
def readName? : List Char → Option (Option String × List Char)
  | '#' :: rest => some (none, '#' :: rest)
  | char :: rest =>
      if char = Text.singleQuote then
        let name := rest.takeWhile (· ≠ Text.singleQuote)
        match rest.dropWhile (· ≠ Text.singleQuote) with
        | _ :: after => if name.isEmpty then none else some (some (String.ofList name), after)
        | [] => none
      else
        let isName := fun char => !(char = '=' || char = '#' || isSpace char)
        let name := (char :: rest).takeWhile isName
        if name.isEmpty then none
        else some (some (String.ofList name), (char :: rest).dropWhile isName)
  | [] => none

/-- The text up to a closing quote; a backslash takes the character behind it along. -/
def readQuoted? (quote : Char) : List Char → Option (List Char × List Char)
  | [] => none
  | [char] => if char = quote then some ([], []) else none
  | char :: next :: rest =>
      if char = quote then some ([], next :: rest)
      else if char = Text.backslash then
        (readQuoted? quote rest).map fun (content, left) => (char :: next :: content, left)
      else (readQuoted? quote (next :: rest)).map fun (content, left) => (char :: content, left)

/-- What an escape stands for in double quotes. -/
def doubleEscape? (char : Char) : Option Char :=
  if char = Text.backslash || char = Text.singleQuote || char = Text.doubleQuote then some char
  else
    match char with
    | 'a' => some (Char.ofNat 7)
    | 'b' => some (Char.ofNat 8)
    | 'f' => some (Char.ofNat 12)
    | 'n' => some '\n'
    | 'r' => some '\r'
    | 't' => some '\t'
    | 'v' => some (Char.ofNat 11)
    | _ => none

def singleEscape? (char : Char) : Option Char :=
  if char = Text.backslash || char = Text.singleQuote then some char else none

def unescape (escape? : Char → Option Char) : List Char → List Char
  | [] => []
  | [char] => [char]
  | char :: next :: rest =>
      if char = Text.backslash then
        match escape? next with
        | some meant => meant :: unescape escape? rest
        | none => char :: unescape escape? (next :: rest)
      else char :: unescape escape? (next :: rest)

/-- Cuts a comment off that white space sets apart. -/
def cutComment : List Char → List Char
  | [] => []
  | char :: rest =>
      if isSpace char then
        match rest.dropWhile isSpace with
        | '#' :: _ => []
        | _ => char :: cutComment rest
      else char :: cutComment rest

def trimEnd (text : List Char) : List Char := (text.reverse.dropWhile isSpace).reverse

def readValue? : List Char → Option (String × List Char)
  | [] => some ("", [])
  | char :: rest =>
      if char = Text.singleQuote then
        (readQuoted? char rest).map fun (content, left) =>
          (String.ofList (unescape singleEscape? content), left)
      else if char = Text.doubleQuote then
        (readQuoted? char rest).map fun (content, left) =>
          (String.ofList (unescape doubleEscape? content), left)
      else
        let line := (char :: rest).takeWhile fun char => !isNewline char
        let left := (char :: rest).dropWhile fun char => !isNewline char
        some (String.ofList (trimEnd (cutComment line)), left)

/-- The value behind an equals sign. A number sign that blanks set apart begins a comment. -/
def readAssigned? (text : List Char) : Option (String × List Char) :=
  match text, skipBlanks text with
  | char :: _, '#' :: rest => if isBlank char then some ("", '#' :: rest) else readValue? text
  | _, value => readValue? value

/-- What a reader gives, or else the place where it stopped. -/
def orStop {α : Type} (text : List Char) : Option α → Except (List Char) α
  | some found => .ok found
  | none => .error text

/-- One line: the name with its value, if it has one, and the lines that follow; or else the place
from where the line is skipped. -/
def readBinding (text : List Char) :
    Except (List Char) (Option (String × Option String) × List Char) := do
  let text := skipExport text
  let (name, rest) ← orStop text (readName? text)
  let (value, rest) ← match skipBlanks rest with
    | '=' :: rest => do
        let (value, rest) ← orStop (skipBlanks rest) (readAssigned? rest)
        pure (some value, rest)
    | rest => pure (none, rest)
  let rest ← orStop rest (endLine? (skipComment rest))
  pure (name.map fun name => (name, value), rest)

/-- The assignments of a file, line by line; every turn takes up at least one character. -/
def readWithin : Nat → List Char → List (String × Option String)
  | 0, _ => []
  | fuel + 1, text =>
      match text.dropWhile isSpace with
      | [] => []
      | text =>
          match readBinding text with
          | .ok (some binding, rest) => binding :: readWithin fuel rest
          | .ok (none, rest) => readWithin fuel rest
          | .error rest => readWithin fuel (skipLine rest)

/-- The name and the fallback of a reference, after its dollar sign and brace. -/
def readReference? (text : List Char) : Option (String × String × List Char) :=
  let name := text.takeWhile fun char => char ≠ '\x7d' && char ≠ ':'
  match text.dropWhile fun char => char ≠ '\x7d' && char ≠ ':' with
  | '\x7d' :: rest => some (String.ofList name, "", rest)
  | ':' :: '-' :: rest =>
      match rest.dropWhile (· ≠ '\x7d') with
      | '\x7d' :: after =>
          some (String.ofList name, String.ofList (rest.takeWhile (· ≠ '\x7d')), after)
      | _ => none
  | _ => none

/-- Puts values in the place of references. -/
def expandWithin (find? : String → Option Text) : Nat → List Char → Text
  | 0, text => .whole (String.ofList text)
  | _, [] => .whole ""
  | fuel + 1, '$' :: '\x7b' :: rest =>
      match readReference? rest with
      | some (name, fallback, after) =>
          (find? name).getD fallback ++ expandWithin find? fuel after
      | none => "$" ++ expandWithin find? fuel ('\x7b' :: rest)
  | fuel + 1, char :: rest => .whole (String.singleton char) ++ expandWithin find? fuel rest

def expand (find? : String → Option Text) (text : String) : Text :=
  expandWithin find? text.length text.toList

/-- The latest value of a name; a name without a value has the empty one. -/
def latest? (bindings : List (String × Option Text)) (name : String) : Option Text :=
  (bindings.reverse.find? fun binding => binding.1 = name).map fun binding => binding.2.getD ""

/-- Resolves the references of each value by the assignments before it and the environment. -/
def resolve (environment : List (String × Text)) (done : List (String × Option Text)) :
    List (String × Option String) → List (String × Option Text)
  | [] => done
  | (name, value) :: rest =>
      let find? := fun wanted =>
        (latest? done wanted).or
          ((environment.find? fun entry => entry.1 = wanted).map Prod.snd)
      resolve environment (done ++ [(name, value.map (expand find?))]) rest

/-- Keeps the last value of each name, at the place of its first one. -/
def settle (bindings : List (String × Option Text)) : List (String × Option Text) :=
  bindings.foldl (fun kept (name, value) =>
    if kept.any (·.1 = name) then
      kept.map fun entry => if entry.1 = name then (name, value) else entry
    else kept ++ [(name, value)]) []

/-- The names that a file assigns values to. -/
def read (environment : List (String × Text)) (text : String) : List (String × Text) :=
  let lines := unifyNewlines (dropByteOrderMark text.toList)
  (settle (resolve environment [] (readWithin (lines.length + 1) lines))).filterMap
    fun (name, value) => value.map fun value => (name, value)

end GuardAlgebra.Dotenv
