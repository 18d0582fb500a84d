import GuardAlgebra.Json.Writer
import GuardAlgebra.Proofs.Numerals
import GuardAlgebra.Proofs.Sequence

namespace GuardAlgebra.Json

/-! # Reading what was written

A reader of JSON takes a text character by character. It knows which arrays and objects it is inside of,
and what may come next in the innermost one; a word or a quoted text that is under way is taken in when it
ends. Whatever value was written, where a value may come, the reader takes its text for that value and is
left with everything around it as it was.
-/

/-- What a JSON text says. -/
inductive Data where
  | null
  | bool (truth : Bool)
  | number (value : Rat)
  | text (text : String)
  | array (items : List Data)
  /-- Members in the order they are written. -/
  | object (members : List (String × Data))

def isBlank (char : Char) : Bool := [' ', '\t', '\n', '\r'].contains char

def isMark (char : Char) : Bool := ['[', ']', '\x7b', '\x7d', ':', ','].contains char

/-- What words are made of: all that neither parts words nor opens a text. -/
def isLetter (char : Char) : Bool := !(isBlank char || isMark char || char = Text.doubleQuote)

section Numbers

/-- The digits in front, and what comes behind. -/
def splitDigits (text : List Char) : List Char × List Char :=
  (text.takeWhile Char.isDigit, text.dropWhile Char.isDigit)

def natural (digits : List Char) : Nat :=
  Nat.ofDigits 10 (digits.map fun char => char.toNat - '0'.toNat).reverse

/-- The digits of a fraction, if there is one, and what comes behind. -/
def fraction? : List Char → Option (List Char × List Char)
  | '.' :: rest =>
      let (digits, rest) := splitDigits rest
      if digits.isEmpty then none else some (digits, rest)
  | rest => some ([], rest)

def exponent? : List Char → Option Int
  | [] => some 0
  | mark :: rest =>
      let (negative, digits) := match rest with
        | '-' :: digits => (true, digits)
        | '+' :: digits => (false, digits)
        | digits => (false, digits)
      if ['e', 'E'].contains mark && !digits.isEmpty && digits.all Char.isDigit then
        some (if negative then -(natural digits : Int) else natural digits)
      else none

/-- The digits of a number as an integer, and by how many places it is to be shifted. No zeros lead the
digits. -/
def unsigned? (word : List Char) : Option (Int × Int) := do
  let (whole, rest) := splitDigits word
  if whole.isEmpty || whole.head? = some '0' && whole ≠ ['0'] then none
  else
    let (fraction, rest) ← fraction? rest
    let exponent ← exponent? rest
    some (natural (whole ++ fraction), exponent - fraction.length)

def shifted (number places : Int) : Rat :=
  mkRat (number * Nat.pow 10 places.toNat) (Nat.pow 10 (-places).toNat)

def number? : List Char → Option Rat
  | '-' :: rest => (unsigned? rest).map fun (digits, places) => shifted (-digits) places
  | word => (unsigned? word).map fun (digits, places) => shifted digits places

end Numbers

def word? (word : List Char) : Option Data :=
  match number? word with
  | some number => some (.number number)
  | none =>
      if word = "null".toList then some .null
      else if word = "true".toList then some (.bool true)
      else if word = "false".toList then some (.bool false)
      else none

section Characters

/-- What a character behind a backslash stands for. -/
def unescaped? (char : Char) : Option Char :=
  if [Text.doubleQuote, Text.backslash, '/'].contains char then some char
  else if char = 'n' then some '\n'
  else if char = 'r' then some '\r'
  else if char = 't' then some '\t'
  else if char = 'b' then some (Char.ofNat 8)
  else if char = 'f' then some (Char.ofNat 12)
  else none

def hexValue? (char : Char) : Option Nat :=
  if '0' ≤ char ∧ char ≤ '9' then some (char.toNat - '0'.toNat)
  else if 'a' ≤ char ∧ char ≤ 'f' then some (char.toNat - 'a'.toNat + 10)
  else if 'A' ≤ char ∧ char ≤ 'F' then some (char.toNat - 'A'.toNat + 10)
  else none

def hexNumber? (digits : List Char) : Option Nat :=
  (digits.mapM hexValue?).map fun values => Nat.ofDigits 16 values.reverse

end Characters

/-- What is under way between two marks. A text keeps its characters, the last one first, and the first
half of a character that is written in two. -/
inductive Scan where
  | between
  | word (letters : List Char)
  | text (chars : List Char) (half : Option Nat)
  | escape (chars : List Char) (half : Option Nat)
  | code (chars : List Char) (half : Option Nat) (digits : List Char)

/-- An array or an object that is not at its end, with what came before, the last one first. -/
inductive Frame where
  | items (before : List Data)
  | members (before : List (String × Data)) (name : String)

/-- What may come next. -/
inductive Goal where
  | value
  /-- The first item of an array, or its end. -/
  | item
  | moreItems (items : List Data)
  /-- The name of a member, or else the end of the object if it is the first one. -/
  | name (members : List (String × Data))
  | colon (members : List (String × Data)) (name : String)
  | moreMembers (members : List (String × Data))
  | done (data : Data)

/-- The arrays and objects that were left for one inside of them, innermost first. -/
structure Stack where
  frames : List Frame
  goal : Goal

namespace Stack

/-- Goes on behind a value. -/
def behind (data : Data) : List Frame → Stack
  | [] => ⟨[], .done data⟩
  | .items before :: frames => ⟨frames, .moreItems (data :: before)⟩
  | .members before name :: frames => ⟨frames, .moreMembers ((name, data) :: before)⟩

/-- What a value is inside of that comes next, if one may come. -/
def around? (stack : Stack) : Option (List Frame) :=
  match stack.goal with
  | .value => some stack.frames
  | .item => some (.items [] :: stack.frames)
  | _ => none

def value? (stack : Stack) (data : Data) : Option Stack := stack.around?.map (behind data)

def text? (stack : Stack) (text : String) : Option Stack :=
  match stack.goal with
  | .name members => some ⟨stack.frames, .colon members text⟩
  | _ => stack.value? (.text text)

def mark? (stack : Stack) (mark : Char) : Option Stack :=
  match mark, stack.goal with
  | '[', _ => stack.around?.map (⟨·, .item⟩)
  | ']', .item => some (behind (.array []) stack.frames)
  | ']', .moreItems items => some (behind (.array items.reverse) stack.frames)
  | '\x7b', _ => stack.around?.map (⟨·, .name []⟩)
  | '\x7d', .name [] => some (behind (.object []) stack.frames)
  | '\x7d', .moreMembers members => some (behind (.object members.reverse) stack.frames)
  | ':', .colon members name => some ⟨.members members name :: stack.frames, .value⟩
  | ',', .moreItems items => some ⟨.items items :: stack.frames, .value⟩
  | ',', .moreMembers members => some ⟨stack.frames, .name members⟩
  | _, _ => none

end Stack

structure Reader where
  scan : Scan
  stack : Stack

namespace Reader

def start : Reader := ⟨.between, [], .value⟩

/-- Takes in the word that is under way, if one is. No text may be under way. -/
def settle (reader : Reader) : Option Stack :=
  match reader.scan with
  | .between => some reader.stack
  | .word letters => (word? letters.reverse).bind reader.stack.value?
  | .text .. | .escape .. | .code .. => none

/-- Takes in the character with this code, of which the first half may have come before. -/
def unit? (chars : List Char) : Option Nat → Nat → Option Scan
  | none, code =>
      if 0xD800 ≤ code ∧ code < 0xDC00 then some (.text chars (some code))
      else if 0xDC00 ≤ code ∧ code < 0xE000 then none
      else some (.text (Char.ofNat code :: chars) none)
  | some half, code =>
      if 0xDC00 ≤ code ∧ code < 0xE000 then
        some (.text (Char.ofNat (0x10000 + (half - 0xD800) * 0x400 + (code - 0xDC00)) :: chars) none)
      else none

def letter (scan : Scan) (char : Char) : Scan :=
  match scan with
  | .word letters => .word (char :: letters)
  | _ => .word [char]

def step (reader : Reader) (char : Char) : Option Reader :=
  match reader.scan with
  | .text chars none =>
      if char = Text.doubleQuote then
        (reader.stack.text? (String.ofList chars.reverse)).map (⟨.between, ·⟩)
      else if char = Text.backslash then some ⟨.escape chars none, reader.stack⟩
      else if char.toNat < 32 then none
      else some ⟨.text (char :: chars) none, reader.stack⟩
  | .text chars half =>
      if char = Text.backslash then some ⟨.escape chars half, reader.stack⟩ else none
  | .escape chars half =>
      if char = 'u' then some ⟨.code chars half [], reader.stack⟩
      else if half.isSome then none
      else (unescaped? char).map fun char => ⟨.text (char :: chars) none, reader.stack⟩
  | .code chars half digits =>
      if digits.length < 3 then some ⟨.code chars half (digits ++ [char]), reader.stack⟩
      else do
        let code ← hexNumber? (digits ++ [char])
        let scan ← unit? chars half code
        some ⟨scan, reader.stack⟩
  | .between | .word _ =>
      if isLetter char then some ⟨letter reader.scan char, reader.stack⟩
      else do
        let stack ← reader.settle
        if isBlank char then some ⟨.between, stack⟩
        else if char = Text.doubleQuote then some ⟨.text [] none, stack⟩
        else (stack.mark? char).map (⟨.between, ·⟩)

end Reader

def read (text : String) : Option Data := do
  let reader ← text.toList.foldlM Reader.step .start
  let stack ← reader.settle
  match stack.goal with
  | .done data => some data
  | _ => none

section Marks

variable {char : Char}

theorem parts_of_isMark (isMark : isMark char = true) :
    isLetter char = false ∧ isBlank char = false ∧ char ≠ Text.doubleQuote := by
  have marks : (['[', ']', '\x7b', '\x7d', ':', ','].all fun char =>
      isLetter char = false ∧ isBlank char = false ∧ char ≠ Text.doubleQuote) = true := by decide
  exact of_decide_eq_true (List.all_eq_true.mp marks char (List.contains_iff_mem.mp isMark))

end Marks

/-- A text without halves of characters as it is written. -/
def quoted (text : String) : List Char :=
  Text.doubleQuote :: (text.toList.flatMap escaped ++ [Text.doubleQuote])

theorem string_whole (text : String) : string text = .whole (String.ofList (quoted text)) := by
  simp only [string, quotation, Text.expand, Text.whole_append_whole]
  congr 1
  apply String.toList_inj.mp
  simp [quoted]

namespace Reader

/-- Having read the text, the reader stands there, once it took in the last word. -/
def Reaches (reader : Reader) (text : List Char) (stack : Stack) : Prop :=
  ∃ last, text.foldlM step reader = some last ∧ last.settle = some stack

variable {reader other : Reader} {stack next last : Stack} {char : Char} {text after : List Char}

theorem reaches_nil (settles : reader.settle = some stack) : reader.Reaches [] stack :=
  ⟨reader, rfl, settles⟩

theorem Reaches.cons (other : Reader) (steps : reader.step char = some other)
    (reaches : other.Reaches text stack) :
    reader.Reaches (char :: text) stack := by
  obtain ⟨last, reads, settles⟩ := reaches
  refine ⟨last, ?_, settles⟩
  rw [List.foldlM_cons, steps]
  exact reads

theorem Reaches.run {before : List Char} (runs : before.foldlM step reader = some other)
    (reaches : other.Reaches text stack) : reader.Reaches (before ++ text) stack := by
  obtain ⟨last, reads, settles⟩ := reaches
  refine ⟨last, ?_, settles⟩
  rw [List.foldlM_append, runs]
  exact reads

/-- A character that is no letter ends the word before it. -/
theorem step_settled (settles : reader.settle = some stack) (parts : isLetter char = false) :
    reader.step char = step ⟨.between, stack⟩ char := by
  obtain ⟨scan, before⟩ := reader
  cases scan with
  | between =>
      cases settles
      rfl
  | word letters =>
      simp only [step, parts, settles]
      rfl
  | text | escape | code => exact nomatch settles

/-- What was read with a word at its end is gone on from as if the word was taken in. -/
theorem Reaches.append (reaches : reader.Reaches text stack)
    (parts : ∀ char ∈ after.head?, isLetter char = false)
    (goesOn : (Reader.mk .between stack).Reaches after last) :
    reader.Reaches (text ++ after) last := by
  obtain ⟨middle, reads, settles⟩ := reaches
  refine Reaches.run reads ?_
  cases after with
  | nil =>
      obtain ⟨other, rest, settled⟩ := goesOn
      cases rest
      cases settled
      exact reaches_nil settles
  | cons char after =>
      obtain ⟨other, rest, settled⟩ := goesOn
      refine ⟨other, ?_, settled⟩
      rw [List.foldlM_cons, step_settled settles (parts char rfl), ← List.foldlM_cons]
      exact rest

theorem Reaches.mark (next : Stack) (isMark : isMark char = true) (moves : stack.mark? char = some next)
    (goesOn : (Reader.mk .between next).Reaches text last) :
    (Reader.mk .between stack).Reaches (char :: text) last := by
  obtain ⟨parts, filled, unquoted⟩ := parts_of_isMark isMark
  refine Reaches.cons _ ?_ goesOn
  simp [step, settle, parts, filled, unquoted, moves]

section Texts

theorem step_plain {chars : List Char} (unquoted : char ≠ Text.doubleQuote)
    (bare : char ≠ Text.backslash) (visible : ¬char.toNat < 32) :
    step ⟨.text chars none, stack⟩ char = some ⟨.text (char :: chars) none, stack⟩ := by
  simp only [step, if_neg unquoted, if_neg bare, if_neg visible]

theorem run_escape {chars : List Char} {letter : Char} (short : unescaped? letter = some char)
    (single : letter ≠ 'u') :
    [Text.backslash, letter].foldlM step ⟨.text chars none, stack⟩ =
      some ⟨.text (char :: chars) none, stack⟩ := by
  change (step ⟨.escape chars none, stack⟩ letter >>= fun reader => some reader) = _
  simp [step, single, short]

theorem hexNumber?_hex {code : Nat} (control : code < 32) :
    hexNumber? (Text.hex 4 code) = some code := by
  have all : ∀ code < 32, hexNumber? (Text.hex 4 code) = some code := by decide
  exact all code control

theorem run_code {chars : List Char} {code : Nat} (control : code < 32) :
    (Text.backslash :: 'u' :: Text.hex 4 code).foldlM step ⟨.text chars none, stack⟩ =
      some ⟨.text (Char.ofNat code :: chars) none, stack⟩ := by
  have number := hexNumber?_hex control
  obtain ⟨first, second, third, fourth, digits⟩ :
      ∃ first second third fourth, Text.hex 4 code = [first, second, third, fourth] :=
    ⟨_, _, _, _, rfl⟩
  rw [digits] at number ⊢
  change (step ⟨.code chars none [first, second, third], stack⟩ fourth >>= fun reader =>
    some reader) = _
  have low : ¬0xD800 ≤ code := by omega
  have small : ¬0xDC00 ≤ code := by omega
  simp [step, number, unit?, low, small]

/-- What stands for a character is read as that character. -/
theorem run_escaped (char : Char) (chars : List Char) :
    (escaped char).foldlM step ⟨.text chars none, stack⟩ =
      some ⟨.text (char :: chars) none, stack⟩ := by
  have same : Char.ofNat char.toNat = char := Char.ofNat_toNat char
  unfold escaped
  -- One case for each escape, in the order in which the writer tries them.
  split
  next quote => exact run_escape (by rw [quote]; rfl) (by decide)
  next unquoted =>
  split
  next slash => exact run_escape (by rw [slash]; rfl) (by decide)
  next bare =>
  split
  next line => exact run_escape (by rw [line]; rfl) (by decide)
  split
  next feed => exact run_escape (by rw [feed]; rfl) (by decide)
  split
  next tab => exact run_escape (by rw [tab]; rfl) (by decide)
  split
  next back => exact run_escape (by rw [← same, back]; rfl) (by decide)
  split
  next page => exact run_escape (by rw [← same, page]; rfl) (by decide)
  split
  next control => exact (run_code control).trans (by rw [same])
  next visible =>
    change (step _ char >>= fun reader => some reader) = _
    rw [step_plain unquoted bare visible]
    rfl

theorem run_text (text chars : List Char) :
    (text.flatMap escaped).foldlM step ⟨.text chars none, stack⟩ =
      some ⟨.text (text.reverse ++ chars) none, stack⟩ := by
  induction text generalizing chars with
  | nil => rfl
  | cons char text ih =>
      rw [List.flatMap_cons, List.foldlM_append, run_escaped]
      change (text.flatMap escaped).foldlM step _ = _
      rw [ih, List.reverse_cons, List.append_assoc]
      rfl

theorem reaches_quoted {text : String} (takes : stack.text? text = some next) :
    (Reader.mk .between stack).Reaches (quoted text) next := by
  refine Reaches.cons ⟨.text [] none, stack⟩ rfl (Reaches.run (run_text _ _) ?_)
  refine Reaches.cons ⟨.between, next⟩ ?_ (reaches_nil rfl)
  simp [step, takes]

end Texts

section Words

theorem run_letters {letters before : List Char} (made : ∀ char ∈ letters, isLetter char = true) :
    letters.foldlM step ⟨.word before, stack⟩ = some ⟨.word (letters.reverse ++ before), stack⟩ := by
  induction letters generalizing before with
  | nil => rfl
  | cons char letters ih =>
      rw [List.forall_mem_cons] at made
      have steps : step ⟨.word before, stack⟩ char = some ⟨.word (char :: before), stack⟩ := by
        simp only [step, made.1, if_true]
        rfl
      rw [List.foldlM_cons, steps]
      change letters.foldlM step _ = _
      rw [ih made.2, List.reverse_cons, List.append_assoc]
      rfl

theorem reaches_word {data : Data} (made : ∀ char ∈ text, isLetter char = true)
    (known : word? text = some data) (takes : stack.value? data = some next) :
    (Reader.mk .between stack).Reaches text next := by
  cases text with
  | nil => exact nomatch known
  | cons char letters =>
      rw [List.forall_mem_cons] at made
      have steps : step ⟨.between, stack⟩ char = some ⟨.word [char], stack⟩ := by
        simp only [step, made.1, if_true]
        rfl
      refine Reaches.cons _ steps ⟨_, run_letters made.2, ?_⟩
      simp only [settle, List.reverse_append, List.reverse_reverse, List.reverse_cons,
        List.reverse_nil, List.nil_append, List.singleton_append, known]
      exact takes

end Words

/-- Where a value may come, the text is taken for it, and what is around stays as it was. -/
def Reads (text : List Char) (data : Data) : Prop :=
  ∀ stack frames, Stack.around? stack = some frames →
    (Reader.mk .between stack).Reaches text (.behind data frames)

theorem reads_quoted (text : String) : Reads (quoted text) (.text text) := by
  intro stack frames inside
  apply reaches_quoted
  obtain ⟨open?, goal⟩ := stack
  cases goal with
  | value | item => simp_all [Stack.text?, Stack.value?]
  | _ => exact nomatch inside

theorem reads_word {data : Data} (made : text.all isLetter = true)
    (known : word? text = some data) : Reads text data := by
  intro stack frames inside
  refine reaches_word (List.all_eq_true.mp made) known ?_
  rw [Stack.value?, inside]
  rfl

section Arrays

theorem toList_separated (text : String) (texts : List String) :
    (",".intercalate (text :: texts)).toList =
      text.toList ++ texts.flatMap fun text => ',' :: text.toList := by
  induction texts generalizing text with
  | nil => simp
  | cons other texts ih =>
      rw [String.intercalate_cons_cons]
      simp [ih]

theorem toList_enclosed (opening closing : String) (text : String) (texts : List String) :
    (opening ++ ",".intercalate (text :: texts) ++ closing).toList =
      opening.toList ++ (text.toList ++
        ((texts.flatMap fun text => ',' :: text.toList) ++ closing.toList)) := by
  rw [String.toList_append, String.toList_append, toList_separated, List.append_assoc,
    List.append_assoc]

theorem parts_of_separated {mark : Char} (isMark : isMark mark = true) (texts : List String) :
    ∀ char ∈ ((texts.flatMap fun text => ',' :: text.toList) ++ [mark]).head?,
      isLetter char = false := by
  cases texts with
  | nil => simp [(parts_of_isMark isMark).1]
  | cons text texts =>
      rintro char ⟨⟩
      rfl

variable {texts : List String}

theorem array_whole (texts : List String) :
    array (texts.map .whole) = .whole ("[" ++ ",".intercalate texts ++ "]") := by
  rw [array, Text.join_whole]
  rfl

theorem reaches_items {items : List Data} {frames : List Frame}
    (reads : List.Forall₂ (fun text data => Reads text.toList data) texts items)
    (before : List Data) :
    (Reader.mk .between ⟨frames, .moreItems before⟩).Reaches
      ((texts.flatMap fun text => ',' :: text.toList) ++ [']'])
      (.behind (.array (before.reverse ++ items)) frames) := by
  induction reads generalizing before with
  | nil =>
      rw [List.append_nil]
      exact Reaches.mark _ rfl rfl (reaches_nil rfl)
  | @cons text item texts items first rest ih =>
      rw [List.flatMap_cons, List.append_assoc, List.cons_append]
      refine Reaches.mark ⟨.items before :: frames, .value⟩ rfl rfl ?_
      refine (first _ _ rfl).append (parts_of_separated rfl texts) ?_
      rw [show before.reverse ++ item :: items = (item :: before).reverse ++ items by simp]
      exact ih (item :: before)

theorem reads_array {items : List Data}
    (reads : List.Forall₂ (fun text data => Reads text.toList data) texts items) :
    Reads ("[" ++ ",".intercalate texts ++ "]").toList (.array items) := by
  intro stack frames inside
  have opens : stack.mark? '[' = some ⟨frames, .item⟩ := by
    simp [Stack.mark?, inside]
  cases reads with
  | nil => exact Reaches.mark _ rfl opens (Reaches.mark _ rfl rfl (reaches_nil rfl))
  | cons first rest =>
      rw [toList_enclosed]
      refine Reaches.mark _ rfl opens ?_
      exact (first _ (.items [] :: frames) rfl).append (parts_of_separated rfl _)
        (reaches_items rest _)

end Arrays

section Objects

/-- Where the name of a member may come, the text is taken for this member. -/
def ReadsMember (text : List Char) (entry : String × Data) : Prop :=
  ∀ frames before, (Reader.mk .between ⟨frames, .name before⟩).Reaches text
    ⟨frames, .moreMembers (entry :: before)⟩

theorem member_whole (name value : String) :
    member name value = .whole (String.ofList (quoted name ++ ':' :: value.toList)) := by
  rw [member, string_whole]
  simp only [Text.whole_append_whole]
  congr 1
  apply String.toList_inj.mp
  simp

theorem readsMember_quoted {name : String} {value : List Char} {data : Data}
    (reads : Reads value data) : ReadsMember (quoted name ++ ':' :: value) (name, data) := by
  intro frames before
  have named : (Reader.mk .between ⟨frames, .name before⟩).Reaches (quoted name)
      ⟨frames, .colon before name⟩ := reaches_quoted rfl
  have colon : ∀ char ∈ (':' :: value).head?, isLetter char = false := by
    rintro char ⟨⟩
    rfl
  refine named.append colon ?_
  exact Reaches.mark ⟨.members before name :: frames, .value⟩ rfl rfl
    (reads _ (.members before name :: frames) rfl)

variable {texts : List String} {members : List (String × Data)}

theorem object_whole (texts : List String) :
    object (texts.map .whole) = .whole ("\x7b" ++ ",".intercalate texts ++ "\x7d") := by
  rw [object, Text.join_whole]
  rfl

theorem reaches_members {frames : List Frame}
    (reads : List.Forall₂ (fun text entry => ReadsMember text.toList entry) texts members)
    (before : List (String × Data)) :
    (Reader.mk .between ⟨frames, .moreMembers before⟩).Reaches
      ((texts.flatMap fun text => ',' :: text.toList) ++ ['\x7d'])
      (.behind (.object (before.reverse ++ members)) frames) := by
  induction reads generalizing before with
  | nil =>
      rw [List.append_nil]
      exact Reaches.mark _ rfl rfl (reaches_nil rfl)
  | @cons text entry texts members first rest ih =>
      rw [List.flatMap_cons, List.append_assoc, List.cons_append]
      refine Reaches.mark ⟨frames, .name before⟩ rfl rfl ?_
      refine (first frames before).append (parts_of_separated rfl texts) ?_
      rw [show before.reverse ++ entry :: members = (entry :: before).reverse ++ members by simp]
      exact ih (entry :: before)

theorem reads_object
    (reads : List.Forall₂ (fun text entry => ReadsMember text.toList entry) texts members) :
    Reads ("\x7b" ++ ",".intercalate texts ++ "\x7d").toList (.object members) := by
  intro stack frames inside
  have opens : stack.mark? '\x7b' = some ⟨frames, .name []⟩ := by
    simp [Stack.mark?, inside]
  cases reads with
  | nil => exact Reaches.mark _ rfl opens (Reaches.mark _ rfl rfl (reaches_nil rfl))
  | cons first rest =>
      rw [toList_enclosed]
      refine Reaches.mark _ rfl opens ?_
      exact (first frames []).append (parts_of_separated rfl _)
        (reaches_members rest _)

end Objects

end Reader

/-- A text without halves of characters that is good as it stands. -/
def Intact (good : List Char → Prop) (text : Text) : Prop :=
  ∃ body : String, text = .whole body ∧ good body.toList

section Intact

variable {texts : List Text} {items : List Data} {members : List (String × Data)}

theorem exists_bodies {α : Type} {good : List Char → α → Prop} {others : List α}
    (each : List.Forall₂ (fun text other => Intact (good · other) text) texts others) :
    ∃ bodies : List String, texts = bodies.map .whole ∧
      List.Forall₂ (fun body other => good body.toList other) bodies others := by
  induction each with
  | nil => exact ⟨[], rfl, .nil⟩
  | cons first rest ih =>
      obtain ⟨body, rfl, isGood⟩ := first
      obtain ⟨bodies, rfl, goods⟩ := ih
      exact ⟨body :: bodies, rfl, .cons isGood goods⟩

theorem intact_string (text : String) : Intact (Reader.Reads · (.text text)) (string text) := by
  refine ⟨_, string_whole text, ?_⟩
  rw [String.toList_ofList]
  exact Reader.reads_quoted text

theorem intact_array
    (each : List.Forall₂ (fun text item => Intact (Reader.Reads · item) text) texts items) :
    Intact (Reader.Reads · (.array items)) (array texts) := by
  obtain ⟨bodies, rfl, reads⟩ := exists_bodies each
  exact ⟨_, Reader.array_whole bodies, Reader.reads_array reads⟩

theorem intact_member {name : String} {value : Text} {data : Data}
    (reads : Intact (Reader.Reads · data) value) :
    Intact (Reader.ReadsMember · (name, data)) (member name value) := by
  obtain ⟨body, rfl, reads⟩ := reads
  refine ⟨_, Reader.member_whole name body, ?_⟩
  rw [String.toList_ofList]
  exact Reader.readsMember_quoted reads

theorem intact_object
    (each : List.Forall₂ (fun text entry => Intact (Reader.ReadsMember · entry) text) texts members) :
    Intact (Reader.Reads · (.object members)) (object texts) := by
  obtain ⟨bodies, rfl, reads⟩ := exists_bodies each
  exact ⟨_, Reader.object_whole bodies, Reader.reads_object reads⟩

end Intact

section Integers

variable {digits : List Char}

theorem isLetter_of_isDigit {char : Char} (isDigit : char.isDigit = true) :
    isLetter char = true := by
  have bounds : 48 ≤ char.toNat ∧ char.toNat ≤ 57 := by
    simpa [Char.isDigit, UInt32.le_iff_toNat_le] using isDigit
  have apart (other : Char) (outside : other.toNat < 48 ∨ 57 < other.toNat) : char ≠ other := by
    rintro rfl
    omega
  have outside : ([' ', '\t', '\n', '\r', '[', ']', '\x7b', '\x7d', ':', ',',
      Text.doubleQuote].all fun mark => mark.toNat < 48 ∨ 57 < mark.toNat) = true := by decide
  have marks : ∀ mark ∈ [' ', '\t', '\n', '\r', '[', ']', '\x7b', '\x7d', ':', ',',
      Text.doubleQuote], char ≠ mark := fun mark member =>
    apart mark (of_decide_eq_true (List.all_eq_true.mp outside mark member))
  simp only [List.forall_mem_cons] at marks
  simp [isLetter, isBlank, isMark, marks]

theorem splitDigits_toDigits (magnitude : Nat) :
    splitDigits (Nat.toDigits 10 magnitude) = (Nat.toDigits 10 magnitude, []) := by
  rw [splitDigits, List.takeWhile_eq_self_iff.mpr (Text.toDigits_plain magnitude),
    List.dropWhile_eq_nil_iff.mpr (Text.toDigits_plain magnitude)]

theorem unsigned?_toDigits (magnitude : Nat) :
    unsigned? (Nat.toDigits 10 magnitude) = some ((magnitude : Int), 0) := by
  have wellLed : ((Nat.toDigits 10 magnitude).isEmpty ||
      (Nat.toDigits 10 magnitude).head? = some '0' && Nat.toDigits 10 magnitude ≠ ['0']) = false := by
    have head := @Text.toDigits_of_head? magnitude
    simpa using head
  have value : natural (Nat.toDigits 10 magnitude ++ []) = magnitude := by
    rw [List.append_nil]
    exact Text.ofDigits_toDigits magnitude
  simp only [unsigned?, splitDigits_toDigits, wellLed]
  change some ((natural (Nat.toDigits 10 magnitude ++ []) : Int), (0 : Int)) = _
  rw [value]

theorem shifted_zero (number : Int) : shifted number 0 = Rat.ofInt number := by
  rw [shifted, show number * (Nat.pow 10 (0 : Int).toNat : Nat) = number from Int.mul_one number]
  exact Rat.mkRat_self (Rat.ofInt number)

theorem number?_toString (number : Int) :
    number? (toString number).toList = some (Rat.ofInt number) := by
  rw [Text.toList_toString]
  split
  next negative =>
    have sign : -(number.natAbs : Int) = number := by omega
    simp only [number?, unsigned?_toDigits, Option.map_some, sign, shifted_zero]
  next =>
    have sign : (number.natAbs : Int) = number := by omega
    have unsigned : ∀ rest, Nat.toDigits 10 number.natAbs ≠ '-' :: rest := by
      intro rest same
      exact nomatch Text.toDigits_plain number.natAbs '-' (same ▸ List.mem_cons_self)
    rw [number?.eq_def]
    split
    next rest same => exact absurd same (unsigned rest)
    next => simp only [unsigned?_toDigits, Option.map_some, sign, shifted_zero]

theorem reads_toString (number : Int) :
    Reader.Reads (toString number).toList (.number (Rat.ofInt number)) := by
  have known : word? (toString number).toList = some (.number (Rat.ofInt number)) := by
    rw [word?, number?_toString]
  refine Reader.reads_word (List.all_eq_true.mpr fun char member => ?_) known
  have plain : ∀ char ∈ Nat.toDigits 10 number.natAbs, isLetter char = true :=
    fun char member => isLetter_of_isDigit (Text.toDigits_plain _ char member)
  rw [Text.toList_toString] at member
  split at member
  next => exact (List.mem_cons.mp member).elim (· ▸ rfl) (plain char)
  next => exact plain char member

end Integers

mutual

/-- What a value is in JSON that is made of nothing, truth values, integers and texts without halves of
characters, of lists and of dictionaries with such texts for keys. -/
def dataOf? : Value → Option Data
  | .none => some .null
  | .bool truth => some (.bool truth)
  | .int number => some (.number (Rat.ofInt number))
  | .str text => text.whole?.map .text
  | .list _ items => (dataOfItems? items).map .array
  | .dict _ entries => (dataOfEntries? entries).map .object
  | _ => none
termination_by structural value => value

def dataOfItems? : List Value → Option (List Data)
  | [] => some []
  | item :: items => do
      let first ← dataOf? item
      let rest ← dataOfItems? items
      some (first :: rest)
termination_by structural items => items

def dataOfEntries? : List (Value × Value) → Option (List (String × Data))
  | [] => some []
  | (.str name, value) :: entries => do
      let name ← name.whole?
      let first ← dataOf? value
      let rest ← dataOfEntries? entries
      some ((name, first) :: rest)
  | _ => none
termination_by structural entries => entries

end

/-- A value is written well, and nothing keeps it from being put into words; or both fail for an integer
of too many digits. -/
inductive Fares {α : Type} (good : α → Prop) : Except Fault α → Option Fault → Prop where
  | written {text : α} (isGood : good text) : Fares good (.ok text) none
  | unspelled : Fares good (.error .unspellable) (some .unspellable)

section Writing

variable {α β : Type} {good : α → Prop} {fine : β → Prop} {written : Except Fault α}
  {other : Except Fault β} {obstacle? another? : Option Fault}

theorem Fares.map {view : α → β} (fares : Fares good written obstacle?)
    (keeps : ∀ text, good text → fine (view text)) : Fares fine (written.map view) obstacle? := by
  cases fares with
  | written isGood => exact .written (keeps _ isGood)
  | unspelled => exact .unspelled

theorem Fares.bind {next : α → Except Fault β} (fares : Fares good written obstacle?)
    (goesOn : ∀ text, good text → Fares fine (next text) another?) :
    Fares fine (written >>= next) (obstacle?.or another?) := by
  cases fares with
  | written isGood => exact goesOn _ isGood
  | unspelled => exact .unspelled

theorem fares_integer (number : Int) (silence : Silence) :
    Fares (Intact (Reader.Reads · (.number (Rat.ofInt number))))
      (write (.int number)) ((Value.int number).obstacle? silence) := by
  simp only [write, integer, Value.obstacle?]
  split
  next => exact .written ⟨_, rfl, reads_toString number⟩
  next => exact .unspelled

mutual

/-- What is written of a value is read as the data that the value is. -/
theorem fares_write (silence : Silence) : ∀ (value : Value) (data : Data), dataOf? value = some data →
    Fares (Intact (Reader.Reads · data)) (write value) (value.obstacle? silence)
  | .none, _, rfl => .written ⟨_, rfl, Reader.reads_word (by decide) rfl⟩
  | .bool true, _, rfl => .written ⟨_, rfl, Reader.reads_word (by decide) rfl⟩
  | .bool false, _, rfl => .written ⟨_, rfl, Reader.reads_word (by decide) rfl⟩
  | .int number, _, rfl => fares_integer number silence
  | .str (.whole text), _, rfl => .written (intact_string text)
  | .list site items, data, known => by
      obtain ⟨datas, each, rfl⟩ := Option.map_eq_some_iff.mp known
      exact (fares_writeItems silence items datas each).map fun _ => intact_array
  | .dict site entries, data, known => by
      obtain ⟨members, each, rfl⟩ := Option.map_eq_some_iff.mp known
      exact (fares_writeEntries silence entries members each).map fun _ => intact_object
termination_by structural value => value

theorem fares_writeItems (silence : Silence) : ∀ (items : List Value) (datas : List Data),
    dataOfItems? items = some datas →
      Fares (fun texts => List.Forall₂ (fun text data => Intact (Reader.Reads · data) text) texts datas)
        (writeItems items) (Value.obstacleIn? silence items)
  | [], _, rfl => .written .nil
  | item :: items, datas, known => by
      obtain ⟨first, one, known⟩ := Option.bind_eq_some_iff.mp known
      obtain ⟨rest, others, same⟩ := Option.bind_eq_some_iff.mp known
      cases same
      refine (fares_write silence item first one).bind fun text reads => ?_
      exact (fares_writeItems silence items rest others).map fun texts each => .cons reads each
termination_by structural items => items

theorem fares_writeEntries (silence : Silence) :
    ∀ (entries : List (Value × Value)) (members : List (String × Data)),
      dataOfEntries? entries = some members →
        Fares (fun texts => List.Forall₂ (fun text entry => Intact (Reader.ReadsMember · entry) text)
          texts members) (writeEntries entries) (Value.obstacleInEntries? silence entries)
  | [], _, rfl => .written .nil
  | (.str (.whole name), value) :: entries, members, known => by
      obtain ⟨first, one, known⟩ := Option.bind_eq_some_iff.mp known
      obtain ⟨rest, others, same⟩ := Option.bind_eq_some_iff.mp known
      cases same
      refine (fares_write silence value first one).bind fun text reads => ?_
      exact (fares_writeEntries silence entries rest others).map fun texts each =>
        .cons (intact_member reads) each
termination_by structural entries => entries

end

end Writing

theorem read_of_reads {text : String} {data : Data} (reads : Reader.Reads text.toList data) :
    read text = some data := by
  obtain ⟨last, taken, settles⟩ := reads ⟨[], .value⟩ [] rfl
  change (text.toList.foldlM Reader.step .start >>= fun reader => _) = _
  rw [show text.toList.foldlM Reader.step .start = some last from taken]
  change (last.settle >>= fun stack => _) = _
  rw [settles]
  rfl

example : read " [ -0.5e1, \"\\ud83d\\ude00\" ] " =
    some (.array [.number (Rat.ofInt (-5)), .text "😀"]) := rfl

example : read "[1,]" = none := rfl

end GuardAlgebra.Json
