import GuardAlgebra.Proofs.Numerals
import GuardAlgebra.Settings.Build
import Mathlib.Data.List.Induction

namespace GuardAlgebra.Dotenv

/-! # Plain files

A plain file has blank lines, comments, and lines that assign a value to a name; the value stands for
itself, as it is or between quotes, without escapes and references. Such a file gives each name the last
value that is assigned to it, and names nothing else.
-/

open Text (StopsAt dropWhile_stop dropWhile_stretch takeWhile_stretch)

/-- Blanks and tabs. -/
def Blank (text : List Char) : Prop := ∀ char ∈ text, char = ' ' ∨ char = '\t'

/-- A word of letters, digits and underscores, other than the one that may stand in front of a name. -/
structure Word (name : List Char) : Prop where
  written : name ≠ []
  other : name ≠ "export".toList
  plain : ∀ char ∈ name, char.isAlphanum = true ∨ char = '_'

/-- A character of ASCII that can be seen. -/
def Visible (char : Char) : Prop := 0x21 ≤ char.toNat ∧ char.toNat ≤ 0x7E

instance (char : Char) : Decidable (Visible char) :=
  inferInstanceAs (Decidable (0x21 ≤ char.toNat ∧ char.toNat ≤ 0x7E))

/-- A value that needs no quotes. -/
structure Bare (value : List Char) : Prop where
  inner : ∀ char ∈ value, char ∉ ['\n', '\r', '#', '$']
  first : ∀ char ∈ value.head?, Visible char ∧ char ∉ [Text.singleQuote, Text.doubleQuote]
  last : ∀ char ∈ value.getLast?, Visible char

instance (name : List Char) : Decidable (Word name) :=
  decidable_of_iff
    (name ≠ [] ∧ name ≠ "export".toList ∧ name.all fun char => char.isAlphanum || char = '_')
    ⟨fun checked => ⟨checked.1, checked.2.1, by simpa using checked.2.2⟩,
      fun word => ⟨word.written, word.other, by simpa using word.plain⟩⟩

instance (value : List Char) : Decidable (Bare value) :=
  decidable_of_iff ((value.all fun char => char ∉ ['\n', '\r', '#', '$']) ∧
      (value.head?.toList.all fun char => Visible char ∧ char ∉ [Text.singleQuote, Text.doubleQuote]) ∧
      value.getLast?.toList.all fun char => Visible char)
    ⟨fun checked => ⟨by simpa using checked.1, by simpa using checked.2.1, by simpa using checked.2.2⟩,
      fun bare => ⟨by simpa using bare.inner, by simpa using bare.first, by simpa using bare.last⟩⟩

/-- What may follow on a line: nothing, or a comment. -/
inductive Trail : List Char → Prop where
  | blank {blanks : List Char} (blank : Blank blanks) : Trail blanks
  | comment {blanks text : List Char} (blank : Blank blanks)
      (line : ∀ char ∈ text, char ∉ ['\n', '\r']) : Trail (blanks ++ '#' :: text)

/-- How a value is written. Quotes may stand around any number of lines, and around number signs. -/
inductive Stands : List Char → List Char → Prop where
  | bare {value trail : List Char} (bare : Bare value) (follows : Trail trail)
      (apart : ∀ char ∈ trail.head?, char ≠ '#') : Stands (value ++ trail) value
  | quoted {quote : Char} {value trail : List Char}
      (isQuote : quote ∈ [Text.singleQuote, Text.doubleQuote])
      (inner : ∀ char ∈ value, char ∉ [quote, Text.backslash, '$', '\r']) (follows : Trail trail) :
      Stands (quote :: (value ++ quote :: trail)) value

/-- What may stand in front of a name. -/
inductive Lead : List Char → Prop where
  | nothing : Lead []
  | exported {blanks : List Char} (blank : Blank blanks) (apart : blanks ≠ []) :
      Lead ("export".toList ++ blanks)

/-- What a line says, if it says anything. -/
inductive Says : List Char → Option (String × String) → Prop where
  | nothing {trail : List Char} (follows : Trail trail) : Says trail none
  | assigns {indent lead before after written : List Char} {name value : String}
      (indented : Blank indent) (leads : Lead lead) (word : Word name.toList) (parted : Blank before)
      (spaced : Blank after) (stands : Stands written value.toList) :
      Says (indent ++ (lead ++ (name.toList ++ (before ++ '=' :: (after ++ written)))))
        (some (name, value))

/-- A name and a value with nothing around them. -/
theorem Says.plain (name value : String) (word : Word name.toList) (bare : Bare value.toList) :
    Says (name.toList ++ '=' :: value.toList) (some (name, value)) := by
  have nothing : Blank [] := List.forall_mem_nil _
  have stands : Stands (value.toList ++ []) value.toList :=
    .bare bare (.blank nothing) fun char none => by cases none
  rw [List.append_nil] at stands
  exact .assigns nothing .nothing word nothing nothing stands

/-- What the lines of a file say; the last one need not end. -/
inductive Lists : List Char → List (String × String) → Prop where
  | last {line : List Char} {said : Option (String × String)} (told : Says line said) :
      Lists line said.toList
  | cons {line ending rest : List Char} {said : Option (String × String)}
      {assignments : List (String × String)} (told : Says line said)
      (ends : ending ∈ [['\n'], ['\r', '\n']]) (follows : Lists rest assignments) :
      Lists (line ++ (ending ++ rest)) (said.toList ++ assignments)

/-- A plain file with its assignments in their order. A byte order mark may stand in front. -/
inductive Assigns (file : String) (assignments : List (String × String)) : Prop where
  | unmarked (begins : file.toList.head? ≠ some byteOrderMark)
      (lists : Lists file.toList assignments) : Assigns file assignments
  | marked {text : List Char} (begins : file.toList = byteOrderMark :: text)
      (lists : Lists text assignments) : Assigns file assignments

section Characters

variable {char : Char} {text : List Char}

theorem isSpace_of_visible (visible : Visible char) : isSpace char = false := by
  obtain ⟨low, high⟩ := visible
  simp [isSpace, Text.isPlainSpace, Text.isWideSpace, Text.inRanges, Text.wideSpaces]
  omega

theorem isBlank_of_visible (visible : Visible char) : isBlank char = false := by
  rw [isBlank, isSpace_of_visible visible]
  rfl

theorem visible_of_word (plain : char.isAlphanum = true ∨ char = '_') : Visible char := by
  rcases plain with plain | rfl
  · have ranges : char.isAlphanum = (decide (char.val ≥ 'A'.val ∧ char.val ≤ 'Z'.val) ||
        char.val ≥ 'a'.val && char.val ≤ 'z'.val || char.val ≥ '0'.val && char.val ≤ '9'.val) := rfl
    simp only [ranges, Bool.or_eq_true, Bool.and_eq_true, decide_eq_true_eq, ge_iff_le,
      UInt32.le_iff_toNat_le, Char.reduceVal, UInt32.reduceToNat] at plain
    simp only [Visible, Char.toNat]
    omega
  · exact ⟨by decide, by decide⟩

theorem Blank.isBlank (blank : Blank text) : ∀ char ∈ text, isBlank char = true := by
  intro char member
  obtain rfl | rfl := blank char member <;> decide

theorem Blank.isSpace (blank : Blank text) : ∀ char ∈ text, isSpace char = true := by
  intro char member
  obtain rfl | rfl := blank char member <;> decide

end Characters

section Lines

variable {front trail rest : List Char}

theorem skipBlanks_stretch (blank : Blank front) (stops : StopsAt isBlank rest) :
    skipBlanks (front ++ rest) = rest :=
  dropWhile_stretch blank.isBlank stops

/-- The line is over. -/
def Over (rest : List Char) : Prop := ∀ char ∈ rest.head?, char = '\n'

theorem over_nil : Over [] := fun char first => by cases first

theorem over_newline (rest : List Char) : Over ('\n' :: rest) := fun char first => by cases first; rfl

theorem Over.stopsAt (atEnd : Over rest) {p : Char → Bool} (newline : p '\n' = false) :
    StopsAt p rest := by
  intro char first
  rw [atEnd char first, newline]

theorem endLine?_of_over (atEnd : Over rest) : endLine? rest = some (rest.drop 1) := by
  have stays : skipBlanks rest = rest := dropWhile_stop (atEnd.stopsAt (by decide))
  cases rest with
  | nil => rfl
  | cons char rest =>
      obtain rfl := atEnd char rfl
      rw [endLine?, stays]
      rfl

theorem endLine?_skipComment (follows : Trail trail) (atEnd : Over rest) :
    endLine? (skipComment (trail ++ rest)) = some (rest.drop 1) := by
  cases follows with
  | blank blank =>
      have blanks : skipBlanks (trail ++ rest) = rest :=
        skipBlanks_stretch blank (atEnd.stopsAt (by decide))
      have ended : endLine? (trail ++ rest) = some (rest.drop 1) := by
        rw [← endLine?_of_over atEnd, endLine?, endLine?, blanks,
          show skipBlanks rest = rest from dropWhile_stop (atEnd.stopsAt (by decide))]
      rw [skipComment, blanks]
      split
      next sign => exact absurd (atEnd '#' rfl) (by decide)
      next => exact ended
  | @comment blanks text blank line =>
      have sign : skipBlanks (blanks ++ '#' :: text ++ rest) = '#' :: (text ++ rest) := by
        rw [List.append_assoc]
        exact skipBlanks_stretch blank fun char first => by cases first; decide
      have dropped : (text ++ rest).dropWhile (fun char => !isNewline char) = rest := by
        refine dropWhile_stretch (fun char member => ?_) (atEnd.stopsAt (by decide))
        have plain := line char member
        simp only [List.mem_cons, not_or] at plain
        simp [isNewline, plain.1]
      rw [skipComment, sign]
      change endLine? ((text ++ rest).dropWhile fun char => !isNewline char) = _
      rw [dropped, endLine?_of_over atEnd]

end Lines

section Names

variable {name rest : List Char}

/-- What a name without quotes goes on with. -/
def isNamePart (char : Char) : Bool := !(char = '=' || char = '#' || isSpace char)

theorem Word.isNamePart (word : Word name) : ∀ char ∈ name, isNamePart char = true := by
  intro char member
  have plain := word.plain char member
  have seen := isSpace_of_visible (visible_of_word plain)
  have signs : char ≠ '=' ∧ char ≠ '#' := by
    constructor <;> rintro rfl <;> revert plain <;> decide
  simp [Dotenv.isNamePart, seen, signs]

theorem readName?_word (word : Word name)
    (stops : StopsAt isNamePart rest) :
    readName? (name ++ rest) = some (some (String.ofList name), rest) := by
  have taken := takeWhile_stretch word.isNamePart stops
  have left := dropWhile_stretch word.isNamePart stops
  cases name with
  | nil => exact absurd rfl word.written
  | cons char name =>
      have plain := word.plain char List.mem_cons_self
      have signs : char ≠ '#' ∧ char ≠ Text.singleQuote := by
        constructor <;> rintro rfl <;> revert plain <;> decide
      rw [List.cons_append] at taken left ⊢
      unfold readName?
      split
      next same => exact absurd (List.cons.inj same).1 signs.1
      next first others notSign same =>
        obtain ⟨rfl, rfl⟩ := List.cons.inj same
        rw [if_neg signs.2]
        change (if (List.takeWhile isNamePart _).isEmpty then none else
          some (some (String.ofList (List.takeWhile isNamePart _)), List.dropWhile isNamePart _)) = _
        rw [taken, left]
        rfl
      next same => cases same

theorem Word.begins (word : Word name) (rest : List Char) :
    ∃ first others, name ++ rest = first :: others ∧ Visible first := by
  cases name with
  | nil => exact absurd rfl word.written
  | cons first name =>
      exact ⟨first, name ++ rest, rfl, visible_of_word (word.plain first List.mem_cons_self)⟩

theorem skipExport_word (word : Word name)
    (stops : StopsAt isNamePart rest) :
    skipExport (name ++ rest) = name ++ rest := by
  unfold skipExport
  split
  next char others same =>
    refine if_neg fun blank => word.other ?_
    have taken := takeWhile_stretch word.isNamePart stops
    have space : isSpace char = true := (Bool.and_eq_true_iff.mp blank).1
    have inside : ∀ char ∈ "export".toList, isNamePart char = true := List.all_eq_true.mp (by decide)
    rw [same, show 'e' :: 'x' :: 'p' :: 'o' :: 'r' :: 't' :: char :: others =
      "export".toList ++ (char :: others) from rfl, takeWhile_stretch inside] at taken
    · exact taken.symm
    · intro first isFirst
      cases isFirst
      simp [isNamePart, space]
  next => rfl

theorem skipExport_lead {lead : List Char} (leads : Lead lead) (word : Word name)
    (stops : StopsAt isNamePart rest) :
    skipExport (lead ++ (name ++ rest)) = name ++ rest := by
  cases leads with
  | nothing =>
      rw [List.nil_append]
      exact skipExport_word word stops
  | @exported blanks blank apart =>
      cases blanks with
      | nil => exact absurd rfl apart
      | cons char blanks =>
          obtain ⟨first, blank⟩ := List.forall_mem_cons.mp blank
          obtain ⟨letter, others, split, seen⟩ := word.begins rest
          have skipped : skipBlanks (blanks ++ (name ++ rest)) = name ++ rest := by
            rw [split]
            refine skipBlanks_stretch blank fun char isFirst => ?_
            cases isFirst
            exact isBlank_of_visible seen
          have isFirst : isBlank char = true := by obtain rfl | rfl := first <;> decide
          exact (if_pos isFirst).trans skipped

theorem begins_lead {lead : List Char} (leads : Lead lead) (word : Word name) (rest : List Char) :
    ∃ first others, lead ++ (name ++ rest) = first :: others ∧ isSpace first = false := by
  cases leads with
  | nothing =>
      obtain ⟨first, others, split, seen⟩ := word.begins rest
      exact ⟨first, others, split, isSpace_of_visible seen⟩
  | exported => exact ⟨_, _, rfl, by decide⟩

end Names

section Values

variable {value trail rest text : List Char}

theorem readQuoted?_closed {quote : Char}
    (inner : ∀ char ∈ value, char ≠ quote ∧ char ≠ Text.backslash) :
    readQuoted? quote (value ++ quote :: rest) = some (value, rest) := by
  induction value with
  | nil => cases rest <;> simp [readQuoted?]
  | cons char value ih =>
      obtain ⟨⟨inside, plain⟩, inner⟩ := List.forall_mem_cons.mp inner
      have read := ih inner
      obtain ⟨next, others, split⟩ : ∃ next others, value ++ quote :: rest = next :: others := by
        cases value with
        | nil => exact ⟨_, _, rfl⟩
        | cons next value => exact ⟨_, _, rfl⟩
      rw [List.cons_append]
      rw [split] at read ⊢
      rw [readQuoted?, if_neg inside, if_neg plain, read]
      rfl

theorem unescape_plain (escape? : Char → Option Char) (plain : Text.backslash ∉ value) :
    unescape escape? value = value := by
  induction value with
  | nil => rfl
  | cons char value ih =>
      simp only [List.mem_cons, not_or] at plain
      have rest := ih plain.2
      cases value with
      | nil => rfl
      | cons next value => rw [unescape, if_neg (Ne.symm plain.1), rest]

theorem dropWhile_signless (trail : List Char) (written : value ≠ []) (signless : '#' ∉ value)
    (last : ∀ char ∈ value.getLast?, Visible char) :
    ∃ first others, (value ++ trail).dropWhile isSpace = first :: others ∧ first ≠ '#' := by
  have seen : value.dropWhile isSpace ≠ [] := by
    rw [Ne, List.dropWhile_eq_nil_iff]
    intro spaces
    have isLast := List.getLast?_eq_some_getLast written
    have space := spaces _ (List.getLast_mem written)
    rw [isSpace_of_visible (last _ isLast)] at space
    exact absurd space (by decide)
  obtain ⟨first, others, split⟩ := List.exists_cons_of_ne_nil seen
  have member : first ∈ value :=
    (List.dropWhile_suffix isSpace).subset (split ▸ List.mem_cons_self)
  refine ⟨first, others ++ trail, ?_, fun sign => signless (sign ▸ member)⟩
  rw [List.dropWhile_append, split]
  rfl

theorem cutComment_append (signless : '#' ∉ value) (last : ∀ char ∈ value.getLast?, Visible char) :
    cutComment (value ++ trail) = value ++ cutComment trail := by
  induction value with
  | nil => rfl
  | cons char value ih =>
      rw [List.cons_append, cutComment]
      cases value with
      | nil => rw [isSpace_of_visible (last char rfl)]; rfl
      | cons next value =>
          have signless : '#' ∉ next :: value := fun member => signless (List.mem_cons_of_mem _ member)
          have last : ∀ char ∈ (next :: value).getLast?, Visible char := last
          obtain ⟨first, others, split, notSign⟩ :=
            dropWhile_signless trail (List.cons_ne_nil _ _) signless last
          rw [ih signless last, split]
          split
          · split
            next same => exact absurd (List.cons.inj same).1 notSign
            next => rfl
          · rfl

theorem cutComment_blank (blank : Blank trail) : cutComment trail = trail := by
  induction trail with
  | nil => rfl
  | cons char trail ih =>
      obtain ⟨-, rest⟩ := List.forall_mem_cons.mp blank
      have spaces : trail.dropWhile isSpace = [] :=
        List.dropWhile_eq_nil_iff.mpr (Blank.isSpace rest)
      rw [cutComment, spaces, ih rest]
      exact ite_self _

theorem cutComment_trail (follows : Trail trail) (apart : ∀ char ∈ trail.head?, char ≠ '#') :
    Blank (cutComment trail) := by
  cases follows with
  | blank blank =>
      rw [cutComment_blank blank]
      exact blank
  | @comment blanks text blank line =>
      cases blanks with
      | nil => exact absurd rfl (apart '#' rfl)
      | cons char blanks =>
          obtain ⟨first, rest⟩ := List.forall_mem_cons.mp blank
          have sign : (blanks ++ '#' :: text).dropWhile isSpace = '#' :: text :=
            dropWhile_stretch (Blank.isSpace rest) fun char first => by cases first; decide
          have isFirst : isSpace char = true := by obtain rfl | rfl := first <;> decide
          rw [List.cons_append, cutComment, if_pos isFirst, sign]
          exact List.forall_mem_nil _

theorem trimEnd_append (blank : Blank trail) (last : ∀ char ∈ value.getLast?, Visible char) :
    trimEnd (value ++ trail) = value := by
  have blanks : ∀ char ∈ trail.reverse, isSpace char = true := fun char member =>
    blank.isSpace char (List.mem_reverse.mp member)
  have stops : StopsAt isSpace value.reverse := by
    intro char first
    rw [List.head?_reverse] at first
    exact isSpace_of_visible (last char first)
  rw [trimEnd, List.reverse_append, dropWhile_stretch blanks stops, List.reverse_reverse]

theorem Trail.line (follows : Trail trail) : ∀ char ∈ trail, isNewline char = false := by
  have blank {blanks : List Char} (blank : Blank blanks) : ∀ char ∈ blanks, isNewline char = false := by
    intro char member
    obtain rfl | rfl := blank char member <;> decide
  cases follows with
  | blank isBlank => exact blank isBlank
  | comment isBlank line =>
      rw [List.forall_mem_append, List.forall_mem_cons]
      refine ⟨blank isBlank, by decide, fun char member => ?_⟩
      have plain := line char member
      simp only [List.mem_cons, not_or] at plain
      simp [isNewline, plain.1]

theorem readValue?_over (atEnd : Over rest) : readValue? rest = some ("", rest) := by
  cases rest with
  | nil => rfl
  | cons char rest =>
      obtain rfl := atEnd char rfl
      rfl

theorem readValue?_bare (bare : Bare value) (written : value ≠ []) (follows : Trail trail)
    (apart : ∀ char ∈ trail.head?, char ≠ '#') (atEnd : Over rest) :
    readValue? (value ++ (trail ++ rest)) = some (String.ofList value, rest) := by
  have line : ∀ char ∈ value ++ trail, (!isNewline char) = true := by
    rw [List.forall_mem_append]
    refine ⟨fun char member => ?_, fun char member => by rw [follows.line char member]; rfl⟩
    have plain := bare.inner char member
    simp only [List.mem_cons, not_or] at plain
    simp [isNewline, plain.1]
  have stops : StopsAt (fun char => !isNewline char) rest := atEnd.stopsAt (by decide)
  have signless : '#' ∉ value := fun member => bare.inner '#' member (by decide)
  have kept : trimEnd (cutComment (value ++ trail)) = value := by
    rw [cutComment_append signless bare.last]
    exact trimEnd_append (cutComment_trail follows apart) bare.last
  have taken := takeWhile_stretch line stops
  have left := dropWhile_stretch line stops
  rw [List.append_assoc] at taken left
  cases value with
  | nil => exact absurd rfl written
  | cons char value =>
      have quotes := (bare.first char rfl).2
      simp only [List.mem_cons, List.not_mem_nil, or_false, not_or] at quotes
      rw [List.cons_append] at taken left ⊢
      rw [readValue?, if_neg quotes.1, if_neg quotes.2]
      dsimp only
      rw [taken, left, kept]

theorem readValue?_quoted {quote : Char} (isQuote : quote ∈ [Text.singleQuote, Text.doubleQuote])
    (inner : ∀ char ∈ value, char ≠ quote ∧ char ≠ Text.backslash) :
    readValue? (quote :: (value ++ quote :: rest)) = some (String.ofList value, rest) := by
  have plain : Text.backslash ∉ value := fun member => (inner _ member).2 rfl
  have read : readQuoted? quote (value ++ quote :: rest) = some (value, rest) := readQuoted?_closed inner
  rw [readValue?]
  rcases List.mem_cons.mp isQuote with rfl | other
  · rw [if_pos rfl, read, Option.map_some]
    dsimp only
    rw [unescape_plain _ plain]
  · obtain rfl := List.mem_singleton.mp other
    rw [if_neg (by decide), if_pos rfl, read, Option.map_some]
    dsimp only
    rw [unescape_plain _ plain]

theorem readAssigned?_of_skipBlanks (skipped : skipBlanks text = rest)
    (signless : ∀ char ∈ rest.head?, char ≠ '#') : readAssigned? text = readValue? rest := by
  unfold readAssigned?
  split
  next sign =>
    rw [skipped] at sign
    rw [sign] at signless
    exact absurd rfl (signless '#' rfl)
  next => rw [skipped]

theorem readAssigned?_comment {char : Char} (blank : isBlank char = true)
    (skipped : skipBlanks (char :: text) = '#' :: rest) :
    readAssigned? (char :: text) = some ("", '#' :: rest) := by
  unfold readAssigned?
  split
  next first _ others same sign =>
    obtain ⟨rfl, rfl⟩ := List.cons.inj same
    rw [skipped] at sign
    obtain ⟨-, rfl⟩ := List.cons.inj sign
    exact if_pos blank
  next unsigned => exact (unsigned _ _ _ rfl skipped).elim

theorem readAssigned?_nothing {after : List Char} (spaced : Blank after) (follows : Trail trail)
    (apart : ∀ char ∈ trail.head?, char ≠ '#') (atEnd : Over rest) :
    ∃ left, readAssigned? (after ++ (trail ++ rest)) = some ("", left) ∧
      endLine? (skipComment left) = some (rest.drop 1) := by
  cases follows with
  | blank blank =>
      have skipped : skipBlanks (after ++ trail ++ rest) = rest :=
        skipBlanks_stretch (List.forall_mem_append.mpr ⟨spaced, blank⟩) (atEnd.stopsAt (by decide))
      refine ⟨rest, ?_, endLine?_skipComment (.blank (List.forall_mem_nil _)) atEnd⟩
      rw [← List.append_assoc, readAssigned?_of_skipBlanks skipped, readValue?_over atEnd]
      intro char first
      rw [atEnd char first]
      decide
  | @comment blanks text blank line =>
      have spaces : Blank (after ++ blanks) := List.forall_mem_append.mpr ⟨spaced, blank⟩
      have skipped : skipBlanks (after ++ blanks ++ '#' :: (text ++ rest)) = '#' :: (text ++ rest) :=
        skipBlanks_stretch spaces fun char first => by cases first; decide
      have written : after ++ blanks ≠ [] := by
        cases blanks with
        | nil => exact absurd rfl (apart '#' rfl)
        | cons => simp
      obtain ⟨char, others, split⟩ := List.exists_cons_of_ne_nil written
      have isFirst : isBlank char = true := spaces.isBlank char (split ▸ List.mem_cons_self)
      rw [split] at skipped
      refine ⟨'#' :: (text ++ rest), ?_, ?_⟩
      · rw [List.append_assoc, List.cons_append, ← List.append_assoc, split]
        exact readAssigned?_comment isFirst skipped
      · exact endLine?_skipComment (.comment (List.forall_mem_nil _) line) atEnd

/-- A value that is written behind an equals sign is read, and nothing else stands on its line. -/
theorem readAssigned?_stands {after written : List Char} (spaced : Blank after)
    (stands : Stands written value) (atEnd : Over rest) :
    ∃ left, readAssigned? (after ++ (written ++ rest)) = some (String.ofList value, left) ∧
      endLine? (skipComment left) = some (rest.drop 1) := by
  cases stands with
  | @quoted quote _ trail isQuote inner follows =>
      have seen : Visible quote ∧ quote ≠ '#' := by
        simp only [List.mem_cons, List.not_mem_nil, or_false] at isQuote
        obtain rfl | rfl := isQuote <;> exact ⟨⟨by decide, by decide⟩, by decide⟩
      have plain : ∀ char ∈ value, char ≠ quote ∧ char ≠ Text.backslash := by
        intro char member
        have plain := inner char member
        simp only [List.mem_cons, not_or] at plain
        exact ⟨plain.1, plain.2.1⟩
      have skipped : skipBlanks (after ++ quote :: (value ++ quote :: (trail ++ rest))) =
          quote :: (value ++ quote :: (trail ++ rest)) :=
        skipBlanks_stretch spaced fun char first => by cases first; exact isBlank_of_visible seen.1
      refine ⟨trail ++ rest, ?_, endLine?_skipComment follows atEnd⟩
      rw [List.cons_append, List.append_assoc, List.cons_append, readAssigned?_of_skipBlanks skipped,
        readValue?_quoted isQuote plain]
      intro char first
      cases first
      exact seen.2
  | @bare _ trail bare follows apart =>
      rw [List.append_assoc]
      by_cases written : value = []
      · subst written
        exact readAssigned?_nothing spaced follows apart atEnd
      · have signless : ∀ char ∈ (value ++ (trail ++ rest)).head?, Visible char ∧ char ≠ '#' := by
          cases value with
          | nil => exact absurd rfl written
          | cons char value =>
              intro first isFirst
              cases isFirst
              have plain := bare.inner char List.mem_cons_self
              exact ⟨(bare.first char rfl).1, fun sign => plain (by simp [sign])⟩
        have skipped := skipBlanks_stretch spaced fun char first =>
          isBlank_of_visible (signless char first).1
        refine ⟨rest, ?_, endLine?_skipComment (.blank (List.forall_mem_nil _)) atEnd⟩
        rw [readAssigned?_of_skipBlanks skipped fun char first => (signless char first).2,
          readValue?_bare bare written follows apart atEnd]

end Values

section Bindings

variable {trail rest : List Char}

theorem readBinding_assigns {lead before after written : List Char} {name value : String}
    (leads : Lead lead) (word : Word name.toList) (parted : Blank before) (spaced : Blank after)
    (stands : Stands written value.toList) (atEnd : Over rest) :
    readBinding (lead ++ (name.toList ++ (before ++ '=' :: (after ++ (written ++ rest))))) =
      .ok (some (name, some value), rest.drop 1) := by
  have nameStops : StopsAt isNamePart (before ++ '=' :: (after ++ (written ++ rest))) := by
    intro char first
    cases before with
    | nil => cases first; decide
    | cons blank before =>
        cases first
        simp [isNamePart, parted.isSpace char List.mem_cons_self]
  have sign : skipBlanks (before ++ '=' :: (after ++ (written ++ rest))) =
      '=' :: (after ++ (written ++ rest)) :=
    skipBlanks_stretch parted fun char first => by cases first; decide
  obtain ⟨left, read, ended⟩ := readAssigned?_stands spaced stands atEnd
  rw [String.ofList_toList] at read
  unfold readBinding
  rw [skipExport_lead leads word nameStops]
  dsimp only [orStop, bind, Except.bind]
  rw [readName?_word word nameStops, String.ofList_toList]
  dsimp only
  rw [sign]
  split
  next behind same =>
    obtain rfl := List.tail_eq_of_cons_eq same
    rw [read]
    dsimp only [pure, Except.pure]
    rw [ended]
    rfl
  next unsigned => exact absurd rfl (unsigned _)

theorem readBinding_comment {text : List Char} (line : ∀ char ∈ text, char ∉ ['\n', '\r'])
    (atEnd : Over rest) : readBinding ('#' :: (text ++ rest)) = .ok (none, rest.drop 1) := by
  have ended : endLine? (skipComment ('#' :: (text ++ rest))) = some (rest.drop 1) :=
    endLine?_skipComment (.comment (List.forall_mem_nil _) line) atEnd
  have stays : skipBlanks ('#' :: (text ++ rest)) = '#' :: (text ++ rest) :=
    dropWhile_stop fun char first => by cases first; decide
  have skipped : skipExport ('#' :: (text ++ rest)) = '#' :: (text ++ rest) := rfl
  have unnamed : readName? ('#' :: (text ++ rest)) = some (none, '#' :: (text ++ rest)) := rfl
  unfold readBinding
  rw [skipped]
  dsimp only [orStop, bind, Except.bind]
  rw [unnamed]
  dsimp only
  rw [stays]
  split
  next behind same => exact absurd (List.head_eq_of_cons_eq same) (by decide)
  next =>
    dsimp only [pure, Except.pure]
    rw [ended]
    rfl

end Bindings

section Reading

variable {line rest text : List Char} {said : Option (String × String)}
  {assignments : List (String × String)} {fuel : Nat}

theorem readWithin_nil (fuel : Nat) : readWithin fuel [] = [] := by
  cases fuel <;> rfl

theorem readWithin_blank (blank : Blank line) (atEnd : Over rest) :
    readWithin fuel (line ++ rest) = readWithin fuel (rest.drop 1) := by
  have same : (line ++ rest).dropWhile isSpace = (rest.drop 1).dropWhile isSpace := by
    rw [List.dropWhile_append_of_pos blank.isSpace]
    cases rest with
    | nil => rfl
    | cons char rest =>
        obtain rfl := atEnd char rfl
        rfl
  cases fuel with
  | zero => rfl
  | succ fuel => rw [readWithin, readWithin, same]

theorem readWithin_of_readBinding {indent : List Char} {binding : Option (String × Option String)}
    (indented : Blank indent) (begins : ∃ first others, text = first :: others ∧ isSpace first = false)
    (read : readBinding text = .ok (binding, rest)) :
    readWithin (fuel + 1) (indent ++ text) = binding.toList ++ readWithin fuel rest := by
  obtain ⟨first, others, rfl, seen⟩ := begins
  have skipped : (indent ++ first :: others).dropWhile isSpace = first :: others :=
    dropWhile_stretch indented.isSpace fun char isFirst => by cases isFirst; exact seen
  rw [readWithin, skipped]
  dsimp only
  rw [read]
  cases binding <;> rfl

/-- One line is read, and there is fuel enough for the lines behind it. -/
theorem readWithin_line (told : Says line said) (atEnd : Over rest)
    (enough : (line ++ rest).length < fuel) :
    ∃ left, (rest.drop 1).length < left ∧
      readWithin fuel (line ++ rest) =
        (said.map (Prod.map id some)).toList ++ readWithin left (rest.drop 1) := by
  cases fuel with
  | zero => exact absurd enough (Nat.not_lt_zero _)
  | succ fuel =>
      rw [List.length_append] at enough
      cases told with
      | nothing follows =>
          cases follows with
          | blank blank =>
              exact ⟨fuel + 1, by rw [List.length_drop]; omega, readWithin_blank blank atEnd⟩
          | comment blank text =>
              rw [List.length_append, List.length_cons] at enough
              refine ⟨fuel, by rw [List.length_drop]; omega, ?_⟩
              rw [List.append_assoc, List.cons_append]
              exact readWithin_of_readBinding blank ⟨_, _, rfl, by decide⟩
                (readBinding_comment text atEnd)
      | @assigns indent lead before after written name value indented leads word parted spaced stands =>
          simp only [List.length_append, List.length_cons] at enough
          refine ⟨fuel, by rw [List.length_drop]; omega, ?_⟩
          simp only [List.append_assoc, List.cons_append]
          exact readWithin_of_readBinding indented (begins_lead leads word _)
            (readBinding_assigns leads word parted spaced stands atEnd)

theorem Blank.clean (blank : Blank text) : '\r' ∉ text := fun member => by
  obtain same | same := blank _ member <;> revert same <;> decide

theorem Trail.clean (follows : Trail text) : '\r' ∉ text := by
  cases follows with
  | blank blank => exact blank.clean
  | comment blank line =>
      rw [List.mem_append, List.mem_cons]
      rintro (member | same | member)
      · exact blank.clean member
      · revert same; decide
      · exact line _ member (by decide)

theorem Stands.clean {written value : List Char} (stands : Stands written value) :
    '\r' ∉ written ∧ '$' ∉ value := by
  cases stands with
  | bare bare follows =>
      refine ⟨?_, fun member => bare.inner _ member (by decide)⟩
      rw [List.mem_append, not_or]
      exact ⟨fun member => bare.inner _ member (by decide), follows.clean⟩
  | quoted isQuote inner follows =>
      refine ⟨?_, fun member => inner _ member (by simp)⟩
      rw [List.mem_cons, List.mem_append, List.mem_cons]
      rintro (same | member | same | member)
      · rw [← same] at isQuote
        revert isQuote; decide
      · exact inner _ member (by simp)
      · rw [← same] at isQuote
        revert isQuote; decide
      · exact follows.clean member

theorem Lead.clean (leads : Lead text) : '\r' ∉ text := by
  cases leads with
  | nothing => exact List.not_mem_nil
  | exported blank =>
      rw [List.mem_append, not_or]
      exact ⟨by decide, blank.clean⟩

theorem Word.clean (word : Word text) : '\r' ∉ text := fun member => by
  have plain := word.plain _ member
  revert plain; decide

theorem Says.clean (told : Says line said) :
    '\r' ∉ line ∧ ∀ entry ∈ said, '$' ∉ entry.2.toList := by
  cases told with
  | nothing follows => exact ⟨follows.clean, fun entry isEntry => by cases isEntry⟩
  | assigns indented leads word parted spaced stands =>
      obtain ⟨written, value⟩ := stands.clean
      refine ⟨?_, fun entry isEntry => by cases isEntry; exact value⟩
      simp [indented.clean, leads.clean, word.clean, parted.clean, spaced.clean, written]

theorem unifyNewlines_append (plain : '\r' ∉ line) (rest : List Char) :
    unifyNewlines (line ++ rest) = line ++ unifyNewlines rest := by
  induction line with
  | nil => rfl
  | cons char line ih =>
      simp only [List.mem_cons, not_or] at plain
      rw [List.cons_append, unifyNewlines, ih plain.2]
      · rfl
      · exact fun _ isReturn _ => plain.1 isReturn.symm
      · exact fun isReturn => plain.1 isReturn.symm

theorem readWithin_lists (lists : Lists text assignments)
    (enough : (unifyNewlines text).length < fuel) :
    readWithin fuel (unifyNewlines text) = assignments.map (Prod.map id some) := by
  induction lists generalizing fuel with
  | @last line said told =>
      have same : unifyNewlines line = line := by
        simpa [unifyNewlines] using unifyNewlines_append told.clean.1 []
      rw [same] at enough ⊢
      rw [← List.append_nil line] at enough ⊢
      obtain ⟨left, -, read⟩ := readWithin_line told over_nil enough
      rw [read, List.drop_nil, readWithin_nil, List.append_nil]
      cases said <;> rfl
  | @cons line ending rest said assignments told ends lists ih =>
      have same : unifyNewlines (line ++ (ending ++ rest)) = line ++ '\n' :: unifyNewlines rest := by
        rw [unifyNewlines_append told.clean.1]
        simp only [List.mem_cons, List.not_mem_nil, or_false] at ends
        obtain rfl | rfl := ends <;> rfl
      rw [same] at enough ⊢
      obtain ⟨left, more, read⟩ := readWithin_line told (over_newline _) enough
      rw [List.drop_succ_cons, List.drop_zero] at more read
      rw [read, List.map_append, ih more]
      cases said <;> rfl

theorem Lists.clean (lists : Lists text assignments) :
    ∀ entry ∈ assignments, '$' ∉ entry.2.toList := by
  induction lists with
  | last told => simpa using told.clean.2
  | cons told ends lists ih =>
      rw [List.forall_mem_append]
      exact ⟨by simpa using told.clean.2, ih⟩

end Reading

section Resolving

variable {assignments : List (String × String)}

theorem expandWithin_plain (find? : String → Option Text) {fuel : Nat} {text : List Char}
    (plain : '$' ∉ text) (enough : text.length ≤ fuel) :
    expandWithin find? fuel text = .whole (String.ofList text) := by
  induction text generalizing fuel with
  | nil => cases fuel <;> rfl
  | cons char text ih =>
      simp only [List.mem_cons, not_or] at plain
      cases fuel with
      | zero => exact absurd enough (Nat.not_succ_le_zero _)
      | succ fuel =>
          rw [expandWithin, ih plain.2 (Nat.le_of_succ_le_succ enough), Text.whole_append_whole,
            String.singleton_eq_ofList, ← String.ofList_append, List.singleton_append]
          exact fun rest isSign => (plain.1 isSign.symm).elim

theorem resolve_plain (environment : List (String × Text)) (done : List (String × Option Text))
    (plain : ∀ entry ∈ assignments, '$' ∉ entry.2.toList) :
    resolve environment done (assignments.map (Prod.map id some)) =
      done ++ assignments.map (Prod.map id fun value => some (.whole value)) := by
  induction assignments generalizing done with
  | nil => exact (List.append_nil done).symm
  | cons entry assignments ih =>
      obtain ⟨name, value⟩ := entry
      obtain ⟨first, plain⟩ := List.forall_mem_cons.mp plain
      have expanded (find? : String → Option Text) : expand find? value = .whole value := by
        rw [expand, expandWithin_plain find? first (Nat.le_of_eq String.length_toList),
          String.ofList_toList]
      rw [List.map_cons, Prod.map_apply, resolve, ih _ plain, Option.map_some, expanded,
        List.append_assoc]
      rfl

end Resolving

section Settling

variable {α β : Type} {bindings kept : List (String × Option Text)} {name : String}

theorem find?_concat (entries : List (String × α)) (entry : String × α) (name : String) :
    Settings.find? (entries ++ [entry]) name =
      if entry.1 = name then some entry.2 else Settings.find? entries name := by
  rw [Settings.find?, List.reverse_append, List.reverse_singleton, List.singleton_append, List.find?_cons]
  by_cases named : entry.1 = name <;> simp [named, Settings.find?]

theorem find?_map (f : α → β) (entries : List (String × α)) (name : String) :
    Settings.find? (entries.map (Prod.map id f)) name = (Settings.find? entries name).map f := by
  rw [Settings.find?, Settings.find?, ← List.map_reverse, List.find?_map, Option.map_map, Option.map_map]
  rfl

theorem settle_concat (bindings : List (String × Option Text)) (binding : String × Option Text) :
    settle (bindings ++ [binding]) =
      if (settle bindings).any (·.1 = binding.1) then
        (settle bindings).map fun entry => if entry.1 = binding.1 then binding else entry
      else settle bindings ++ [binding] := by
  rw [settle, List.foldl_append]
  rfl

theorem find?_replace (binding : String × Option Text)
    (present : kept.any (·.1 = binding.1) = true) (name : String) :
    Settings.find? (kept.map fun entry => if entry.1 = binding.1 then binding else entry) name =
      if binding.1 = name then some binding.2 else Settings.find? kept name := by
  have sameName (entry : String × Option Text) :
      (if entry.1 = binding.1 then binding else entry).1 = entry.1 := by
    split
    next named => exact named.symm
    next => rfl
  rw [Settings.find?, Settings.find?, ← List.map_reverse, List.find?_map, Option.map_map]
  simp only [Function.comp_def, sameName]
  cases found : kept.reverse.find? fun entry => entry.1 = name with
  | none =>
      obtain ⟨entry, member, named⟩ := List.any_eq_true.mp present
      have others := List.find?_eq_none.mp found entry (List.mem_reverse.mpr member)
      rw [if_neg]
      · rfl
      · rintro rfl
        exact others named
  | some entry =>
      have named : entry.1 = name := by simpa using List.find?_some found
      rw [Option.map_some, Option.map_some, named]
      by_cases same : binding.1 = name
      · rw [if_pos same.symm, if_pos same]
      · rw [if_neg (Ne.symm same), if_neg same]

/-- Of the values of a name, the last one is kept. -/
theorem find?_settle (bindings : List (String × Option Text)) (name : String) :
    Settings.find? (settle bindings) name = Settings.find? bindings name := by
  induction bindings using List.reverseRecOn with
  | nil => rfl
  | append_singleton bindings binding ih =>
      rw [settle_concat, find?_concat, ← ih]
      split
      next present => exact find?_replace binding present name
      next => exact find?_concat _ _ _

theorem mem_of_settle {entry : String × Option Text} (member : entry ∈ settle bindings) :
    entry ∈ bindings := by
  induction bindings using List.reverseRecOn with
  | nil => exact member
  | append_singleton bindings binding ih =>
      rw [settle_concat] at member
      rw [List.mem_append, List.mem_singleton]
      split at member
      · obtain ⟨earlier, isEarlier, rfl⟩ := List.mem_map.mp member
        split
        · exact .inr rfl
        · rename_i named
          rw [if_neg named] at ih
          exact .inl (ih isEarlier)
      · exact (List.mem_append.mp member).imp ih List.mem_singleton.mp

theorem map_filterMap_valued (valued : ∀ entry ∈ kept, entry.2.isSome = true) :
    (kept.filterMap fun (name, value) => value.map fun value => (name, value)).map (Prod.map id some) =
      kept := by
  induction kept with
  | nil => rfl
  | cons entry kept ih =>
      obtain ⟨name, value⟩ := entry
      obtain ⟨first, others⟩ := List.forall_mem_cons.mp valued
      cases value with
      | none => exact absurd first Bool.false_ne_true
      | some value => exact congrArg (_ :: ·) (ih others)

end Settling

/-- A plain file gives each name the last value that is assigned to it, and no other name a value. -/
theorem find?_read {file : String} {assignments : List (String × String)}
    (assigns : Assigns file assignments) (environment : List (String × Text)) (name : String) :
    Settings.find? (read environment file) name = (Settings.find? assignments name).map .whole := by
  obtain ⟨text, dropped, lists⟩ :
      ∃ text, dropByteOrderMark file.toList = text ∧ Lists text assignments := by
    cases assigns with
    | unmarked begins lists =>
        refine ⟨file.toList, ?_, lists⟩
        cases chars : file.toList with
        | nil => rfl
        | cons char rest =>
            rw [chars] at begins
            exact if_neg fun same => begins (congrArg some same)
    | marked begins lists => exact ⟨_, by rw [begins, dropByteOrderMark, if_pos rfl], lists⟩
  have bound : readWithin ((unifyNewlines text).length + 1) (unifyNewlines text) =
      assignments.map (Prod.map id some) := readWithin_lists lists (Nat.lt_succ_self _)
  have valued : ∀ entry ∈ settle (assignments.map (Prod.map id fun value => some (.whole value))),
      entry.2.isSome = true := by
    intro entry member
    obtain ⟨assignment, -, rfl⟩ := List.mem_map.mp (mem_of_settle member)
    rfl
  have settled := find?_settle (assignments.map (Prod.map id fun value => some (.whole value))) name
  rw [← map_filterMap_valued valued, find?_map, find?_map] at settled
  rw [read, dropped]
  dsimp only
  rw [bound, resolve_plain environment [] lists.clean, List.nil_append]
  apply Option.map_injective fun _ _ => Option.some.inj
  rw [settled, Option.map_map]
  rfl

end GuardAlgebra.Dotenv
