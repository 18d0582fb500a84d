import GuardAlgebra.Request.Query
import Mathlib.Data.List.TakeWhile

namespace GuardAlgebra.Query

/-! # What queries say

A query is made of pieces between ampersands, and a piece assigns a value to a name. Of several values
for one name the last is found. Text of ASCII may be spelled in many ways, with escapes and with plus
signs for blanks, and is read the same.
-/

/-- A name alone, or a name and a value behind the first equals sign. -/
inductive Assigns : List Char → String → String → Prop where
  | bare {name : List Char} (written : name ≠ []) (plain : '=' ∉ name) :
      Assigns name (decodePart name) ""
  | valued {name value : List Char} (plain : '=' ∉ name) :
      Assigns (name ++ '=' :: value) (decodePart name) (decodePart value)

/-- The pieces of a query. -/
structure Cut (query : String) (pieces : List (List Char)) : Prop where
  joined : octetsOf query = ['&'].intercalate pieces
  plain : ∀ piece ∈ pieces, '&' ∉ piece

/-- The last value that a query gives for a name. -/
inductive Gives (query name text : String) : Prop where
  | last {before after : List (List Char)} {piece : List Char}
      (cut : Cut query (before ++ piece :: after)) (assigns : Assigns piece name text)
      (final : ∀ later ∈ after, ∀ other, ¬ Assigns later name other)

/-- How text of ASCII may be spelled: a character stands for itself, an escape for the character of its
number, and a plus sign for a blank. -/
inductive Spells : List Char → List Char → Prop where
  | nil : Spells [] []
  | plain {char : Char} {part text : List Char} (ascii : char.toNat < 128) (noPercent : char ≠ '%')
      (noPlus : char ≠ '+') (rest : Spells part text) : Spells (char :: part) (char :: text)
  | blank {part text : List Char} (rest : Spells part text) : Spells ('+' :: part) (' ' :: text)
  | escaped {char high low : Char} {upper lower : Nat} {part text : List Char}
      (ascii : char.toNat < 128) (isHigh : hexDigit? high = some upper)
      (isLow : hexDigit? low = some lower) (code : upper * 16 + lower = char.toNat)
      (rest : Spells part text) : Spells ('%' :: high :: low :: part) (char :: text)

variable {query name text : String} {piece part : List Char} {pieces : List (List Char)}

section Pieces

/-- The name and the value of a piece, unless it is empty. -/
def assignment? (piece : List Char) : Option (String × String) :=
  if piece.isEmpty then none
  else some (decodePart (piece.takeWhile (· ≠ '=')),
    decodePart ((piece.dropWhile (· ≠ '=')).drop 1))

theorem splitAt_eq_splitOn (separator : Char) (text : List Char) :
    splitAt separator text = text.splitOn separator := by
  induction text with
  | nil => rfl
  | cons char rest ih =>
      rw [splitAt, ih, List.splitOn_cons_eq_if_modifyHead]
      cases pieces : rest.splitOn separator with
      | nil => exact absurd pieces (List.splitOn_ne_nil _ _)
      | cons piece others => simp

theorem notMem_of_splitAt {separator : Char} {text : List Char} :
    ∀ piece ∈ splitAt separator text, separator ∉ piece := by
  induction text with
  | nil => simp [splitAt]
  | cons char rest ih =>
      rw [splitAt]
      by_cases isSeparator : char = separator
      · simpa [isSeparator] using ih
      · cases pieces : splitAt separator rest with
        | nil => simp [isSeparator, Ne.symm isSeparator]
        | cons piece others =>
            rw [pieces] at ih
            simp only [List.forall_mem_cons] at ih
            simpa [isSeparator, Ne.symm isSeparator, ih.1] using ih.2

theorem cut_splitAt (query : String) : Cut query (splitAt '&' (octetsOf query)) where
  joined := by rw [splitAt_eq_splitOn, List.intercalate_splitOn]
  plain := notMem_of_splitAt

theorem Cut.pieces_eq (cut : Cut query pieces) (written : pieces ≠ []) :
    splitAt '&' (octetsOf query) = pieces := by
  rw [splitAt_eq_splitOn, cut.joined, List.splitOn_intercalate _ cut.plain written]

theorem assignment?_of_assigns (assigns : Assigns piece name text) : assignment? piece = some (name, text) := by
  have untilSign {name : List Char} (plain : '=' ∉ name) :
      ∀ char ∈ name, decide (char ≠ '=') = true := by
    intro char member
    rw [decide_eq_true_eq]
    rintro rfl
    exact plain member
  cases assigns with
  | bare written plain =>
      have kept := List.takeWhile_eq_self_iff.mpr (untilSign plain)
      have dropped := List.dropWhile_eq_nil_iff.mpr (untilSign plain)
      rw [assignment?, kept, dropped, if_neg (by simpa using written)]
      rfl
  | valued plain =>
      rw [assignment?, List.takeWhile_append_of_pos (untilSign plain),
        List.dropWhile_append_of_pos (untilSign plain), if_neg (by simp)]
      simp

theorem assigns_of_assignment? (found : assignment? piece = some (name, text)) : Assigns piece name text := by
  rw [assignment?] at found
  split at found
  · simp at found
  · rename_i written
    simp only [Option.some.injEq, Prod.mk.injEq] at found
    obtain ⟨rfl, rfl⟩ := found
    have parts := List.takeWhile_append_dropWhile (p := fun char => decide (char ≠ '=')) (l := piece)
    have plain : '=' ∉ piece.takeWhile (· ≠ '=') := by
      intro member
      simpa using List.mem_takeWhile_imp member
    cases rest : piece.dropWhile (· ≠ '=') with
    | nil =>
        rw [rest, List.append_nil] at parts
        rw [parts] at plain ⊢
        exact .bare (by simpa using written) plain
    | cons sign value =>
        have isSign : sign = '=' := by
          have stops := List.head?_dropWhile_not (fun char => decide (char ≠ '=')) piece
          rw [rest] at stops
          simpa using stops
        rw [rest, isSign] at parts
        have assigns : Assigns (piece.takeWhile (· ≠ '=') ++ '=' :: value) _ (decodePart value) :=
          .valued plain
        rw [parts] at assigns
        exact assigns

theorem assigns_iff : Assigns piece name text ↔ assignment? piece = some (name, text) :=
  ⟨assignment?_of_assigns, assigns_of_assignment?⟩

end Pieces

section Finding

theorem pairs_eq (query : String) : pairs query = (splitAt '&' (octetsOf query)).filterMap assignment? := rfl

theorem find?_eq (query name : String) :
    find? query name =
      (((splitAt '&' (octetsOf query)).reverse.find? fun piece =>
        (assignment? piece).any fun pair => pair.1 = name).bind assignment?).map Prod.snd := by
  rw [find?, pairs_eq, ← List.filterMap_reverse, List.find?_filterMap]

theorem any_assignment?_iff :
    ((assignment? piece).any fun pair => pair.1 = name) = true ↔ ∃ text, Assigns piece name text := by
  simp only [Option.any_eq_true, decide_eq_true_eq, assigns_iff, Prod.exists]
  constructor
  · rintro ⟨other, text, found, rfl⟩
    exact ⟨text, found⟩
  · rintro ⟨text, found⟩
    exact ⟨name, text, found, rfl⟩

/-- The value that is found for a name is the last one that the query gives. -/
theorem find?_eq_some_iff : find? query name = some text ↔ Gives query name text := by
  rw [find?_eq, Option.map_eq_some_iff]
  constructor
  · rintro ⟨pair, found, rfl⟩
    obtain ⟨piece, found, assigned⟩ := Option.bind_eq_some_iff.mp found
    obtain ⟨named, later, earlier, split, others⟩ := List.find?_eq_some_iff_append.mp found
    have split := congrArg List.reverse split
    simp only [List.reverse_reverse, List.reverse_append, List.reverse_cons, List.append_assoc,
      List.singleton_append] at split
    have cut := cut_splitAt query
    rw [split] at cut
    obtain ⟨value, assigns⟩ := any_assignment?_iff.mp named
    rw [assigns_iff.mp assigns] at assigned
    cases assigned
    refine .last cut assigns ?_
    intro piece member other assigns
    have silent := others piece (List.mem_reverse.mp member)
    rw [any_assignment?_iff.mpr ⟨other, assigns⟩] at silent
    simp at silent
  · rintro ⟨cut, assigns, final⟩
    rename_i before after piece
    refine ⟨(name, text), Option.bind_eq_some_iff.mpr ⟨piece, ?_, assigns_iff.mp assigns⟩, rfl⟩
    rw [cut.pieces_eq (by simp), List.find?_eq_some_iff_append]
    refine ⟨any_assignment?_iff.mpr ⟨text, assigns⟩, after.reverse, before.reverse, by simp, ?_⟩
    intro later member
    rw [Bool.not_eq_true', ← Bool.not_eq_true, any_assignment?_iff]
    rintro ⟨other, assigns⟩
    exact final later (List.mem_reverse.mp member) other assigns

theorem find?_eq_none_iff : find? query name = none ↔ ∀ text, ¬ Gives query name text := by
  simp only [Option.eq_none_iff_forall_ne_some, Ne, find?_eq_some_iff]

end Finding

section Spelling

theorem decodeReplacing_ascii {text : List Char} (ascii : ∀ char ∈ text, char.toNat < 128) :
    Text.decodeReplacing (text.map fun char => UInt8.ofNat char.toNat) = text := by
  unfold Text.decodeReplacing
  induction text with
  | nil => rfl
  | cons char rest ih =>
      simp only [List.forall_mem_cons] at ascii
      have code : (UInt8.ofNat char.toNat).toNat = char.toNat := by simp; omega
      have lead : Text.leadOf char.toNat = some ⟨0, 0, 0, char.toNat⟩ := by
        simp [Text.leadOf, ascii.1]
      simp only [List.map_cons, Text.decodeFrom, code, lead]
      simp [ih ascii.2]

theorem decodeRuns_ascii (run : List Char) (ascii : ∀ char ∈ part, char.toNat < 128) :
    decodeRuns run part = Text.decodeReplacing (bytesOf (run.reverse ++ part)) := by
  induction part generalizing run with
  | nil => simp [decodeRuns]
  | cons char rest ih =>
      simp only [List.forall_mem_cons] at ascii
      rw [decodeRuns, if_pos ascii.1, ih _ ascii.2, List.reverse_cons, List.append_assoc,
        List.singleton_append]

theorem isAscii_of_hexDigit? {char : Char} {value : Nat} (isDigit : hexDigit? char = some value) :
    char.toNat < 128 := by
  have below {bound : Char} (within : char ≤ bound) : char.toNat ≤ bound.toNat :=
    UInt32.le_iff_toNat_le.mp within
  have small : '9'.toNat < 128 ∧ 'f'.toNat < 128 ∧ 'F'.toNat < 128 := by decide
  simp only [hexDigit?] at isDigit
  split_ifs at isDigit with isNumeral isLower isUpper
  · have := below isNumeral.2
    omega
  · have := below isLower.2
    omega
  · have := below isUpper.2
    omega

theorem Spells.ascii {text : List Char} (spells : Spells part text) :
    (∀ char ∈ part, char.toNat < 128) ∧ ∀ char ∈ text, char.toNat < 128 := by
  induction spells with
  | nil => simp
  | plain ascii _ _ _ ih => simpa [ascii] using ih
  | blank _ ih => simpa using ih
  | escaped ascii isHigh isLow _ _ ih =>
      simpa [ascii, isAscii_of_hexDigit? isHigh, isAscii_of_hexDigit? isLow] using ih

theorem bytesOf_of_spells {text : List Char} (spells : Spells part text) :
    bytesOf (part.map fun char => if char = '+' then ' ' else char) =
      text.map fun char => UInt8.ofNat char.toNat := by
  induction spells with
  | nil => rfl
  | plain ascii noPercent noPlus _ ih =>
      rw [List.map_cons, if_neg noPlus, bytesOf, ih, List.map_cons]
      rintro high low rest rfl
      exact absurd rfl noPercent
  | blank _ ih =>
      rw [List.map_cons, if_pos rfl, bytesOf, ih, List.map_cons]
      simp
  | @escaped char high low upper lower _ _ ascii isHigh isLow code _ ih =>
      have noPlus {digit : Char} {value : Nat} (isDigit : hexDigit? digit = some value) :
          digit ≠ '+' := by
        rintro rfl
        exact nomatch isDigit
      rw [List.map_cons, List.map_cons, List.map_cons, if_neg (by decide), if_neg (noPlus isHigh),
        if_neg (noPlus isLow), bytesOf]
      simp [isHigh, isLow, code, ih]

/-- The spelling makes no difference to what is read. -/
theorem decodePart_of_spells {text : List Char} (spells : Spells part text) :
    decodePart part = String.ofList text := by
  obtain ⟨ascii, asciiText⟩ := spells.ascii
  have blanked : ∀ char ∈ part.map fun char => if char = '+' then ' ' else char,
      char.toNat < 128 := by
    simp only [List.forall_mem_map]
    intro char member
    split
    · decide
    · exact ascii char member
  rw [decodePart, decodeRuns_ascii [] blanked, List.reverse_nil, List.nil_append,
    bytesOf_of_spells spells, decodeReplacing_ascii asciiText]

end Spelling

end GuardAlgebra.Query
