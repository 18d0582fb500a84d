import GuardAlgebra.Proofs.Notation
import GuardAlgebra.Proofs.Reading

namespace GuardAlgebra.Json

/-! # What can be written

Not every value can be written as JSON: exceptions, bytes and numbers that are not finite stand against
it, and a half of a character against sending what was written. Whatever can be written and sent is read
by a client as some value or other.
-/

/-- Values without parts that can be written. -/
inductive Plain : Value → Prop where
  | none : Plain .none
  | bool (truth : Bool) : Plain (.bool truth)
  | int {number : Int} (spelled : isSpelled number = true) : Plain (.int number)
  | float (site : Site) {number : Float} {negative : Bool} {magnitude : Decimal.Binary}
      (finite : Decimal.Real.ofFloat number = .finite negative magnitude) : Plain (.float site number)
  | str (text : String) : Plain (.str text)

/-- Values that can be written, with all that they are made of. -/
inductive Writable : Value → Prop where
  | plain {value : Value} (isPlain : Plain value) : Writable value
  | list (site : Site) {items : List Value} (each : ∀ item ∈ items, Writable item) :
      Writable (.list site items)
  | tuple (site : Site) {items : List Value} (each : ∀ item ∈ items, Writable item) :
      Writable (.tuple site items)
  | dict (site : Site) {entries : List (Value × Value)} (named : ∀ entry ∈ entries, Plain entry.1)
      (each : ∀ entry ∈ entries, Writable entry.2) : Writable (.dict site entries)

section Floats

open Decimal

variable {digits rest text : List Char}

theorem splitDigits_append (plain : ∀ char ∈ digits, char.isDigit = true)
    (ends : Text.StopsAt Char.isDigit rest) : splitDigits (digits ++ rest) = (digits, rest) := by
  rw [splitDigits, Text.takeWhile_stretch plain ends, Text.dropWhile_stretch plain ends]

theorem isSome_exponent? {power : List Char}
    (raised : power = [] ∨ ∃ sign digits, power = 'e' :: sign :: digits ∧ sign ∈ ['+', '-'] ∧
      AllDigits digits) : (exponent? power).isSome = true := by
  obtain rfl | ⟨sign, digits, rfl, isSign, written⟩ := raised
  · rfl
  · have digitsOnly : (!digits.isEmpty && digits.all Char.isDigit) = true := by
      simp only [Bool.and_eq_true, Bool.not_eq_true', List.isEmpty_eq_false_iff, List.all_eq_true]
      exact ⟨written.written, written.plain⟩
    simp only [List.mem_cons, List.not_mem_nil, or_false] at isSign
    obtain rfl | rfl := isSign <;> simp_all [exponent?]

theorem isSome_unsigned? (isNumber : IsNumber text) : (unsigned? text).isSome = true := by
  obtain ⟨whole, fraction, power, rfl, parts⟩ := isNumber
  have marked (mark : Char) (others : List Char) (apart : mark.isDigit = false) :
      ∀ char ∈ (mark :: others).head?, char.isDigit = false := by
    rintro char ⟨⟩
    exact apart
  have powerEnds : ∀ char ∈ power.head?, char.isDigit = false := by
    obtain rfl | ⟨sign, digits, rfl, -⟩ := parts.raised
    · simp
    · exact marked 'e' _ rfl
  have pointEnds : ∀ char ∈ (fraction ++ power).head?, char.isDigit = false := by
    obtain rfl | ⟨digits, rfl, -⟩ := parts.pointed
    · exact powerEnds
    · exact marked '.' _ rfl
  have led : (whole.isEmpty || whole.head? = some '0' && whole ≠ ['0']) = false := by
    have single := parts.led
    have written := parts.digits.written
    simpa [written] using single
  obtain ⟨exponent, raised⟩ := Option.isSome_iff_exists.mp (isSome_exponent? parts.raised)
  obtain ⟨behind, pointed⟩ : ∃ behind, fraction? (fraction ++ power) = some (behind, power) := by
    obtain rfl | ⟨digits, rfl, written⟩ := parts.pointed
    · refine ⟨[], ?_⟩
      rw [List.nil_append, fraction?.eq_def]
      split
      next rest =>
        obtain nothing | ⟨_, _, begins, -⟩ := parts.raised
        · exact nomatch nothing
        · exact nomatch begins
      next => rfl
    · refine ⟨digits, ?_⟩
      rw [List.cons_append, fraction?, splitDigits_append written.plain powerEnds]
      simp [written.written]
  simp only [unsigned?, splitDigits_append parts.digits.plain pointEnds, led]
  change (fraction? (fraction ++ power) >>= fun found => _).isSome = true
  rw [pointed]
  change (exponent? power >>= fun found => _).isSome = true
  rw [raised]
  rfl

theorem letters_of_isNumber (isNumber : IsNumber text) : text.all isLetter = true := by
  obtain ⟨whole, fraction, power, rfl, parts⟩ := isNumber
  have letters {digits : List Char} (written : AllDigits digits) : digits.all isLetter = true :=
    List.all_eq_true.mpr fun char member => isLetter_of_isDigit (written.plain char member)
  rw [List.all_append, List.all_append, letters parts.digits, Bool.true_and, Bool.and_eq_true]
  constructor
  · obtain rfl | ⟨digits, rfl, written⟩ := parts.pointed
    · rfl
    · rw [List.all_cons, letters written]
      rfl
  · obtain rfl | ⟨sign, digits, rfl, isSign, written⟩ := parts.raised
    · rfl
    · simp only [List.mem_cons, List.not_mem_nil, or_false] at isSign
      rw [List.all_cons, List.all_cons, letters written]
      obtain rfl | rfl := isSign <;> rfl

theorem exists_number? (negative : Bool) (isNumber : IsNumber text) :
    ∃ number, number? ((if negative then ['-'] else []) ++ text) = some number := by
  obtain ⟨found, unsigned⟩ := Option.isSome_iff_exists.mp (isSome_unsigned? isNumber)
  cases negative with
  | true => exact ⟨_, by simp only [if_true, List.singleton_append, number?, unsigned]; rfl⟩
  | false =>
      -- A text that begins with a minus sign begins with no digit.
      have first : ∀ rest, text ≠ '-' :: rest := by
        rintro rest rfl
        obtain ⟨whole, fraction, power, same, parts⟩ := isNumber
        obtain ⟨char, others, rfl⟩ := List.exists_cons_of_ne_nil parts.digits.written
        cases same
        exact absurd (parts.digits.plain '-' List.mem_cons_self) (by decide)
      simp only [Bool.false_eq_true, if_false, List.nil_append]
      rw [number?.eq_def]
      split
      next rest => exact absurd rfl (first rest)
      next => exact ⟨_, by rw [unsigned]; rfl⟩

theorem exists_reads_render {number : Float} {negative : Bool} {magnitude : Binary}
    (finite : Real.ofFloat number = .finite negative magnitude) :
    ∃ data, Reader.Reads (render number).toList data := by
  obtain ⟨text, isNumber, written⟩ := exists_of_render finite
  obtain ⟨value, known⟩ := exists_number? negative isNumber
  refine ⟨.number value, ?_⟩
  rw [written]
  refine Reader.reads_word ?_ (by rw [word?, known])
  rw [List.all_append, letters_of_isNumber isNumber, Bool.and_true]
  cases negative <;> rfl

end Floats

variable {value : Value} {text : Text} {body : String}

section Names

theorem exists_name (isPlain : Plain value) : ∃ text : String, name value = .ok (.whole text) := by
  cases isPlain with
  | none | bool | str => exact ⟨_, rfl⟩
  | int spelled => exact ⟨_, by rw [name, integer, if_pos spelled]⟩
  | float site finite => exact ⟨_, by rw [name, number, finite]⟩

theorem spelled_of_integer {number : Int} (written : integer number = .ok text) :
    isSpelled number = true := by
  unfold integer at written
  split at written
  next spelled => exact spelled
  next => exact nomatch written

theorem finite_of_number {real : Float} (written : number real = .ok text) :
    ∃ negative magnitude, Decimal.Real.ofFloat real = .finite negative magnitude := by
  unfold number at written
  split at written
  next negative magnitude finite => exact ⟨negative, magnitude, finite⟩
  next => exact nomatch written

theorem plain_of_name (named : name value = .ok (.whole body)) : Plain value := by
  cases value with
  | none => exact .none
  | bool truth => exact .bool truth
  | int number => exact .int (spelled_of_integer named)
  | float site real =>
      obtain ⟨_, _, finite⟩ := finite_of_number named
      exact .float site finite
  | str text =>
      cases named
      exact .str body
  | _ => exact nomatch named

end Names

section Written

/-- Where a value may come, its text is one that is read as some data. -/
def Legible (value : Value) : Prop :=
  ∃ text data, write value = .ok text ∧ Intact (Reader.Reads · data) text

theorem legible_of_plain (isPlain : Plain value) : Legible value := by
  cases isPlain with
  | none => exact ⟨_, .null, rfl, _, rfl, Reader.reads_word (by decide) rfl⟩
  | bool truth =>
      cases truth with
      | true => exact ⟨_, .bool true, rfl, _, rfl, Reader.reads_word (by decide) rfl⟩
      | false => exact ⟨_, .bool false, rfl, _, rfl, Reader.reads_word (by decide) rfl⟩
  | @int number spelled =>
      have written : write (.int number) = .ok (.whole (toString number)) := by
        rw [write, integer, if_pos spelled]
      exact ⟨_, _, written, _, rfl, reads_toString number⟩
  | @float site number _ _ finite =>
      obtain ⟨data, reads⟩ := exists_reads_render finite
      have written : write (.float site number) = .ok (.whole (Decimal.render number)) := by
        rw [write, Json.number, finite]
      exact ⟨_, data, written, _, rfl, reads⟩
  | str text => exact ⟨_, .text text, rfl, intact_string text⟩

theorem exists_writeItems {items : List Value} (each : ∀ item ∈ items, Legible item) :
    ∃ texts datas, writeItems items = .ok texts ∧
      List.Forall₂ (fun text data => Intact (Reader.Reads · data) text) texts datas := by
  induction items with
  | nil => exact ⟨[], [], rfl, .nil⟩
  | cons item items ih =>
      obtain ⟨⟨text, data, written, reads⟩, others⟩ := List.forall_mem_cons.mp each
      obtain ⟨texts, datas, restWritten, rest⟩ := ih others
      exact ⟨text :: texts, data :: datas, by rw [writeItems, written, restWritten]; rfl,
        .cons reads rest⟩

theorem exists_writeEntries {entries : List (Value × Value)}
    (named : ∀ entry ∈ entries, Plain entry.1) (each : ∀ entry ∈ entries, Legible entry.2) :
    ∃ texts members, writeEntries entries = .ok texts ∧
      List.Forall₂ (fun text entry => Intact (Reader.ReadsMember · entry) text) texts members := by
  induction entries with
  | nil => exact ⟨[], [], rfl, .nil⟩
  | cons entry entries ih =>
      obtain ⟨isPlain, plains⟩ := List.forall_mem_cons.mp named
      obtain ⟨⟨text, data, written, reads⟩, others⟩ := List.forall_mem_cons.mp each
      obtain ⟨key, keyWritten⟩ := exists_name isPlain
      obtain ⟨texts, members, restWritten, rest⟩ := ih plains others
      exact ⟨member key text :: texts, (key, data) :: members,
        by rw [writeEntries, keyWritten, written, restWritten]; rfl, .cons (intact_member reads) rest⟩

theorem legible_of_writable (writable : Writable value) : Legible value := by
  induction writable with
  | plain isPlain => exact legible_of_plain isPlain
  | list site each ih =>
      obtain ⟨texts, datas, written, reads⟩ := exists_writeItems ih
      exact ⟨_, .array datas, by rw [write, written]; rfl, intact_array reads⟩
  | tuple site each ih =>
      obtain ⟨texts, datas, written, reads⟩ := exists_writeItems ih
      exact ⟨_, .array datas, by rw [write, written]; rfl, intact_array reads⟩
  | dict site named each ih =>
      obtain ⟨texts, members, written, reads⟩ := exists_writeEntries named ih
      exact ⟨_, .object members, by rw [write, written]; rfl, intact_object reads⟩

theorem isWhole_of_string (same : string text = .whole body) : text.IsWhole := by
  cases text with
  | whole text => exact ⟨text, rfl⟩
  | torn front half rest => exact nomatch same

/-- Where members are parted from each other there are no halves, if there are none at all. -/
theorem exists_of_enclosed {opening closing : String} {texts : List Text}
    (same : opening ++ Text.join "," texts ++ closing = Text.whole body) :
    ∃ bodies : List String, texts = bodies.map .whole := by
  obtain ⟨_, _, front, -, -⟩ := Text.append_eq_whole.mp same
  obtain ⟨_, _, -, middle, -⟩ := Text.append_eq_whole.mp front
  exact Text.exists_of_join_eq_whole middle

theorem isWhole_of_enclosed {opening closing : String} {texts : List Text}
    (same : opening ++ Text.join "," texts ++ closing = Text.whole body) :
    ∀ text ∈ texts, text.IsWhole := by
  obtain ⟨bodies, rfl⟩ := exists_of_enclosed same
  exact List.forall_mem_map.mpr fun body _ => ⟨body, rfl⟩

theorem isWhole_of_member {key : Text} (same : member key text = .whole body) :
    key.IsWhole ∧ text.IsWhole := by
  obtain ⟨_, back, front, isBack, -⟩ := Text.append_eq_whole.mp same
  obtain ⟨_, _, named, -, -⟩ := Text.append_eq_whole.mp front
  exact ⟨isWhole_of_string named, back, isBack⟩

theorem writable_of_single (list : ∀ site items, value ≠ .list site items)
    (tuple : ∀ site items, value ≠ .tuple site items)
    (dict : ∀ site entries, value ≠ .dict site entries)
    (written : write value = .ok (.whole body)) : Writable value := by
  cases value with
  | none => exact .plain .none
  | bool truth => exact .plain (.bool truth)
  | int number =>
      rw [write] at written
      exact .plain (.int (spelled_of_integer written))
  | float site real =>
      rw [write] at written
      obtain ⟨_, _, finite⟩ := finite_of_number written
      exact .plain (.float site finite)
  | str text =>
      obtain ⟨text, rfl⟩ := isWhole_of_string (Except.ok.inj written)
      exact .plain (.str text)
  | list site items => exact absurd rfl (list site items)
  | tuple site items => exact absurd rfl (tuple site items)
  | dict site entries => exact absurd rfl (dict site entries)
  | _ => cases written

mutual

/-- What was written without halves of characters has no part that stands against it. -/
theorem writable_of_write : ∀ (value : Value) (body : String), write value = .ok (.whole body) →
    Writable value
  | .list site items => by
      intro body written
      obtain ⟨texts, each, same⟩ := Attempt.map_eq_ok.mp written
      obtain ⟨bodies, rfl⟩ := exists_of_enclosed same
      exact .list site (writable_of_writeItems items bodies each)
  | .tuple site items => by
      intro body written
      obtain ⟨texts, each, same⟩ := Attempt.map_eq_ok.mp written
      obtain ⟨bodies, rfl⟩ := exists_of_enclosed same
      exact .tuple site (writable_of_writeItems items bodies each)
  | .dict site entries => by
      intro body written
      obtain ⟨texts, each, same⟩ := Attempt.map_eq_ok.mp written
      obtain ⟨bodies, rfl⟩ := exists_of_enclosed same
      have writable := writable_of_writeEntries entries bodies each
      exact .dict site (fun entry member => (writable entry member).1)
        fun entry member => (writable entry member).2
  | .none | .bool _ | .int _ | .float .. | .str _ | .bytes _ | .type _ | .result .. | .context ..
  | .guard _ | .post _ | .exception _ | .callable _ | .request _ | .outcome .. | .resolver ..
  | .routine .. | .method _ | .bound .. | .instance .. | .pending _ =>
      fun _ => writable_of_single nofun nofun nofun
termination_by structural value => value

theorem writable_of_writeItems : ∀ (items : List Value) (bodies : List String),
    writeItems items = .ok (bodies.map .whole) → ∀ item ∈ items, Writable item
  | [], _, _ => List.forall_mem_nil _
  | item :: items, bodies, written => by
      obtain ⟨first, firstWritten, written⟩ := Attempt.bind_eq_ok.mp written
      obtain ⟨rest, restWritten, same⟩ := Attempt.bind_eq_ok.mp written
      obtain ⟨body, bodies, rfl, rfl, rfl⟩ := List.map_eq_cons_iff.mp (Except.ok.inj same).symm
      exact List.forall_mem_cons.mpr
        ⟨writable_of_write item body firstWritten, writable_of_writeItems items bodies restWritten⟩
termination_by structural items => items

theorem writable_of_writeEntries : ∀ (entries : List (Value × Value)) (bodies : List String),
    writeEntries entries = .ok (bodies.map .whole) →
      ∀ entry ∈ entries, Plain entry.1 ∧ Writable entry.2
  | [], _, _ => List.forall_mem_nil _
  | (key, value) :: entries, bodies, written => by
      obtain ⟨named, keyWritten, written⟩ := Attempt.bind_eq_ok.mp written
      obtain ⟨first, firstWritten, written⟩ := Attempt.bind_eq_ok.mp written
      obtain ⟨rest, restWritten, same⟩ := Attempt.bind_eq_ok.mp written
      obtain ⟨body, bodies, rfl, joined, rfl⟩ := List.map_eq_cons_iff.mp (Except.ok.inj same).symm
      obtain ⟨⟨name, rfl⟩, text, rfl⟩ := isWhole_of_member joined.symm
      exact List.forall_mem_cons.mpr
        ⟨⟨plain_of_name keyWritten, writable_of_write value text firstWritten⟩,
          writable_of_writeEntries entries bodies restWritten⟩
termination_by structural entries => entries

end

/-- What was written and can be sent is read as some data. -/
theorem exists_reads_of_write (written : write value = .ok (.whole body)) :
    ∃ data, Reader.Reads body.toList data := by
  obtain ⟨text, data, same, intact, rfl, reads⟩ :=
    legible_of_writable (writable_of_write value body written)
  cases written.symm.trans same
  exact ⟨data, reads⟩

/-- A value can be written and sent if and only if none of its parts stands against it. -/
theorem exists_write_iff : (∃ body : String, write value = .ok (.whole body)) ↔ Writable value := by
  constructor
  · exact fun ⟨body, written⟩ => writable_of_write value body written
  · intro writable
    obtain ⟨text, data, written, body, rfl, -⟩ := legible_of_writable writable
    exact ⟨body, written⟩

end Written

end GuardAlgebra.Json
