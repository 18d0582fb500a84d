import GuardAlgebra.Call.Routine
import GuardAlgebra.Proofs.Leaves
import Mathlib.Data.List.Forall2

namespace GuardAlgebra

/-! # Telling of denials

What is done about a denial can be put aside: a run can keep every denial that it meets as it is, in the
place of a record. The log retells such a run. It leaves the denials out, or puts them into words, which
ends the run if one cannot be said; and there is no other difference between what is kept and what is
told, however deep calls are nested.
-/

/-- A denial before it is put into words, with what is known by then of the field or of the request. -/
inductive Denial where
  | field (name : Except Fault Value) (stage error : Value)
  | request (line : RequestLine) (error : Value)

namespace Denial

/-- The record of a denial, where all that it tells of can be put into words. -/
def words (facts : Facts) : Denial → Except Fault Record
  | .field name stage error => do Resolver.denialRecord facts (← name) stage error
  | .request line error => Admission.denialRecord facts line error

/-- A record that holds a denial as it is. -/
def note : Denial → Record
  | .field name stage error =>
      { logger := Resolver.loggerName
        message := ""
        extra := (name.toOption.map ("field", ·)).toList ++ [("stage", stage), ("error", error)] }
  | .request line error =>
      { logger := Admission.loggerName
        message := ""
        extra := (line.path.toOption.map ("path", ·)).toList ++
          (line.method.toOption.map ("method", ·)).toList ++ [("error", error)] }

/-- What is kept of a denial says how it is put into words, if it can be. -/
theorem words_of_note {facts : Facts} {denial other : Denial} {record : Record}
    (words : denial.words facts = .ok record) (same : other.note = denial.note) :
    other.words facts = .ok record := by
  have loggers : Resolver.loggerName ≠ Admission.loggerName := by decide
  cases denial with
  | field name stage error =>
      obtain ⟨name, rfl, -⟩ := Attempt.bind_eq_ok.mp words
      cases other with
      | request line error => exact absurd (congrArg Record.logger same).symm loggers
      | field given _ _ =>
          cases given with
          | error fault => simp [note, Except.toOption] at same
          | ok given =>
              cases same
              exact words
  | request line error =>
      obtain ⟨method, url, path⟩ := line
      obtain ⟨_, rfl, telling⟩ := Attempt.bind_eq_ok.mp words
      obtain ⟨_, -, telling⟩ := Attempt.bind_eq_ok.mp telling
      obtain ⟨_, spoken, -⟩ := Attempt.bind_eq_ok.mp telling
      obtain ⟨_, rfl, -⟩ := Attempt.bind_eq_ok.mp spoken
      cases other with
      | field name stage error => exact absurd (congrArg Record.logger same) loggers
      | request given _ =>
          obtain ⟨givenMethod, givenUrl, givenPath⟩ := given
          -- What is kept of a request that can be told of has its path and its method.
          cases givenMethod <;> cases givenPath <;> simp [note, Except.toOption] at same
          obtain ⟨rfl, rfl, rfl⟩ := same
          exact words

end Denial

abbrev Teller : Type := Denial → Site → Run Unit

namespace Teller

/-- Keeps a denial as it is. -/
def keeping : Teller := fun denial _ => .record denial.note

/-- Puts a denial into words for the log, where the settings ask for it. -/
def logging (facts : Facts) (logDenials : Value) : Teller := fun denial site =>
  Surroundings.note logDenials site (.ofExcept site (denial.words facts))

end Teller

namespace Surroundings

variable (around : Surroundings) (tell : Teller)

/-- Tells of a denial, unless something stands in the place of that. -/
def tellDenial (resolver : Resolver) (stage error : Value) (site : Site) : Run Unit := do
  match ← .ofExcept site resolver.listener with
  | none => tell (.field resolver.field stage error) site
  | some listener =>
      let _ ← around.call listener ⟨[stage, error], []⟩ site

/-- Resolves a field for a context, and tells of denials. -/
def resolveTelling (resolver : Resolver) (context function : Value) (arguments : Arguments)
    (site : Site) : Run Value := do
  let field : Run Value := .ofExcept site resolver.field
  let before ← .ofExcept site resolver.before
  match ← around.denial? before [context] (site.child 0) with
  | some error =>
      around.tellDenial tell resolver (.str "guard") error (site.child 4)
      return .deniedBefore site (← field) error
  | none =>
      let answer ← around.call function arguments (site.child 1)
      let value ← answer.await (site.child 2)
      let after ← .ofExcept site resolver.after
      match ← around.denial? after [context, value] (site.child 3) with
      | some error =>
          around.tellDenial tell resolver (.str "post_guard") error (site.child 4)
          return .deniedAfter site (← field) error
      | none => return .released site (← field) value

theorem note_after {logDenials : Value} {site : Site} {α : Type} (found : Except Fault α)
    (record : α → Except Fault Record) :
    (note logDenials site do let value ← .ofExcept site found; .ofExcept site (record value)) =
      note logDenials site (.ofExcept site (found >>= record)) := by
  cases found <;> rfl

theorem tellDenial_logging (around : Surroundings) (logDenials : Value) (resolver : Resolver)
    (stage error : Value) (site : Site) :
    around.tellDenial (.logging around.facts logDenials) resolver stage error site =
      around.reportDenial logDenials resolver stage error site := by
  have told : Teller.logging around.facts logDenials (.field resolver.field stage error) site =
      around.noteDenial logDenials resolver stage error site := (note_after _ _).symm
  rw [tellDenial, told]
  rfl

theorem resolveTelling_logging (around : Surroundings) (logDenials : Value) (resolver : Resolver)
    (context function : Value) (arguments : Arguments) (site : Site) :
    around.resolveTelling (.logging around.facts logDenials) resolver context function arguments
        site = around.resolve logDenials resolver context function arguments site := by
  simp only [resolveTelling, tellDenial_logging]
  rfl

end Surroundings

/-- Gives the context of a request that a guard allows, and tells of denials. -/
def Admission.admissionTelling (around : Surroundings) (tell : Teller) (configuration : Configuration)
    (guard : Guard) (factory : Option Value) (request : Value) (site : Site) : Run Value := do
  let context ← context around factory request (site.child 0)
  match ← around.denial? (.guard guard) [context] (site.child 1) with
  | none => pure context
  | some error =>
      tell (.request (around.facts.requestLine request) error) site
      .raised (refusal around.facts configuration error site)

theorem Admission.admissionTelling_logging (around : Surroundings) (configuration : Configuration)
    (guard : Guard) (factory : Option Value) (request : Value) (site : Site) :
    admissionTelling around (.logging around.facts configuration.logDenials) configuration guard
        factory request site =
      admission around configuration guard factory request site := rfl

/-- A run that keeps its denials, and the same run as it is told with the log on or off. The two are
told apart by their records alone, up to a denial that cannot be put into words. -/
inductive Run.Retells (facts : Facts) (logs : Bool) {α β : Type} (related : α → β → Prop) :
    Run α → Run β → Prop where
  | done {value : α} {given : β} (same : related value given) :
      Retells facts logs related (.done value) (.done given)
  | raised (cause : Exception) : Retells facts logs related (.raised cause) (.raised cause)
  | invoked (name : String) (arguments : Arguments) {kept : Run α} {told : Run β}
      (rest : Retells facts logs related kept told) :
      Retells facts logs related (.emit (.invoked name arguments) kept)
        (.emit (.invoked name arguments) told)
  | pause {kept : Run α} {told : Run β} (rest : Retells facts logs related kept told) :
      Retells facts logs related (.pause kept) (.pause told)
  | hushed (denial : Denial) {kept : Run α} {told : Run β} (off : logs = false)
      (rest : Retells facts logs related kept told) :
      Retells facts logs related (.emit (.logged denial.note) kept) told
  | worded {denial : Denial} {record : Record} {kept : Run α} {told : Run β} (on : logs = true)
      (words : denial.words facts = .ok record) (rest : Retells facts logs related kept told) :
      Retells facts logs related (.emit (.logged denial.note) kept) (.emit (.logged record) told)
  | wordless {denial : Denial} {fault : Fault} (kept : Run α) (told : Run β) (on : logs = true)
      (words : denial.words facts = .error fault) :
      Retells facts logs related (.emit (.logged denial.note) kept) told

/-- An answer that is retold, also where it is still to be waited for. -/
inductive Answer.Retells (facts : Facts) (logs : Bool) : Answer → Answer → Prop where
  | now (value : Value) : Retells facts logs (.now value) (.now value)
  | later {kept told : Run Value} (rest : Run.Retells facts logs (· = ·) kept told) :
      Retells facts logs (.later kept) (.later told)

def Call.Retells (facts : Facts) (logs : Bool) (kept told : Call) : Prop :=
  ∀ value arguments site,
    Run.Retells facts logs (Answer.Retells facts logs) (kept value arguments site)
      (told value arguments site)

namespace Run

variable {facts : Facts} {logs : Bool} {α β γ δ : Type} {related : α → β → Prop}
  {follow : γ → δ → Prop} {kept : Run α} {told : Run β} {site : Site}

theorem Retells.bind {next : α → Run γ} {last : β → Run δ} (first : Retells facts logs related kept told)
    (goesOn : ∀ value given, related value given →
      Retells facts logs follow (next value) (last given)) :
    Retells facts logs follow (kept >>= next) (told >>= last) := by
  induction first with
  | done same => exact goesOn _ _ same
  | raised cause => exact .raised cause
  | invoked name arguments rest ih => exact .invoked name arguments ih
  | pause rest ih => exact .pause ih
  | hushed denial off rest ih => exact .hushed denial off ih
  | worded on words rest ih => exact .worded on words ih
  | wordless kept told on words => exact .wordless _ _ on words

theorem Retells.andThen {other : Run α} {next : α → Run γ} {last : α → Run δ}
    (first : Retells facts logs (· = ·) kept other)
    (goesOn : ∀ value, Retells facts logs follow (next value) (last value)) :
    Retells facts logs follow (kept >>= next) (other >>= last) :=
  first.bind fun value _ same => same ▸ goesOn value

theorem retells_pure (value : α) : Retells facts logs (· = ·) (pure value : Run α) (pure value) :=
  .done rfl

theorem retells_ofAttempt (attempt : Attempt α) :
    Retells facts logs (· = ·) (ofAttempt attempt) (ofAttempt attempt) := by
  cases attempt with
  | ok value => exact .done rfl
  | error cause => exact .raised cause

theorem retells_ofExcept (site : Site) (outcome : Except Fault α) :
    Retells facts logs (· = ·) (ofExcept site outcome) (ofExcept site outcome) :=
  retells_ofAttempt _

theorem retells_invoke (name : String) (arguments : Arguments) :
    Retells facts logs (· = ·) (invoke name arguments) (invoke name arguments) :=
  .invoked name arguments (.done rfl)

theorem Retells.pauses (count : Nat) (rest : Retells facts logs related kept told) :
    Retells facts logs related (Run.pauses count kept) (Run.pauses count told) := by
  induction count with
  | zero => exact rest
  | succ count ih => exact .pause ih

/-- What is logged about a denial retells that it is kept. -/
theorem retells_logging (facts : Facts) (logs : Bool) (denial : Denial) (site : Site) :
    Retells facts logs (· = ·) (Teller.keeping denial site)
      (Teller.logging facts (.bool logs) denial site) := by
  cases logs with
  | false => exact .hushed denial rfl (.done rfl)
  | true =>
      cases words : denial.words facts with
      | error fault => exact .wordless _ _ rfl words
      | ok record =>
          change Retells facts true _ _ (ofExcept site (denial.words facts) >>= Run.record)
          rw [words]
          exact .worded rfl words (.done rfl)

/-- All denials that a run keeps can be put into words. -/
def Sayable (facts : Facts) (kept : Run α) : Prop :=
  ∀ denial : Denial, denial.note ∈ kept.records → ∃ record, denial.words facts = .ok record

theorem sayable_of_words {denials : List Denial} (keeps : kept.records = denials.map Denial.note)
    (words : ∀ denial ∈ denials, ∃ record, denial.words facts = .ok record) : kept.Sayable facts := by
  intro denial member
  rw [keeps, List.mem_map] at member
  obtain ⟨other, member, same⟩ := member
  obtain ⟨record, said⟩ := words other member
  exact ⟨record, Denial.words_of_note said same.symm⟩

variable {other : Run α}

theorem Retells.hushed_eq (retells : Retells facts false (· = ·) kept other) :
    other.result = kept.result ∧ other.invocations = kept.invocations ∧ other.records = [] := by
  generalize off : false = logs at retells
  -- With the log off a denial that is kept stands beside nothing, and all else beside itself.
  induction retells with
  | done same => exact ⟨congrArg Except.ok same.symm, rfl, rfl⟩
  | raised cause => exact ⟨rfl, rfl, rfl⟩
  | invoked name arguments rest ih =>
      obtain ⟨result, invocations, records⟩ := ih
      exact ⟨result, congrArg ((name, arguments) :: ·) invocations, records⟩
  | pause rest ih => exact ih
  | hushed denial _ rest ih => exact ih
  | worded on | wordless _ _ on => exact nomatch off.trans on

theorem Retells.worded_eq (retells : Retells facts true (· = ·) kept other)
    (sayable : kept.Sayable facts) :
    other.result = kept.result ∧ other.invocations = kept.invocations ∧
      ∃ denials : List Denial, kept.records = denials.map Denial.note ∧
        List.Forall₂ (fun denial record => denial.words facts = .ok record) denials other.records := by
  generalize on : true = logs at retells
  induction retells with
  | done same => exact ⟨congrArg Except.ok same.symm, rfl, [], rfl, .nil⟩
  | raised cause => exact ⟨rfl, rfl, [], rfl, .nil⟩
  | invoked name arguments rest ih =>
      obtain ⟨result, invocations, denials⟩ := ih sayable
      exact ⟨result, congrArg ((name, arguments) :: ·) invocations, denials⟩
  | pause rest ih => exact ih sayable
  | hushed _ off => exact nomatch on.trans off
  | @worded denial record _ _ _ words rest ih =>
      obtain ⟨result, invocations, denials, kept, told⟩ := ih
        (fun other member => sayable other (List.mem_cons_of_mem _ member))
      exact ⟨result, invocations, denial :: denials, congrArg (denial.note :: ·) kept, .cons words told⟩
  | wordless _ _ _ words =>
      -- Only here could the runs part, over a denial that is kept and cannot be said.
      obtain ⟨record, said⟩ := sayable _ List.mem_cons_self
      exact nomatch words.symm.trans said

end Run

section Around

open Run

variable {facts : Facts} {logs : Bool} {call other : Call} {site : Site}

namespace Answer

variable {answer given : Answer}

theorem Retells.settle (answers : answer.Retells facts logs given) :
    Run.Retells facts logs (· = ·) answer.settle given.settle := by
  cases answers with
  | now value => exact .done rfl
  | later rest => exact rest

theorem Retells.await (answers : answer.Retells facts logs given) :
    Run.Retells facts logs (· = ·) (answer.await site) (given.await site) := by
  cases answers with
  | now value => exact .raised _
  | later rest => exact rest

theorem Retells.unawaited_eq (answers : answer.Retells facts logs given) :
    answer.unawaited site = given.unawaited site := by
  cases answers <;> rfl

theorem retells_now (attempt : Attempt Value) :
    Run.Retells facts logs (Answer.Retells facts logs)
      (Run.ofAttempt attempt >>= fun value => pure (.now value))
      (Run.ofAttempt attempt >>= fun value => pure (.now value)) :=
  (retells_ofAttempt attempt).andThen fun value => .done (.now value)

end Answer

namespace Surroundings

variable (calls : Call.Retells facts logs call other)

include calls

theorem retells_ask (object : Value) (name : String) (arguments : Arguments) (site : Site) :
    Run.Retells facts logs (Answer.Retells facts logs)
      (Surroundings.ask ⟨facts, call⟩ object name arguments site)
      (Surroundings.ask ⟨facts, other⟩ object name arguments site) :=
  (retells_ofExcept _ _).andThen fun function => calls function arguments site

theorem retells_demand (object : Value) (name : String) (arguments : List Value) (site : Site) :
    Run.Retells facts logs (· = ·) (Surroundings.demand ⟨facts, call⟩ object name arguments site)
      (Surroundings.demand ⟨facts, other⟩ object name arguments site) :=
  (retells_ask calls object name _ site).bind fun _ _ answers => .done answers.unawaited_eq

theorem retells_consult (function error : Value) (arguments : List Value) (site : Site) :
    Run.Retells facts logs (· = ·)
      (Surroundings.consult ⟨facts, call⟩ function error arguments site)
      (Surroundings.consult ⟨facts, other⟩ function error arguments site) :=
  (calls function _ _).bind fun _ _ answers =>
    answers.settle.andThen fun _ => retells_ofAttempt _

theorem retells_meet (first second : Value) (site : Site) :
    Run.Retells facts logs (· = ·) (Surroundings.meet ⟨facts, call⟩ first second site)
      (Surroundings.meet ⟨facts, other⟩ first second site) := by
  cases first with
  | result place allowed error => exact retells_ofAttempt _
  | _ => exact retells_demand calls _ "and_" _ site

theorem retells_join (first second : Value) (site : Site) :
    Run.Retells facts logs (· = ·) (Surroundings.join ⟨facts, call⟩ first second site)
      (Surroundings.join ⟨facts, other⟩ first second site) := by
  cases first with
  | result place allowed error => exact retells_ofAttempt _
  | _ => exact retells_demand calls _ "or_" _ site

theorem retells_checkBy (object : Value) (arguments : List Value) (site : Site) :
    Run.Retells facts logs (· = ·) (Surroundings.checkBy ⟨facts, call⟩ object arguments site)
      (Surroundings.checkBy ⟨facts, other⟩ object arguments site) :=
  (retells_ask calls object "check" _ _).bind fun _ _ answers => answers.await

omit calls in
theorem retells_leaf (leaf : Leaf) (arguments : List Value) (site : Site) :
    Run.Retells facts logs (· = ·) (leaf.check facts arguments site)
      (leaf.check facts arguments site) :=
  (retells_invoke _ _).andThen fun _ => (retells_ofAttempt _).pauses _

theorem retells_checkLeaf (object : Value) (leaf : Leaf) (arguments : List Value) (site : Site) :
    Run.Retells facts logs (· = ·) (Surroundings.checkLeaf ⟨facts, call⟩ object leaf arguments site)
      (Surroundings.checkLeaf ⟨facts, other⟩ object leaf arguments site) := by
  unfold Surroundings.checkLeaf
  dsimp only
  split
  · exact retells_leaf leaf arguments site
  · exact retells_checkBy calls object arguments site

/-- Checks of a tree tell of nothing themselves. -/
theorem retells_guard (context : Value) (tree : Guard) (site : Site) :
    Run.Retells facts logs (· = ·) (tree.check ⟨facts, call⟩ context site)
      (tree.check ⟨facts, other⟩ context site) := by
  induction tree using Guard.treeInduction generalizing site with
  | both place left right leftIH rightIH =>
      exact (leftIH _).andThen fun first => (rightIH _).andThen fun second =>
        retells_meet calls first second _
  | either place left right leftIH rightIH =>
      exact (leftIH _).andThen fun first => (rightIH _).andThen fun second =>
        retells_join calls first second _
  | leaf leaf isLeaf =>
      cases leaf with
      | both | either => exact nomatch isLeaf
      | allowAll | denyAll => exact .done rfl
      | function place callable error name => exact retells_consult calls callable error _ site
      | leaf place cls given => exact retells_checkLeaf calls _ given _ site

theorem retells_post (context value : Value) (tree : PostGuard) (site : Site) :
    Run.Retells facts logs (· = ·) (tree.check ⟨facts, call⟩ context value site)
      (tree.check ⟨facts, other⟩ context value site) := by
  induction tree using PostGuard.treeInduction generalizing site with
  | both place pin left right resultType leftIH rightIH =>
      refine (leftIH _).andThen fun first => (retells_ofAttempt _).andThen fun allows => ?_
      cases allows with
      | true => exact rightIH _
      | false => exact .done rfl
  | leaf leaf isLeaf =>
      cases leaf with
      | both => exact nomatch isLeaf
      | function place pin callable error resultType name =>
          exact retells_consult calls callable error _ site
      | leaf place cls kin pin given => exact retells_checkLeaf calls _ given _ site

theorem retells_check (guard : Value) (arguments : List Value) (site : Site) :
    Run.Retells facts logs (· = ·) (guard.check ⟨facts, call⟩ arguments site)
      (guard.check ⟨facts, other⟩ arguments site) := by
  unfold Value.check
  split
  · exact retells_guard calls _ _ site
  · exact retells_post calls _ _ _ site
  · exact retells_checkBy calls _ _ site

theorem retells_denial? (guard : Value) (arguments : List Value) (site : Site) :
    Run.Retells facts logs (· = ·) (Surroundings.denial? ⟨facts, call⟩ guard arguments site)
      (Surroundings.denial? ⟨facts, other⟩ guard arguments site) := by
  unfold Surroundings.denial?
  split
  · exact .done rfl
  · refine (retells_check calls _ _ _).andThen fun result =>
      (retells_ofAttempt _).andThen fun allows => ?_
    cases allows with
    | true => exact .done rfl
    | false => exact (retells_ofExcept _ _).andThen fun _ => .done rfl

/-- The check that a class brings along, of any object. -/
theorem retells_checkAs (cls : ClassId) (object : Value) (subjects : List Value) (site : Site) :
    Run.Retells facts logs (· = ·)
      (Surroundings.checkAs ⟨facts, call⟩ cls object subjects site)
      (Surroundings.checkAs ⟨facts, other⟩ cls object subjects site) := by
  have part (name : String) (place : Site) {next last : Value → Run Value}
      (goesOn : ∀ value, Run.Retells facts logs (· = ·) (next value) (last value)) :
      Run.Retells facts logs (· = ·)
        (Run.ofExcept site (facts.read object name) >>= fun inner =>
          inner.check ⟨facts, call⟩ subjects place >>= next)
        (Run.ofExcept site (facts.read object name) >>= fun inner =>
          inner.check ⟨facts, other⟩ subjects place >>= last) :=
    (retells_ofExcept _ _).andThen fun inner =>
      (retells_check calls inner subjects place).andThen goesOn
  unfold Surroundings.checkAs
  dsimp only
  split
  · exact .done rfl
  · exact (retells_ofExcept _ _).andThen fun _ => .done rfl
  · exact part _ _ fun first => part _ _ fun second => retells_meet calls first second _
  · exact part _ _ fun first => part _ _ fun second => retells_join calls first second _
  · refine part _ _ fun first => (retells_ofAttempt _).andThen fun allows => ?_
    cases allows with
    | true => exact (retells_ofExcept _ _).andThen fun right => retells_check calls right _ _
    | false => exact .done rfl
  -- Function guards and function post guards take their parts in the same order.
  iterate 2
    · exact (retells_ofExcept _ _).andThen fun function =>
        (calls function _ _).bind fun _ _ answers => answers.settle.andThen fun reply =>
          (retells_ofExcept _ _).andThen fun error => retells_ofAttempt _
  · split
    · split
      · exact retells_leaf _ _ _
      · exact retells_leaf _ _ _
      · exact .raised _
    · exact .done rfl

theorem retells_requestContext (request : Value) (site : Site) :
    Run.Retells facts logs (· = ·) (Surroundings.requestContext ⟨facts, call⟩ site request)
      (Surroundings.requestContext ⟨facts, other⟩ site request) := by
  unfold Surroundings.requestContext
  split
  · exact retells_ofAttempt _
  · refine (retells_ofExcept _ _).andThen fun state => (retells_ofExcept _ _).andThen fun user =>
      (retells_ofExcept _ _).andThen fun parameters =>
        (retells_demand calls _ _ _ _).andThen fun found => ?_
    have converts (organization : Value) : Run.Retells facts logs (· = ·)
        (Run.ofExcept site organization.integer?) (Run.ofExcept site organization.integer?) :=
      retells_ofExcept _ _
    have made (organization : Value) := (converts organization).andThen fun number =>
      (retells_ofExcept site parameters.asEntries).andThen fun extra => retells_pure
        (Value.context site request user ((number.map Value.int).getD .none) (.dict (site.child 0) extra))
    -- An organization that the path leaves out is asked of the query.
    cases found with
    | none =>
        exact (retells_ofExcept _ _).andThen fun query => (retells_demand calls _ _ _ _).andThen made
    | _ => exact made _

theorem retells_context (factory : Option Value) (request : Value) (site : Site) :
    Run.Retells facts logs (· = ·) (Admission.context ⟨facts, call⟩ factory request site)
      (Admission.context ⟨facts, other⟩ factory request site) := by
  cases factory with
  | none => exact retells_requestContext calls request site
  | some factory => exact (calls _ _ _).bind fun _ _ answers => .done answers.unawaited_eq

theorem retells_holds (test : Test) (context value : Value) (site : Site) :
    Run.Retells facts logs (· = ·) (test.holds ⟨facts, call⟩ site context value)
      (test.holds ⟨facts, other⟩ site context value) := by
  cases test with
  | authenticated | contextIs | above | shorter | truthy => exact retells_ofExcept _ _
  | organization expected =>
      exact (retells_ofExcept _ _).andThen fun organization => retells_ofExcept _ _
  | user key expected =>
      refine (retells_ofExcept _ _).andThen fun user => ?_
      cases user with
      | none => exact .done rfl
      | _ => exact (retells_demand calls _ _ _ _).andThen fun found => retells_ofExcept _ _
  | extra key expected =>
      exact (retells_demand calls _ _ _ _).andThen fun found => retells_ofExcept _ _
  | owner =>
      exact (retells_ofAttempt _).andThen fun owner => (retells_ofExcept _ _).andThen fun user =>
        (retells_ofAttempt _).andThen fun id => retells_ofExcept _ _

theorem retells_outcome (function : Callable) (arguments : Arguments) (site : Site) :
    Run.Retells facts logs (· = ·) (function.outcome ⟨facts, call⟩ arguments site)
      (function.outcome ⟨facts, other⟩ arguments site) := by
  unfold Callable.outcome
  split
  · exact retells_ofAttempt _
  · split
    · exact .done rfl
    · exact .raised _
  · exact .done rfl
  · split
    · exact retells_holds calls _ _ _ site
    · exact retells_holds calls _ _ _ site
    · exact .raised _

theorem retells_callable (function : Callable) (arguments : Arguments) (site : Site) :
    Run.Retells facts logs (Answer.Retells facts logs)
      (function.call ⟨facts, call⟩ arguments site) (function.call ⟨facts, other⟩ arguments site) := by
  have outcome := retells_outcome calls function arguments site
  refine (retells_invoke _ _).andThen fun _ => ?_
  split
  · exact outcome.andThen fun value => .done (.now value)
  · exact .done (.later (outcome.pauses _))
  · exact .done (.later (outcome.pauses _))
  · exact .done (.later ((Retells.done rfl).pauses _))

theorem retells_callCheck (cls : ClassId) (arguments : Arguments) (site : Site) :
    Run.Retells facts logs (Answer.Retells facts logs)
      (Surroundings.callCheck ⟨facts, call⟩ cls arguments site)
      (Surroundings.callCheck ⟨facts, other⟩ cls arguments site) := by
  unfold Surroundings.callCheck
  dsimp only
  generalize arguments.bind? _ = bound
  split
  · exact .done (.later (retells_checkAs calls cls _ _ site))
  · exact .raised _

theorem retells_callGet (method : Method) (arguments : Arguments) (site : Site) :
    Run.Retells facts logs (Answer.Retells facts logs)
      (Surroundings.callGet ⟨facts, call⟩ method arguments site)
      (Surroundings.callGet ⟨facts, other⟩ method arguments site) := by
  unfold Surroundings.callGet
  split
  · exact (retells_ofExcept _ _).andThen fun extra => retells_ask calls extra "get" _ site
  · split
    · exact .raised _
    · exact Answer.retells_now _
  · exact .raised _

/-- Methods that have no denials to tell of. -/
theorem retells_callMethod {method : Method} (isNotResolve : method ≠ .resolve)
    (isNotLog : method ≠ .logDenial) (logDenials others : Value) (arguments : Arguments)
    (site : Site) :
    Run.Retells facts logs (Answer.Retells facts logs)
      (Surroundings.callMethod ⟨facts, call⟩ logDenials method arguments site)
      (Surroundings.callMethod ⟨facts, other⟩ others method arguments site) := by
  unfold Surroundings.callMethod
  dsimp only
  split
  · exact retells_callCheck calls _ arguments site
  · exact absurd rfl isNotResolve
  · exact retells_callGet calls _ arguments site
  · exact retells_callGet calls _ arguments site
  any_goals exact Answer.retells_now _
  · exact .done (.now _)
  · exact .done (.now _)
  · exact absurd rfl isNotLog
  · exact .raised _

theorem retells_callGuarded (resolver function : Value) (name : Text) (arguments : Arguments)
    (site : Site) :
    Run.Retells facts logs (Answer.Retells facts logs)
      (Scene.callGuarded ⟨facts, call⟩ resolver function name arguments site)
      (Scene.callGuarded ⟨facts, other⟩ resolver function name arguments site) := by
  unfold Scene.callGuarded
  split
  · refine .done (.later ?_)
    exact (retells_ask calls _ _ _ _).bind fun _ _ answers => answers.await
  · exact .raised _

theorem retells_tellDenial (resolver : Resolver) (stage error : Value) (site : Site) :
    Run.Retells facts logs (· = ·)
      (Surroundings.tellDenial ⟨facts, call⟩ .keeping resolver stage error site)
      (Surroundings.tellDenial ⟨facts, other⟩ (.logging facts (.bool logs)) resolver stage error
        site) := by
  refine (retells_ofExcept _ _).andThen fun listener => ?_
  cases listener with
  | none => exact retells_logging facts logs _ site
  | some listener => exact (calls listener _ site).bind fun _ _ _ => .done rfl

theorem retells_resolve (resolver : Resolver) (context function : Value) (arguments : Arguments)
    (site : Site) :
    Run.Retells facts logs (· = ·)
      (Surroundings.resolveTelling ⟨facts, call⟩ .keeping resolver context function arguments site)
      (Surroundings.resolveTelling ⟨facts, other⟩ (.logging facts (.bool logs)) resolver context
        function arguments site) := by
  have refused (stage error : Value) (outcome : Value → Value) :=
    (retells_tellDenial calls resolver stage error (site.child 4)).andThen fun _ =>
      (retells_ofExcept site resolver.field).andThen fun field => retells_pure (outcome field)
  refine (retells_ofExcept _ _).andThen fun before =>
    (retells_denial? calls before _ _).andThen fun denied => ?_
  cases denied with
  | some error => exact refused _ error _
  | none =>
      refine (calls function _ _).bind fun _ _ answers => answers.await.andThen fun value =>
        (retells_ofExcept _ _).andThen fun after =>
          (retells_denial? calls after _ _).andThen fun denied => ?_
      cases denied with
      | some error => exact refused _ error _
      | none => exact (retells_ofExcept _ _).andThen fun field => .done rfl

theorem retells_admission (configuration : Configuration) (guard : Guard) (factory : Option Value)
    (request : Value) (site : Site) :
    Run.Retells facts logs (· = ·)
      (Admission.admissionTelling ⟨facts, call⟩ .keeping configuration guard factory request site)
      (Admission.admissionTelling ⟨facts, other⟩ (.logging facts (.bool logs)) configuration guard
        factory request site) := by
  refine (retells_context calls factory request _).andThen fun context =>
    (retells_denial? calls _ _ _).andThen fun denied => ?_
  cases denied with
  | none => exact .done rfl
  | some error => exact (retells_logging facts logs _ site).andThen fun _ => .raised _

end Surroundings

end Around

end GuardAlgebra
