import GuardAlgebra.Call.Operator
import GuardAlgebra.Proofs.Eagerness
import GuardAlgebra.Proofs.Stopping
import Mathlib.Data.List.Forall2

namespace GuardAlgebra

/-! # Grouping

Guards are joined two at a time, and several of them in many ways. A check of the whole asks them in
their order and ends as one of them does. How many are asked, and which of them has the word, is told
by how they come out and not by how they are grouped.
-/

/-- How a check comes out. -/
inductive Verdict where
  | raises
  | decides (truth : Bool)
  deriving DecidableEq

namespace Verdict

inductive Of : Attempt Value → Verdict → Prop where
  | raises {cause : Exception} : Of (.error cause) .raises
  | decides {result : Value} {truth : Bool} (decided : result.Decides truth) :
      Of (.ok result) (.decides truth)

theorem Of.unique {outcome : Attempt Value} {one other : Verdict} (first : Of outcome one)
    (second : Of outcome other) : one = other := by
  cases first with
  | raises => cases second; rfl
  | decides decided => cases second with | decides decides => rw [decided.unique decides]

theorem exists_row {runs : List (Run Value)} (answers : ∀ run ∈ runs, run.Answers) :
    ∃ row, List.Forall₂ Of (runs.map Run.result) row := by
  induction runs with
  | nil => exact ⟨[], .nil⟩
  | cons run rest ih =>
      rw [List.forall_mem_cons] at answers
      obtain ⟨row, comes⟩ := ih answers.2
      have come : ∃ verdict, Of run.result verdict := by
        cases ended : run.result with
        | error cause => exact ⟨_, .raises⟩
        | ok result =>
            obtain ⟨truth, decided⟩ := answers.1 result ended
            exact ⟨_, .decides decided⟩
      obtain ⟨verdict, comes⟩ := come
      exact ⟨verdict :: row, .cons comes ‹_›⟩

section Row

variable {runs : List (Run Value)} {outcomes : List (Attempt Value)} {row : List Verdict}

theorem answers_of_row (comes : List.Forall₂ Of (runs.map Run.result) row) :
    ∀ run ∈ runs, run.Answers := by
  induction runs generalizing row with
  | nil => exact List.forall_mem_nil _
  | cons run rest ih =>
      obtain ⟨verdict, others, come, comeRest, rfl⟩ := List.forall₂_cons_left_iff.mp comes
      refine List.forall_mem_cons.mpr ⟨fun result ended => ?_, ih comeRest⟩
      rw [ended] at come
      cases come with
      | decides decided => exact ⟨_, decided⟩

theorem raises_mem_iff (comes : List.Forall₂ Of outcomes row) :
    .raises ∈ row ↔ ∃ cause, .error cause ∈ outcomes := by
  induction comes with
  | nil => simp
  | cons come comes ih =>
      cases come with
      | raises => simp
      | decides decided => simpa using ih

end Row

/-- The first place in a row at which this holds, or else the last place. -/
def firstOrLast (holds : Verdict → Bool) (row : List Verdict) : Nat :=
  min (row.findIdx holds) (row.length - 1)

/-- How many are asked where all are, unless one raises. -/
def askedEagerly (row : List Verdict) : Nat := firstOrLast (· = .raises) row + 1

/-- The first that does not allow, or else the last. -/
def refusing (row : List Verdict) : Nat := firstOrLast (· ≠ .decides true) row

/-- How many are asked where the first that does not allow is the last to be asked. -/
def askedInTurn (row : List Verdict) : Nat := refusing row + 1

theorem firstOrLast_of_split {holds : Verdict → Bool} {before after outcomes : List (Attempt Value)}
    {outcome : Attempt Value} {row : List Verdict} (comes : List.Forall₂ Of outcomes row)
    (split : outcomes = before ++ outcome :: after)
    (passed : ∀ earlier ∈ before, ∀ verdict, Of earlier verdict → holds verdict = false)
    (stopped : after = [] ∨ ∀ verdict, Of outcome verdict → holds verdict = true) :
    firstOrLast holds row = before.length := by
  induction before generalizing outcomes row with
  | nil =>
      subst split
      obtain ⟨verdict, rest, come, others, rfl⟩ := List.forall₂_cons_left_iff.mp comes
      rcases stopped with rfl | stops
      · cases others
        simp [firstOrLast]
      · simp [firstOrLast, List.findIdx_cons, stops verdict come]
  | cons earlier before ih =>
      subst split
      obtain ⟨verdict, rest, come, others, rfl⟩ := List.forall₂_cons_left_iff.mp comes
      rw [List.forall_mem_cons] at passed
      have index := ih others rfl passed.2
      have length : rest.length = before.length + 1 + after.length := by
        have whole := others.length_eq
        rw [List.append_eq, List.length_append, List.length_cons] at whole
        omega
      have skipped := passed.1 verdict come
      simp only [firstOrLast, List.findIdx_cons, skipped, cond_false, List.length_cons] at index ⊢
      omega

end Verdict

namespace Operator

/-- The guard that an operator makes of two guards. -/
def pair : Operator → Site → Guard → Guard → Guard
  | .and => .both
  | .or => .either

def Joins (operator : Operator) (left right whole : Guard) : Prop :=
  ∃ place, whole = operator.pair place left right

/-- The results that settle what an operator gives: denials for a conjunction. -/
def halting : Operator → Bool
  | .and => false
  | .or => true

def goesOn : Operator → Bool → Bool
  | .and => id
  | .or => not

/-- Who has the word where all are asked: the first that raises, and where none does, the first that
denies or, for a disjunction, allows, or else the last. -/
def speaker (operator : Operator) (row : List Verdict) : Nat :=
  Verdict.firstOrLast
    (fun verdict => verdict = if .raises ∈ row then .raises else .decides operator.halting) row

theorem goesOn_eq_false_iff {operator : Operator} {truth : Bool} :
    operator.goesOn truth = false ↔ truth = operator.halting := by
  cases operator <;> cases truth <;> decide

end Operator

/-- A conjunction of post guards, whatever it is pinned to. -/
def PostGuard.Joins (left right whole : PostGuard) : Prop :=
  ∃ place pin resultType, whole = .both place pin left right resultType

section Grouped

variable {α : Type}

/-- What stands at a site is made of these parts, two at a time, and each of them is at its place. What
the parts are made of in turn does not count. -/
inductive Grouped (joins : α → α → α → Prop) : α → Site → List (Placed α) → Prop where
  | one (item : α) (site : Site) : Grouped joins item site [⟨item, site⟩]
  | pair {left right whole : α} {site : Site} {leftParts rightParts : List (Placed α)}
      (joined : joins left right whole) (before : Grouped joins left (site.child 0) leftParts)
      (after : Grouped joins right (site.child 1) rightParts) :
      Grouped joins whole site (leftParts ++ rightParts)

/-- It is made of these items in their order, wherever it stands. -/
def Groups (joins : α → α → α → Prop) (whole : α) (items : List α) : Prop :=
  ∀ site, ∃ parts, Grouped joins whole site parts ∧ parts.map Placed.item = items

theorem groups_one (joins : α → α → α → Prop) (item : α) : Groups joins item [item] :=
  fun site => ⟨_, .one item site, rfl⟩

theorem Groups.pair {joins : α → α → α → Prop} {left right whole : α} {items others : List α}
    (joined : joins left right whole) (before : Groups joins left items)
    (after : Groups joins right others) : Groups joins whole (items ++ others) := by
  intro site
  obtain ⟨leftParts, leftGrouped, rfl⟩ := before (site.child 0)
  obtain ⟨rightParts, rightGrouped, rfl⟩ := after (site.child 1)
  exact ⟨_, .pair joined leftGrouped rightGrouped, List.map_append⟩

/-- The first so many of these runs are all that a check does, and it ends as one of them. -/
structure Tells (runs : List (Run Value)) (asked speaker : Nat) (check : Run Value) : Prop where
  log : check.events = ((runs.map Run.events).take asked).flatten
  ended : (runs.map Run.result)[speaker]? = some check.result

/-- Grouping makes no difference: how the parts come out tells which of them are asked and which one
has the word, and where they do the same in two groupings, so does the whole. -/
structure Flattens (joins : α → α → α → Prop) (check : Placed α → Run Value)
    (asked speaker : List Verdict → Nat) : Prop where
  tells : ∀ {tree site parts row}, Grouped joins tree site parts →
    List.Forall₂ Verdict.Of ((parts.map check).map Run.result) row →
    Tells (parts.map check) (asked row) (speaker row) (check ⟨tree, site⟩)
  agrees : ∀ {tree other site place parts others}, Grouped joins tree site parts →
    Grouped joins other place others → (∀ part ∈ parts, (check part).Answers) →
    (parts.map check).map Run.events = (others.map check).map Run.events →
    (parts.map check).map Run.result = (others.map check).map Run.result →
    (check ⟨tree, site⟩).events = (check ⟨other, place⟩).events ∧
      (check ⟨tree, site⟩).result = (check ⟨other, place⟩).result

theorem flattens_of_tells {joins : α → α → α → Prop} {check : Placed α → Run Value}
    {asked speaker : List Verdict → Nat}
    (tells : ∀ {tree site parts row}, Grouped joins tree site parts →
      List.Forall₂ Verdict.Of ((parts.map check).map Run.result) row →
      Tells (parts.map check) (asked row) (speaker row) (check ⟨tree, site⟩)) :
    Flattens joins check asked speaker where
  tells := tells
  agrees := by
    intro tree other site place parts others grouped regrouped answers sameEvents sameResults
    obtain ⟨row, comes⟩ := Verdict.exists_row (List.forall_mem_map.mpr answers)
    have one := tells grouped comes
    rw [sameResults] at comes
    have another := tells regrouped comes
    constructor
    · rw [one.log, another.log, sameEvents]
    · have same := one.ended.symm.trans ((congrArg (·[speaker row]?) sameResults).trans another.ended)
      exact Option.some.inj same

end Grouped

section Split

variable {runs before after : List (Run Value)} {last check : Run Value}

theorem getElem?_result_of_split (split : runs = before ++ last :: after) :
    (runs.map Run.result)[before.length]? = some last.result := by
  rw [split, List.getElem?_map, List.getElem?_append_right (Nat.le_refl _), Nat.sub_self]
  rfl

/-- A check that ends as the last of those that it asks. -/
theorem tells_of_split (split : runs = before ++ last :: after)
    (log : check.events = (before ++ [last]).flatMap Run.events) (ended : check.result = last.result) :
    Tells runs (before.length + 1) before.length check where
  log := by
    have first : (before ++ last :: after).take (before.length + 1) = before ++ [last] := by
      rw [List.take_append, List.take_of_length_le (by omega), Nat.add_sub_cancel_left]
      rfl
    rw [log, split, ← List.map_take, first, List.flatMap_def]
  ended := by rw [ended, getElem?_result_of_split split]

end Split

namespace Guard

variable {around : Surroundings} {context : Value} {operator : Operator}

def GoesOn (operator : Operator) (run : Run Value) : Prop :=
  ∃ truth, Verdict.Of run.result (.decides truth) ∧ operator.goesOn truth = true

/-- The first of these runs that the operator does not go on from, or else the last of them. -/
def Halts (operator : Operator) (runs : List (Run Value)) (speaker : Run Value) : Prop :=
  ∃ before after, runs = before ++ speaker :: after ∧ (∀ run ∈ before, GoesOn operator run) ∧
    (GoesOn operator speaker → after = [])

theorem halts_left {runs : List (Run Value)} {speaker : Run Value} (halts : Halts operator runs speaker)
    (stops : ¬ GoesOn operator speaker) (others : List (Run Value)) :
    Halts operator (runs ++ others) speaker := by
  obtain ⟨before, after, rfl, passed, -⟩ := halts
  exact ⟨before, after ++ others, by simp, passed, fun goes => absurd goes stops⟩

theorem halts_right {runs others : List (Run Value)} {leftSpeaker speaker : Run Value}
    (leftHalts : Halts operator runs leftSpeaker) (goes : GoesOn operator leftSpeaker)
    (halts : Halts operator others speaker) : Halts operator (runs ++ others) speaker := by
  obtain ⟨leftBefore, leftAfter, rfl, leftPassed, leftComplete⟩ := leftHalts
  obtain ⟨before, after, rfl, passed, complete⟩ := halts
  have alone : leftAfter = [] := leftComplete goes
  refine ⟨leftBefore ++ leftSpeaker :: before, after, by simp [alone], ?_, complete⟩
  rw [List.forall_mem_append, List.forall_mem_cons]
  exact ⟨leftPassed, goes, passed⟩

theorem follows_pair_of_lazily {place site : Site} {left right : Guard}
    {leftRuns rightRuns : List (Run Value)} {leftSpeaker rightSpeaker speaker : Run Value}
    (leftFollows : Follows leftRuns leftSpeaker (left.check around context (site.child 0)))
    (rightFollows : Follows rightRuns rightSpeaker (right.check around context (site.child 1)))
    (speaks : ∀ first truth, leftSpeaker.result = .ok first → first.Decides truth →
      speaker.result = if operator.goesOn truth then rightSpeaker.result else .ok first) :
    Follows (leftRuns ++ rightRuns) speaker
      ((operator.pair place left right).check around context site) := by
  cases operator with
  | and => exact .connect (around.connects_meet (site.child 2)) leftFollows rightFollows speaks
  | or => exact .connect (around.connects_join (site.child 2)) leftFollows rightFollows speaks

/-- The one of two parts that has the word has it for the pair. -/
theorem follows_pair {place site : Site} {left right : Guard} {leftRuns rightRuns : List (Run Value)}
    (leftSpeaks : ∃ speaker, Follows leftRuns speaker (left.check around context (site.child 0)) ∧
      Halts operator leftRuns speaker)
    (rightSpeaks : ∃ speaker, Follows rightRuns speaker (right.check around context (site.child 1)) ∧
      Halts operator rightRuns speaker) :
    ∃ speaker, Follows (leftRuns ++ rightRuns) speaker
      ((operator.pair place left right).check around context site) ∧
      Halts operator (leftRuns ++ rightRuns) speaker := by
  obtain ⟨leftSpeaker, leftFollows, leftHalts⟩ := leftSpeaks
  obtain ⟨rightSpeaker, rightFollows, rightHalts⟩ := rightSpeaks
  by_cases goes : GoesOn operator leftSpeaker
  · refine ⟨rightSpeaker, ?_, halts_right leftHalts goes rightHalts⟩
    apply follows_pair_of_lazily leftFollows rightFollows
    intro first truth ended decided
    obtain ⟨given, comes, goesOn⟩ := goes
    rw [ended] at comes
    cases comes with
    | decides decides => rw [decided.unique decides, if_pos goesOn]
  · refine ⟨leftSpeaker, ?_, halts_left leftHalts goes rightRuns⟩
    apply follows_pair_of_lazily leftFollows rightFollows
    intro first truth ended decided
    have stops : ¬ operator.goesOn truth = true := by
      intro goesOn
      exact goes ⟨truth, ended ▸ .decides decided, goesOn⟩
    rw [if_neg stops, ended]

theorem exists_speaker {tree : Guard} {site : Site} {parts : List (Placed Guard)}
    (grouped : Grouped operator.Joins tree site parts)
    (answers : ∀ part ∈ parts, (part.check around context).Answers) :
    ∃ speaker, Follows (parts.map (Placed.check around context)) speaker
      (tree.check around context site) ∧
      Halts operator (parts.map (Placed.check around context)) speaker := by
  induction grouped with
  | one item site =>
      refine ⟨_, follows_leaf (answers _ (List.mem_singleton_self _)), [], [], rfl, ?_, fun _ => rfl⟩
      exact List.forall_mem_nil _
  | pair joined before after leftIH rightIH =>
      obtain ⟨place, rfl⟩ := joined
      rw [List.forall_mem_append] at answers
      rw [List.map_append]
      exact follows_pair (leftIH answers.1) (rightIH answers.2)

section Row

variable {runs before after : List (Run Value)} {row : List Verdict} {run speaker check : Run Value}
  {cause : Exception} {result : Value} {truth : Bool}

/-- Where one raises, the first to raise is the last to be asked. -/
theorem tells_of_raise (comes : List.Forall₂ Verdict.Of (runs.map Run.result) row)
    (split : runs = before ++ run :: after)
    (earlier : ∀ run ∈ before, ∃ value, run.result = .ok value) (failed : run.result = .error cause)
    (log : check.events = (Run.throughRaise runs).flatMap Run.events)
    (ended : check.result = .error cause) :
    Tells runs (Verdict.askedEagerly row) (operator.speaker row) check := by
  have outcomes : runs.map Run.result =
      before.map Run.result ++ .error cause :: after.map Run.result := by
    rw [split, List.map_append, List.map_cons, failed]
  have raised : .raises ∈ row := by
    rw [Verdict.raises_mem_iff comes, outcomes]
    exact ⟨cause, List.mem_append_right _ List.mem_cons_self⟩
  have index : Verdict.firstOrLast (· = .raises) row = before.length := by
    rw [Verdict.firstOrLast_of_split comes outcomes, List.length_map]
    · rw [List.forall_mem_map]
      intro run member verdict come
      obtain ⟨value, given⟩ := earlier run member
      rw [given] at come
      cases come
      rfl
    · refine .inr fun verdict come => ?_
      cases come
      rfl
  have speaks : operator.speaker row = before.length := by
    simp only [Operator.speaker, if_pos raised]
    exact index
  rw [Verdict.askedEagerly, index, speaks]
  apply tells_of_split split
  · rw [log, split, (Run.first_raise_of_split after earlier failed).2]
  · rw [ended, failed]

/-- Where none raises, the first result that the operator does not go on from has the word. -/
theorem speaker_of_halts (comes : List.Forall₂ Verdict.Of (runs.map Run.result) row)
    (silent : .raises ∉ row) (split : runs = before ++ speaker :: after)
    (passed : ∀ run ∈ before, GoesOn operator run) (complete : GoesOn operator speaker → after = [])
    (given : speaker.result = .ok result) (decided : result.Decides truth) :
    operator.speaker row = before.length := by
  have outcomes := congrArg (List.map Run.result) split
  rw [List.map_append, List.map_cons] at outcomes
  simp only [Operator.speaker, if_neg silent]
  rw [Verdict.firstOrLast_of_split comes outcomes, List.length_map]
  · rw [List.forall_mem_map]
    intro run member verdict come
    obtain ⟨other, comes, goesOn⟩ := passed run member
    have differs : ¬ other = operator.halting := by
      rw [← Operator.goesOn_eq_false_iff, goesOn]
      exact Bool.noConfusion
    rw [come.unique comes, decide_eq_false_iff_not, Verdict.decides.injEq]
    exact differs
  · by_cases goes : GoesOn operator speaker
    · exact .inl (by rw [complete goes, List.map_nil])
    · refine .inr fun verdict come => ?_
      have stops : operator.goesOn truth = false := by
        rw [← Bool.not_eq_true]
        exact fun goesOn => goes ⟨truth, given ▸ .decides decided, goesOn⟩
      rw [given] at come
      rw [come.unique (.decides decided), Operator.goesOn_eq_false_iff.mp stops, decide_eq_true_eq]

theorem askedEagerly_of_silent (comes : List.Forall₂ Verdict.Of (runs.map Run.result) row)
    (silent : .raises ∉ row) (nonempty : runs ≠ []) : Verdict.askedEagerly row = runs.length := by
  have absent : row.findIdx (· = Verdict.raises) = row.length := by
    rw [List.findIdx_eq_length]
    intro verdict member
    rw [decide_eq_false_iff_not]
    exact fun raises => silent (raises ▸ member)
  have length := comes.length_eq
  have some := List.length_pos_iff.mpr nonempty
  rw [List.length_map] at length
  rw [Verdict.askedEagerly, Verdict.firstOrLast, absent]
  omega

/-- What follows the leaves in a row is told by how they come out. -/
theorem tells_of_follows (comes : List.Forall₂ Verdict.Of (runs.map Run.result) row)
    (follows : Follows runs speaker check) (halts : Halts operator runs speaker) :
    Tells runs (Verdict.askedEagerly row) (operator.speaker row) check := by
  cases follows.ending with
  | raises first ended =>
      obtain ⟨before, run, after, split, earlier, failed⟩ := Run.exists_split_of_firstRaise? first
      exact tells_of_raise comes split earlier failed follows.log ended
  | decides quiet decided ended agrees =>
      obtain ⟨before, after, split, passed, complete⟩ := halts
      have silent : .raises ∉ row := by
        rw [Verdict.raises_mem_iff comes]
        rintro ⟨cause, member⟩
        obtain ⟨run, isRun, failed⟩ := List.mem_map.mp member
        obtain ⟨value, given⟩ := Run.firstRaise?_eq_none_iff.mp quiet run isRun
        rw [given] at failed
        exact nomatch failed
      have nonempty : runs ≠ [] := by
        rw [split]
        exact List.append_ne_nil_of_right_ne_nil _ (List.cons_ne_nil _ _)
      constructor
      · rw [follows.log, Run.throughRaise_of_none quiet, askedEagerly_of_silent comes silent nonempty,
          List.take_of_length_le (Nat.le_of_eq (List.length_map _)), List.flatMap_def]
      · rw [speaker_of_halts comes silent split passed complete agrees decided,
          getElem?_result_of_split split, ended, agrees]

end Row

theorem flattens (operator : Operator) (around : Surroundings) (context : Value) :
    Flattens operator.Joins (Placed.check around context) Verdict.askedEagerly operator.speaker := by
  apply flattens_of_tells
  intro tree site parts row grouped comes
  have answers := List.forall_mem_map.mp (Verdict.answers_of_row comes)
  obtain ⟨speaker, follows, halts⟩ := exists_speaker grouped answers
  exact tells_of_follows comes follows halts

end Guard

namespace PostGuard

variable {around : Surroundings} {context value : Value}

theorem exists_stop {tree : PostGuard} {site : Site} {parts : List (Placed PostGuard)}
    (grouped : Grouped PostGuard.Joins tree site parts)
    (answers : ∀ part ∈ parts, (part.inspect around context value).Answers) :
    ∃ before last after, StopsAt (parts.map (Placed.inspect around context value))
      (tree.check around context value site) before last after := by
  induction grouped with
  | one item site => exact ⟨[], _, [], stopsAt_self _⟩
  | pair joined before after leftIH rightIH =>
      obtain ⟨place, pin, resultType, rfl⟩ := joined
      rw [List.forall_mem_append] at answers
      rw [List.map_append]
      exact stopsAt_both (List.forall_mem_map.mpr answers.1) (leftIH answers.1) (rightIH answers.2)

theorem flattens (around : Surroundings) (context value : Value) :
    Flattens PostGuard.Joins (Placed.inspect around context value) Verdict.askedInTurn
      Verdict.refusing := by
  apply flattens_of_tells
  intro tree site parts row grouped comes
  have answers := List.forall_mem_map.mp (Verdict.answers_of_row comes)
  obtain ⟨before, last, after, stops⟩ := exists_stop grouped answers
  have index : Verdict.refusing row = before.length := by
    have outcomes := congrArg (List.map Run.result) stops.split
    rw [List.map_append, List.map_cons] at outcomes
    rw [Verdict.refusing, Verdict.firstOrLast_of_split comes outcomes, List.length_map]
    · rw [List.forall_mem_map]
      intro run member verdict come
      obtain ⟨result, given, allowed⟩ := stops.allowed run member
      rw [given] at come
      rw [come.unique (.decides allowed), decide_eq_false_iff_not]
      exact not_not_intro rfl
    · by_cases allows : last.Allows
      · exact .inl (by rw [stops.complete allows, List.map_nil])
      · refine .inr fun verdict come => ?_
        rw [decide_eq_true_eq]
        rintro rfl
        cases given : last.result with
        | error cause => rw [given] at come; exact nomatch come
        | ok result =>
            rw [given] at come
            cases come with
            | decides decided => exact allows ⟨result, given, decided⟩
  rw [Verdict.askedInTurn, index]
  exact tells_of_split stops.split stops.log stops.ended

end PostGuard

end GuardAlgebra
