import GuardAlgebra.Proofs.Attributes
import GuardAlgebra.Proofs.Denials
import GuardAlgebra.Proofs.Eagerness
import GuardAlgebra.Proofs.Stopping

namespace GuardAlgebra

/-! # The stages of a field

Resolving a field checks its guard, runs the function that computes the value, and checks the post
guard on that value. Each stage begins where the one before it let the run go on, so the run takes
one of a few courses, and what it invokes is what its stages invoke, one after another.
-/

/-- A resolution of a field, with all it is given. Either guard may be missing. -/
structure Resolution where
  around : Surroundings
  logDenials : Value
  guard : Option Guard
  post : Option PostGuard
  name : Value
  context : Value
  function : Value
  arguments : Arguments
  site : Site

namespace Resolution

variable (field : Resolution)

def resolver : Resolver :=
  .whole (field.guard.elim .none .guard) (field.post.elim .none .post) field.name

def run : Run Value :=
  field.around.resolve field.logDenials field.resolver field.context field.function field.arguments
    field.site

/-- The check of the guard; a missing one allows. -/
def guarding : Run Value :=
  match field.guard with
  | none => .done (.allowing field.site)
  | some tree => tree.check field.around field.context ((field.site.child 0).child 0)

def resolving : Run Value := do
  let answer ← field.around.call field.function field.arguments (field.site.child 1)
  answer.await (field.site.child 2)

/-- The check of the post guard on a value; a missing one allows. -/
def releasing (value : Value) : Run Value :=
  match field.post with
  | none => .done (.allowing field.site)
  | some tree => tree.check field.around field.context value ((field.site.child 3).child 0)

/-- The checks of the leaves of the guard, from left to right. -/
def guardChecks : List (Run Value) :=
  match field.guard with
  | none => []
  | some tree => tree.leafChecks field.around field.context ((field.site.child 0).child 0)

def postLeaves : List (Placed PostGuard) :=
  match field.post with
  | none => []
  | some tree => tree.leaves ((field.site.child 3).child 0)

def postChecks (value : Value) : List (Run Value) :=
  field.postLeaves.map (Placed.inspect field.around field.context value)

def tells (error : Value) : Except Fault Unit :=
  field.around.facts.tells field.logDenials field.name error

/-- The courses that a resolution can take: how it ends, why, and what it has invoked by then. -/
inductive Course : Prop where
  /-- The first leaf of the guard that raises ends the run. -/
  | guardRaises {before after : List (Run Value)} {leaf : Run Value} {cause : Exception}
      (split : field.guardChecks = before ++ leaf :: after)
      (earlier : ∀ run ∈ before, ∃ result, run.result = .ok result)
      (raises : leaf.result = .error cause)
      (ended : field.run.result = .error cause)
      (log : field.run.invocations = field.guarding.invocations)
  | guardDenies {error : Value} (denies : field.guarding.DeniesWith error)
      (told : field.tells error = .ok ())
      (ended : field.run.result =
        .ok (.outcome field.site field.name .none error (.bool false) (.str "guard")))
      (log : field.run.invocations = field.guarding.invocations)
  /-- The guard denies, and reporting that fails. -/
  | guardUntold {error : Value} {fault : Fault} (denies : field.guarding.DeniesWith error)
      (untold : field.tells error = .error fault)
      (ended : field.run.result = .error (.fault (field.site.child 4) fault))
      (log : field.run.invocations = field.guarding.invocations)
  | resolverRaises {cause : Exception} (allows : field.guarding.Allows)
      (raises : field.resolving.result = .error cause)
      (ended : field.run.result = .error cause)
      (log : field.run.invocations = field.guarding.invocations ++ field.resolving.invocations)
  /-- The leaves of the post guard allow up to one that raises, which ends the run. -/
  | postRaises {value : Value} {before after : List (Run Value)} {leaf : Run Value}
      {cause : Exception} (allows : field.guarding.Allows)
      (resolved : field.resolving.result = .ok value)
      (split : field.postChecks value = before ++ leaf :: after)
      (earlier : ∀ run ∈ before, run.Allows)
      (raises : leaf.result = .error cause)
      (ended : field.run.result = .error cause)
      (log : field.run.invocations = field.guarding.invocations ++ field.resolving.invocations ++
        (field.releasing value).invocations)
  | postDenies {value error : Value} (allows : field.guarding.Allows)
      (resolved : field.resolving.result = .ok value)
      (denies : (field.releasing value).DeniesWith error)
      (told : field.tells error = .ok ())
      (ended : field.run.result =
        .ok (.outcome field.site field.name .none error (.bool true) (.str "post_guard")))
      (log : field.run.invocations = field.guarding.invocations ++ field.resolving.invocations ++
        (field.releasing value).invocations)
  /-- The post guard denies, and reporting that fails. -/
  | postUntold {value error : Value} {fault : Fault} (allows : field.guarding.Allows)
      (resolved : field.resolving.result = .ok value)
      (denies : (field.releasing value).DeniesWith error)
      (untold : field.tells error = .error fault)
      (ended : field.run.result = .error (.fault (field.site.child 4) fault))
      (log : field.run.invocations = field.guarding.invocations ++ field.resolving.invocations ++
        (field.releasing value).invocations)
  | released {value : Value} (allows : field.guarding.Allows)
      (resolved : field.resolving.result = .ok value)
      (releases : (field.releasing value).Allows)
      (ended : field.run.result =
        .ok (.outcome field.site field.name value .none (.bool true) .none))
      (log : field.run.invocations = field.guarding.invocations ++ field.resolving.invocations ++
        (field.releasing value).invocations)

variable {field}

def refuse (field : Resolution) (stage : String) (outcome error : Value) : Run Value :=
  field.around.refuse field.logDenials field.resolver stage error outcome (field.site.child 4)

theorem refuse_told {stage : String} {outcome error : Value} (told : field.tells error = .ok ()) :
    (field.refuse stage outcome error).result = .ok outcome ∧
      (field.refuse stage outcome error).invocations = [] :=
  Surroundings.refuse_told told

theorem refuse_untold {stage : String} {outcome error : Value} {fault : Fault}
    (untold : field.tells error = .error fault) :
    (field.refuse stage outcome error).result = .error (.fault (field.site.child 4) fault) ∧
      (field.refuse stage outcome error).invocations = [] :=
  Surroundings.refuse_untold untold

/-- A resolver object to which nothing was written makes its resolution when it is asked to resolve a
field, and hands on all arguments that are not its own. -/
theorem callMethod_resolve {place : Site}
    (unwritten : ∀ part, field.around.facts.store.find? (.object place) part = none)
    (logs : field.around.facts.member? (.known "FieldResolver") Method.logDenial.name =
      some (.method .logDenial))
    (foreign : ∀ parameter ∈ Method.resolve.parameters,
      Arguments.takeNamed parameter.name field.arguments.named = (none, field.arguments.named)) :
    let object :=
      Value.resolver place (field.guard.elim .none .guard) (field.post.elim .none .post) field.name
    field.around.callMethod field.logDenials .resolve
      ⟨object :: field.context :: field.function :: field.arguments.positional,
        field.arguments.named⟩ field.site = pure (.later field.run) := by
  intro object
  have parts : field.around.facts.resolver object = field.resolver :=
    Facts.resolver_of_unwritten unwritten logs
  have bound : Arguments.bindOpen? Method.resolve.parameters
      [object, field.context, field.function] field.arguments.named =
        some ([some object, some field.context, some field.function], field.arguments.named) := by
    simp only [Method.parameters, List.forall_mem_cons, Parameter.mandatory] at foreign
    obtain ⟨noSelf, noContext, noResolver, -⟩ := foreign
    simp [Method.parameters, Arguments.bindOpen?, Parameter.mandatory, noSelf, noContext, noResolver]
  have taken : (object :: field.context :: field.function :: field.arguments.positional).take
      Method.resolve.parameters.length = [object, field.context, field.function] := rfl
  rw [run, ← parts]
  change field.around.callResolve _ _ _ = _
  simp only [Surroundings.callResolve, taken, bound]
  rfl

/-- What comes of a value that was resolved. -/
def conclude (field : Resolution) (value : Value) : Run Value := do
  match ← field.around.denial? (field.post.elim .none .post) [field.context, value]
      (field.site.child 3) with
  | some error => field.refuse "post_guard" (.deniedAfter field.site field.name error) error
  | none => pure (.released field.site field.name value)

theorem denial?_before :
    field.around.denial? (field.guard.elim .none .guard) [field.context] (field.site.child 0) =
      field.guarding >>= field.around.judge ((field.site.child 0).child 1) := by
  cases present : field.guard with
  | none =>
      simp only [guarding, present]
      rfl
  | some tree =>
      simp only [guarding, present]
      exact Surroundings.denial?_guard _ tree _ _

theorem denial?_after (value : Value) :
    field.around.denial? (field.post.elim .none .post) [field.context, value]
        (field.site.child 3) =
      field.releasing value >>= field.around.judge ((field.site.child 3).child 1) := by
  cases present : field.post with
  | none =>
      simp only [releasing, present]
      rfl
  | some tree =>
      simp only [releasing, present]
      exact Surroundings.denial?_post _ tree _ _ _

/-- A resolution is its stages, one after another. -/
theorem run_eq_stages :
    field.run = (do
      match ← field.guarding >>= field.around.judge ((field.site.child 0).child 1) with
      | some error => field.refuse "guard" (.deniedBefore field.site field.name error) error
      | none => field.resolving >>= field.conclude) := by
  have opened : field.run = (do
      match ← field.around.denial? (field.guard.elim .none .guard) [field.context]
          (field.site.child 0) with
      | some error => field.refuse "guard" (.deniedBefore field.site field.name error) error
      | none =>
          let answer ← field.around.call field.function field.arguments (field.site.child 1)
          let value ← answer.await (field.site.child 2)
          field.conclude value) := rfl
  rw [opened, denial?_before]
  simp only [resolving, bind_assoc]

theorem conclude_eq_stage (value : Value) :
    field.conclude value = (do
      match ← field.releasing value >>= field.around.judge ((field.site.child 3).child 1) with
      | some error => field.refuse "post_guard" (.deniedAfter field.site field.name error) error
      | none => pure (.released field.site field.name value)) := by
  rw [conclude, denial?_after]

/-- How a stage ends: as the first of its leaves that raises, where all before that are as they must
be for it to be asked, or else by allowing or denying. -/
inductive StageEnds (asked : Run Value → Prop) (checks : List (Run Value)) (stage : Run Value) :
    Prop where
  | raises {before after : List (Run Value)} {leaf : Run Value} {cause : Exception}
      (split : checks = before ++ leaf :: after) (earlier : ∀ run ∈ before, asked run)
      (raises : leaf.result = .error cause) (ended : stage.result = .error cause)
  | allows (allows : stage.Allows)
  | denies {error : Value} (denies : stage.DeniesWith error)

theorem allowing_allows (site : Site) : (Run.done (Value.allowing site)).Allows :=
  ⟨_, rfl, .result rfl⟩

theorem guarding_ends (answers : ∀ run ∈ field.guardChecks, run.Answers) :
    StageEnds (fun run => ∃ result, run.result = .ok result) field.guardChecks field.guarding := by
  cases present : field.guard with
  | none =>
      simp only [guarding, present]
      exact .allows (allowing_allows _)
  | some tree =>
      simp only [guarding, guardChecks, present] at answers ⊢
      cases (Guard.check_follows_leaves answers).ending with
      | raises first ended =>
          obtain ⟨before, leaf, after, split, earlier, raises⟩ := Run.exists_split_of_firstRaise? first
          exact .raises split earlier raises ended
      | @decides result truth quiet decided ended agrees =>
          cases decided with
          | result valued =>
              cases truth with
              | true => exact .allows ⟨_, ended, .result valued⟩
              | false => exact .denies ⟨_, _, ended, valued⟩

theorem releasing_ends {value : Value} (answers : ∀ run ∈ field.postChecks value, run.Answers) :
    StageEnds Run.Allows (field.postChecks value) (field.releasing value) := by
  cases present : field.post with
  | none =>
      simp only [releasing, present]
      exact .allows (allowing_allows _)
  | some tree =>
      simp only [releasing, postChecks, postLeaves, present] at answers ⊢
      obtain ⟨before, last, after, stops⟩ := PostGuard.check_stops answers
      have lastAnswers : last.Answers := by
        apply answers
        have member : last ∈ before ++ last :: after :=
          List.mem_append_right _ List.mem_cons_self
        rw [← stops.split] at member
        exact member
      cases ended : last.result with
      | error cause => exact .raises stops.split stops.allowed ended (stops.ended.trans ended)
      | ok result =>
          obtain ⟨truth, decided⟩ := lastAnswers result ended
          have given := stops.ended.trans ended
          cases decided with
          | result valued =>
              cases truth with
              | true => exact .allows ⟨_, given, .result valued⟩
              | false => exact .denies ⟨_, _, given, valued⟩

section Allowed

variable {value : Value}

theorem resolver_raises {cause : Exception} (allows : field.guarding.Allows)
    (raises : field.resolving.result = .error cause) :
    field.run.result = .error cause ∧
      field.run.invocations = field.guarding.invocations ++ field.resolving.invocations := by
  obtain ⟨result, log⟩ := Surroundings.stage_allows allows
  rw [run_eq_stages, result, log]
  constructor
  · exact Run.result_bind_of_error raises
  · rw [Run.invocations_bind_of_error raises]

theorem run_of_resolved (allows : field.guarding.Allows)
    (resolved : field.resolving.result = .ok value) :
    field.run.result = (field.conclude value).result ∧
      field.run.invocations = field.guarding.invocations ++ field.resolving.invocations ++
        (field.conclude value).invocations := by
  obtain ⟨result, log⟩ := Surroundings.stage_allows allows
  rw [run_eq_stages, result, log]
  constructor
  · exact Run.result_bind_of_ok resolved
  · rw [Run.invocations_bind_of_ok resolved, List.append_assoc]

end Allowed

theorem course_of_denied {error : Value} (denies : field.guarding.DeniesWith error) :
    field.Course := by
  obtain ⟨result, log⟩ := Surroundings.stage_denies denies
  rw [← run_eq_stages] at result log
  cases told : field.tells error with
  | ok done =>
      obtain ⟨outcome, silent⟩ := refuse_told told
      refine .guardDenies denies told (result.trans outcome) ?_
      rw [log, silent, List.append_nil]
  | error fault =>
      obtain ⟨outcome, silent⟩ := refuse_untold told
      refine .guardUntold denies told (result.trans outcome) ?_
      rw [log, silent, List.append_nil]

theorem course_of_resolved {value : Value} (allows : field.guarding.Allows)
    (resolved : field.resolving.result = .ok value)
    (answers : ∀ run ∈ field.postChecks value, run.Answers) : field.Course := by
  obtain ⟨runResult, runLog⟩ := run_of_resolved allows resolved
  rw [conclude_eq_stage] at runResult runLog
  cases releasing_ends answers with
  | raises split earlier raises ended =>
      obtain ⟨result, log⟩ := Surroundings.stage_raises ended
      refine .postRaises allows resolved split earlier raises (runResult.trans result) ?_
      rw [runLog, log]
  | @denies error denies =>
      obtain ⟨result, log⟩ := Surroundings.stage_denies denies
      cases told : field.tells error with
      | ok done =>
          obtain ⟨outcome, silent⟩ := refuse_told told
          refine .postDenies allows resolved denies told
            (runResult.trans (result.trans outcome)) ?_
          rw [runLog, log, silent, List.append_nil]
      | error fault =>
          obtain ⟨outcome, silent⟩ := refuse_untold told
          refine .postUntold allows resolved denies told
            (runResult.trans (result.trans outcome)) ?_
          rw [runLog, log, silent, List.append_nil]
  | allows releases =>
      obtain ⟨result, log⟩ := Surroundings.stage_allows releases
      refine .released allows resolved releases (runResult.trans result) ?_
      rw [runLog, log]
      exact congrArg _ (List.append_nil _)

/-- A resolution takes one of its courses. A post guard's leaves are invoked with the context and the
very value that was resolved, and the function that resolves it with the arguments. -/
theorem resolve_takes_course (field : Resolution)
    (answers : ∀ run ∈ field.guardChecks, run.Answers)
    (postAnswers : ∀ value, field.resolving.result = .ok value →
      ∀ run ∈ field.postChecks value, run.Answers) :
    field.Course ∧
      (∀ value, ∀ leaf ∈ field.postLeaves, ∀ place cls kin pin given,
        leaf.item = .leaf place cls kin pin given →
        field.around.facts.checksItself (.post leaf.item) = true →
        (leaf.inspect field.around field.context value).invocations =
          [(given.name, ⟨[field.context, value], []⟩)]) ∧
      (∀ scene depth, field.around = ⟨scene.facts, Scene.callWithin scene (depth + 1)⟩ →
        (∀ value, ∀ leaf ∈ field.postLeaves, ∀ place pin function error resultType name,
          leaf.item = .function place pin (.callable function) error resultType name →
          ∃ rest, (leaf.inspect field.around field.context value).invocations =
            (function.label, ⟨[field.context, value], []⟩) :: rest) ∧
        ∀ function, field.function = .callable function →
          ∃ rest, field.resolving.invocations = (function.label, field.arguments) :: rest) := by
  refine ⟨?_, ?_, ?_⟩
  · cases guarding_ends answers with
    | raises split earlier raises ended =>
        obtain ⟨result, log⟩ := Surroundings.stage_raises ended
        rw [← run_eq_stages] at result log
        exact .guardRaises split earlier raises result log
    | denies denies => exact course_of_denied denies
    | allows allows =>
        cases resolved : field.resolving.result with
        | error cause =>
            obtain ⟨result, log⟩ := resolver_raises allows resolved
            exact .resolverRaises allows resolved result log
        | ok value => exact course_of_resolved allows resolved (postAnswers value resolved)
  · rintro value ⟨leaf, place⟩ member origin cls kin pin given rfl itself
    have log := PostGuard.events_leaf_check field.context value place itself
    simp only [Run.invocations, Placed.inspect, log]
    rfl
  · rintro scene depth around
    rw [Resolution.resolving, around]
    constructor
    · rintro value ⟨leaf, place⟩ member origin pin function error resultType name rfl
      exact ⟨_, rfl⟩
    · rintro function called
      rw [called]
      exact ⟨_, rfl⟩

/-- A value that the post guard does not release. -/
theorem resolve_of_withheld_value :
    let around := Session.furnished.scene.surroundings
    let denial := Value.result ⟨[0]⟩ (.bool false) (.str "no")
    let leaf := PostGuard.leaf ⟨[1]⟩ Session.postLeafClass [] .none ⟨"audit", 0, .gives denial⟩
    let function := Value.callable ⟨⟨[2]⟩, none, "compute", .async, 1, .reply (.gives (.int 7))⟩
    let field : Resolution :=
      ⟨around, .bool true, none, some leaf, .str "field", .none, function, ⟨[], []⟩, .root⟩
    field.resolving.result = .ok (.int 7) ∧
      (∀ run ∈ field.guardChecks, run.Answers) ∧
      (∀ value, field.resolving.result = .ok value → ∀ run ∈ field.postChecks value, run.Answers) ∧
      field.Course := by
  intro around denial leaf function field
  have itself : around.facts.checksItself (.post leaf) = true := by decide +kernel
  have resolved : field.resolving.result = .ok (.int 7) := rfl
  clear_value around
  have guardAnswers : ∀ run ∈ field.guardChecks, run.Answers := List.forall_mem_nil _
  have postAnswers : ∀ value, field.resolving.result = .ok value →
      ∀ run ∈ field.postChecks value, run.Answers := by
    intro value given run member
    rw [List.mem_singleton.mp member]
    intro result ended
    have gives := PostGuard.result_leaf_check .none value ((Site.root.child 3).child 0) itself
    cases gives.symm.trans ended
    exact ⟨false, .result rfl⟩
  exact ⟨resolved, guardAnswers, postAnswers,
    (resolve_takes_course field guardAnswers postAnswers).1⟩

/-- A denial that is to be reported, but whose error cannot be put into words: nothing raises but the
report, and no outcome is given. -/
theorem resolve_of_untold_denial :
    let error := Value.exception (.http ⟨[0]⟩ [] (.int 403) (.str "no") .none)
    let store := Store.empty.erase (.object ⟨[0]⟩) "detail"
    let scene : Scene := ⟨⟨.initial, store⟩, Session.initial.scene.configuration⟩
    let function := Value.callable ⟨⟨[2]⟩, none, "compute", .async, 1, .reply (.gives (.int 7))⟩
    let field : Resolution :=
      ⟨scene.surroundings, .bool true, some (.denyAll ⟨[1]⟩ error), none, .str "field", .none,
        function, ⟨[], []⟩, .root⟩
    (∀ run ∈ field.guardChecks, ∃ result, run.result = .ok result) ∧
      (∃ value, field.resolving.result = .ok value) ∧ (∀ value, field.postChecks value = []) ∧
      field.guarding.DeniesWith error ∧ ∃ cause, field.run.result = .error cause := by
  intro error store scene function field
  have obstructed : (scene.facts.obstacle? error).isSome = true := by decide +kernel
  obtain ⟨fault, obstacle⟩ := Option.isSome_iff_exists.mp obstructed
  have resolved : field.resolving.result = .ok (.int 7) := rfl
  have denies : field.guarding.DeniesWith error := ⟨_, _, rfl, rfl⟩
  have untold : field.tells error = .error fault := by
    have silent : scene.facts.say error = .error fault := by
      rw [Facts.say, obstacle]
    change scene.facts.tells (.bool true) (.str "field") error = _
    rw [Facts.tells, Facts.say_str, silent]
    rfl
  refine ⟨?_, ⟨_, resolved⟩, fun value => rfl, denies, .fault (field.site.child 4) fault, ?_⟩
  · intro run member
    rw [List.mem_singleton.mp member]
    exact ⟨_, rfl⟩
  · obtain ⟨result, log⟩ := Surroundings.stage_denies denies
    rw [run_eq_stages]
    exact result.trans (refuse_untold untold).1

end Resolution

end GuardAlgebra
