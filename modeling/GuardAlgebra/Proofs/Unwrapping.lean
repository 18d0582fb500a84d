import GuardAlgebra.Proofs.Stages

namespace GuardAlgebra

/-! # Unwrapping

A field can be resolved without an outcome: the guard is checked and its denial raised, the function
runs, and then the post guard has its turn. To resolve the field and unwrap the outcome comes to the
same, but for denials that cannot be reported. These never become an outcome.
-/

theorem Value.isNone_eq_false {value : Value} (present : value ≠ .none) : value.isNone = false := by
  cases value with
  | none => exact absurd rfl present
  | _ => rfl

/-- An error that is no exception is raised in one that tells it. -/
theorem denial_of_value {facts : Facts} {error : Value} {text : Text} (site : Site)
    (plain : ∀ cause, error ≠ .exception cause) (worded : facts.say error = .ok text) :
    error.denial facts site =
      .domain site (.known "GuardDeniedError")
        (.str (if error.isNone then Exception.defaultDenial else text)) (.str "GUARD_DENIED")
        (.dict (site.child 0) []) (some error) := by
  have message : Exception.denialMessage facts error =
      .ok (.str (if error.isNone then Exception.defaultDenial else text)) := by
    unfold Exception.denialMessage
    split
    · rfl
    next _ present =>
      rw [worded, Value.isNone_eq_false present]
      rfl
  have wrapped : error.denial facts site = .denied facts site error := by
    unfold Value.denial
    split
    · exact absurd rfl (plain _)
    · rfl
  rw [wrapped, Exception.denied, message]

/-- The stage of an outcome tells whether it has its value or raises its error. -/
theorem Value.unwrap_outcome {facts : Facts} {place : Site}
    (unwritten : ∀ name, facts.store.find? (.object place) name = Option.none)
    (site : Site) (field value error resolved stage : Value) :
    (Value.outcome place field value error resolved stage).unwrap facts site =
      if stage.isNone then .ok value else .error (error.denial facts site) := by
  have read? (name : String) := facts.read?_of_unwritten
    (fun expr same => nomatch same :
      ∀ expr, Value.outcome place field value error resolved stage ≠ .type expr) (unwritten name)
  have tells : facts.read (.outcome place field value error resolved stage) "stage" = .ok stage :=
    Facts.read_of_held rfl (read? "stage")
  have holds : facts.read (.outcome place field value error resolved stage) "value" = .ok value :=
    Facts.read_of_held rfl (read? "value")
  have carries : facts.read (.outcome place field value error resolved stage) "error" = .ok error :=
    Facts.read_of_held rfl (read? "error")
  rw [unwrap, tells, holds, carries]
  cases stage <;> rfl

namespace Run

variable {facts : Facts} {site : Site} {check : Run Value}

/-- A check whose denial is raised. -/
def enforce (facts : Facts) (site : Site) (check : Run Value) : Run Value :=
  check >>= fun result => .ofAttempt (result.raiseDenial facts site)

theorem enforce_raises {cause : Exception} (facts : Facts) (site : Site)
    (raises : check.result = .error cause) :
    (check.enforce facts site).result = .error cause ∧
      (check.enforce facts site).invocations = check.invocations :=
  ⟨result_bind_of_error raises, invocations_bind_of_error raises⟩

theorem enforce_decides {place : Site} {allowed error : Value} {truth : Bool}
    (gives : check.result = .ok (.result place allowed error)) (valued : allowed.truth = .ok truth) :
    (check.enforce facts site).result =
        (if truth then .ok .none else .error (error.denial facts site)) ∧
      (check.enforce facts site).invocations = check.invocations := by
  have decided : (Value.result place allowed error).Decides truth := .result valued
  have raises : (Value.result place allowed error).raiseDenial facts site =
      if truth then .ok .none else .error (error.denial facts site) := by
    rw [Value.raiseDenial, Value.allows_of_decides facts site decided]
    cases truth <;> rfl
  constructor
  · rw [enforce, result_bind_of_ok gives, result_ofAttempt, raises]
  · rw [enforce, invocations_bind_of_ok gives, invocations_ofAttempt, List.append_nil]

theorem enforce_allows (facts : Facts) (site : Site) (allows : check.Allows) :
    (check.enforce facts site).result = .ok .none ∧
      (check.enforce facts site).invocations = check.invocations := by
  obtain ⟨result, gives, decided⟩ := allows
  cases decided with
  | result valued => exact enforce_decides gives valued

theorem enforce_denies {error : Value} (facts : Facts) (site : Site)
    (denies : check.DeniesWith error) :
    (check.enforce facts site).result = .error (error.denial facts site) ∧
      (check.enforce facts site).invocations = check.invocations := by
  obtain ⟨place, allowed, gives, valued⟩ := denies
  exact enforce_decides gives valued

end Run

namespace Resolution

variable {field : Resolution} {raising : Site} {error value : Value}

/-- The field is resolved, and its outcome unwrapped. -/
def unwrapped (field : Resolution) (raising : Site) : Run Value :=
  field.run >>= fun outcome => .ofAttempt (outcome.unwrap field.around.facts raising)

/-- The field is resolved step by step, and a denial is raised where it is found. -/
def direct (field : Resolution) (raising : Site) : Run Value := do
  let _ ← field.guarding.enforce field.around.facts raising
  let value ← field.resolving
  let _ ← (field.releasing value).enforce field.around.facts raising
  pure value

/-- A stage of the resolution denies with this error. -/
inductive Refused (field : Resolution) (error : Value) : Prop where
  | before (denies : field.guarding.DeniesWith error)
  | after {value : Value} (allows : field.guarding.Allows)
      (resolved : field.resolving.result = .ok value)
      (denies : (field.releasing value).DeniesWith error)

/-- An outcome that has no value but this error. -/
def Denied (field : Resolution) (error outcome : Value) : Prop :=
  outcome = .deniedBefore field.site field.name error ∨
    outcome = .deniedAfter field.site field.name error

theorem invocations_unwrapped (field : Resolution) (raising : Site) :
    (field.unwrapped raising).invocations = field.run.invocations := by
  cases ended : field.run.result with
  | error cause => exact Run.invocations_bind_of_error ended
  | ok outcome =>
      rw [unwrapped, Run.invocations_bind_of_ok ended, Run.invocations_ofAttempt, List.append_nil]

theorem unwrapped_of_error {cause : Exception} (failed : field.run.result = .error cause) :
    (field.unwrapped raising).result = .error cause :=
  Run.result_bind_of_error failed

theorem unwrapped_of_outcome {outcome : Value} (ended : field.run.result = .ok outcome) :
    (field.unwrapped raising).result = outcome.unwrap field.around.facts raising := by
  rw [unwrapped, Run.result_bind_of_ok ended, Run.result_ofAttempt]

theorem unwrap_denied (unwritten : ∀ name, field.around.facts.store.find? (.object field.site) name = none)
    (raising : Site) {outcome : Value} (denied : field.Denied error outcome) :
    outcome.unwrap field.around.facts raising =
      .error (error.denial field.around.facts raising) := by
  rcases denied with rfl | rfl
  · exact Value.unwrap_outcome unwritten raising _ _ _ _ _
  · exact Value.unwrap_outcome unwritten raising _ _ _ _ _

/-- Once the guard allows and the value is there, what is left is the post guard. -/
theorem direct_of_resolved (raising : Site) (allows : field.guarding.Allows)
    (resolved : field.resolving.result = .ok value) :
    let released : Run Value :=
      (field.releasing value).enforce field.around.facts raising >>= fun _ => pure value
    (field.direct raising).result = released.result ∧
      (field.direct raising).invocations =
        field.guarding.invocations ++ field.resolving.invocations ++ released.invocations := by
  obtain ⟨passes, log⟩ := Run.enforce_allows field.around.facts raising allows
  constructor
  · rw [direct, Run.result_bind_of_ok passes, Run.result_bind_of_ok resolved]
  · rw [direct, Run.invocations_bind_of_ok passes, Run.invocations_bind_of_ok resolved, log,
      List.append_assoc]

/-- Either way a refusal ends the run after the same invocations: directly it is raised, and in a
resolution it is reported first. -/
theorem run_of_refused (raising : Site) (refused : field.Refused error) :
    (field.direct raising).result = .error (error.denial field.around.facts raising) ∧
      ∃ stage outcome, field.Denied error outcome ∧
        field.run.result = (field.refuse stage outcome error).result ∧
        field.run.invocations =
          (field.direct raising).invocations ++ (field.refuse stage outcome error).invocations := by
  cases refused with
  | before denies =>
      obtain ⟨raised, directLog⟩ := Run.enforce_denies field.around.facts raising denies
      obtain ⟨result, log⟩ := Surroundings.stage_denies denies
      rw [← run_eq_stages] at result log
      refine ⟨Run.result_bind_of_error raised, "guard", _, .inl rfl, result, ?_⟩
      rw [log, direct, Run.invocations_bind_of_error raised, directLog]
  | after allows resolved denies =>
      obtain ⟨raised, releaseLog⟩ := Run.enforce_denies field.around.facts raising denies
      obtain ⟨directResult, directLog⟩ := direct_of_resolved raising allows resolved
      obtain ⟨runResult, runLog⟩ := run_of_resolved allows resolved
      obtain ⟨result, log⟩ := Surroundings.stage_denies denies
      rw [← conclude_eq_stage] at result log
      refine ⟨?_, "post_guard", _, .inr rfl, runResult.trans result, ?_⟩
      · rw [directResult, Run.result_bind_of_error raised]
      · rw [runLog, log, directLog, Run.invocations_bind_of_error raised, releaseLog]
        simp only [List.append_assoc]

/-- The outcome of a refusal is unwrapped to what the direct program raises, once it is reported. -/
theorem unwrapped_of_refused
    (unwritten : ∀ name, field.around.facts.store.find? (.object field.site) name = none)
    (raising : Site) (refused : field.Refused error) :
    (field.unwrapped raising).invocations = (field.direct raising).invocations ∧
      (field.tells error = .ok () →
        (field.unwrapped raising).result = .error (error.denial field.around.facts raising)) ∧
      (∀ fault, field.tells error = .error fault →
        (field.unwrapped raising).result = .error (.fault (field.site.child 4) fault)) ∧
      ∀ outcome, field.run.result = .ok outcome → field.Denied error outcome := by
  obtain ⟨-, stage, outcome, denied, result, log⟩ := run_of_refused raising refused
  obtain ⟨silent, ends⟩ := field.around.refuse_ends field.logDenials (field.guard.elim .none .guard)
    (field.post.elim .none .post) field.name error outcome stage (field.site.child 4)
  refine ⟨?_, fun told => ?_, fun fault untold => ?_, fun other ended => ?_⟩
  · rw [invocations_unwrapped, log]
    exact (congrArg _ silent).trans (List.append_nil _)
  · rw [unwrapped_of_outcome (result.trans (refuse_told told).1), unwrap_denied unwritten raising denied]
  · exact unwrapped_of_error (result.trans (refuse_untold untold).1)
  · have given := result.symm.trans ended
    rcases ends with ⟨cause, failed⟩ | gives
    · exact nomatch failed.symm.trans given
    · cases gives.symm.trans given
      exact denied

section Unrefused

/-- Both runs invoke the same, and raise the same or give a value and the outcome that has it. -/
structure Parallel (field : Resolution) (raising : Site) : Prop where
  log : field.run.invocations = (field.direct raising).invocations
  ends : (∃ cause, field.run.result = .error cause ∧ (field.direct raising).result = .error cause) ∨
    ∃ value, field.run.result = .ok (.released field.site field.name value) ∧
      (field.direct raising).result = .ok value

theorem parallel_of_raising_guard {cause : Exception} (raising : Site)
    (raises : field.guarding.result = .error cause) : field.Parallel raising := by
  obtain ⟨result, log⟩ := Surroundings.stage_raises raises
  rw [← run_eq_stages] at result log
  obtain ⟨raised, directLog⟩ := Run.enforce_raises field.around.facts raising raises
  constructor
  · rw [log, direct, Run.invocations_bind_of_error raised, directLog]
  · exact .inl ⟨cause, result, Run.result_bind_of_error raised⟩

theorem parallel_of_raising_resolver {cause : Exception} (raising : Site)
    (allows : field.guarding.Allows) (raises : field.resolving.result = .error cause) :
    field.Parallel raising := by
  obtain ⟨result, log⟩ := resolver_raises allows raises
  obtain ⟨passes, directLog⟩ := Run.enforce_allows field.around.facts raising allows
  constructor
  · rw [log, direct, Run.invocations_bind_of_ok passes, Run.invocations_bind_of_error raises,
      directLog]
  · refine .inl ⟨cause, result, ?_⟩
    rw [direct, Run.result_bind_of_ok passes]
    exact Run.result_bind_of_error raises

theorem parallel_of_raising_post {cause : Exception} (raising : Site)
    (allows : field.guarding.Allows) (resolved : field.resolving.result = .ok value)
    (raises : (field.releasing value).result = .error cause) : field.Parallel raising := by
  obtain ⟨runResult, runLog⟩ := run_of_resolved allows resolved
  obtain ⟨directResult, directLog⟩ := direct_of_resolved raising allows resolved
  obtain ⟨result, log⟩ := Surroundings.stage_raises raises
  rw [← conclude_eq_stage] at result log
  obtain ⟨raised, releaseLog⟩ := Run.enforce_raises field.around.facts raising raises
  constructor
  · rw [runLog, log, directLog, Run.invocations_bind_of_error raised, releaseLog]
  · refine .inl ⟨cause, runResult.trans result, ?_⟩
    rw [directResult, Run.result_bind_of_error raised]

theorem parallel_of_release (raising : Site) (allows : field.guarding.Allows)
    (resolved : field.resolving.result = .ok value) (releases : (field.releasing value).Allows) :
    field.Parallel raising := by
  obtain ⟨runResult, runLog⟩ := run_of_resolved allows resolved
  obtain ⟨directResult, directLog⟩ := direct_of_resolved raising allows resolved
  obtain ⟨result, log⟩ := Surroundings.stage_allows releases
  rw [← conclude_eq_stage] at result log
  obtain ⟨passes, releaseLog⟩ := Run.enforce_allows field.around.facts raising releases
  constructor
  · rw [runLog, log, directLog, Run.invocations_bind_of_ok passes, releaseLog]
    rfl
  · refine .inr ⟨value, runResult.trans result, ?_⟩
    rw [directResult, Run.result_bind_of_ok passes]
    rfl

/-- Where nothing is refused, it makes no difference to resolve the field directly. -/
theorem parallel_of_unrefused (raising : Site) (answers : ∀ run ∈ field.guardChecks, run.Answers)
    (postAnswers : ∀ value, field.resolving.result = .ok value →
      ∀ run ∈ field.postChecks value, run.Answers)
    (unrefused : ∀ error, ¬ field.Refused error) : field.Parallel raising := by
  cases guarding_ends answers with
  | raises split earlier raises ended => exact parallel_of_raising_guard raising ended
  | denies denies => exact absurd (.before denies) (unrefused _)
  | allows allows =>
      cases resolved : field.resolving.result with
      | error cause => exact parallel_of_raising_resolver raising allows resolved
      | ok value =>
          cases releasing_ends (postAnswers value resolved) with
          | raises split earlier raises ended =>
              exact parallel_of_raising_post raising allows resolved ended
          | denies denies => exact absurd (.after allows resolved denies) (unrefused _)
          | allows releases => exact parallel_of_release raising allows resolved releases

end Unrefused

/-- Resolving a field and unwrapping its outcome invokes what the direct program invokes, and ends as
that does where denials can be reported: with the value, or with what a leaf, the function or a denial
raises. A denial raises an exception that it carries, and in all other cases one that carries its error
and tells it. Where a denial cannot be reported, the report fails instead. -/
theorem unwrapped_agrees_with_direct (field : Resolution) (raising : Site)
    (answers : ∀ run ∈ field.guardChecks, run.Answers)
    (postAnswers : ∀ value, field.resolving.result = .ok value →
      ∀ run ∈ field.postChecks value, run.Answers)
    (unwritten : ∀ name, field.around.facts.store.find? (.object field.site) name = none) :
    let facts := field.around.facts
    (field.unwrapped raising).invocations = (field.direct raising).invocations ∧
      ((∀ error, field.Refused error → field.tells error = .ok ()) →
        (field.unwrapped raising).result = (field.direct raising).result) ∧
      (∀ error, field.Refused error →
        (field.direct raising).result = .error (error.denial facts raising) ∧
        (∀ raised, error = .exception raised → error.denial facts raising = raised) ∧
        (∀ text, (∀ raised, error ≠ .exception raised) → facts.say error = .ok text →
          error.denial facts raising =
            .domain raising (.known "GuardDeniedError")
              (.str (if error.isNone then Exception.defaultDenial else text)) (.str "GUARD_DENIED")
              (.dict (raising.child 0) []) (some error)) ∧
        ∀ fault, field.tells error = .error fault →
          (field.unwrapped raising).result = .error (.fault (field.site.child 4) fault)) ∧
      ∀ outcome, field.run.result = .ok outcome →
        (∃ value, outcome = .released field.site field.name value ∧
          outcome.unwrap facts raising = .ok value) ∨
        ∃ error, field.Refused error ∧ field.Denied error outcome ∧
          outcome.unwrap facts raising = .error (error.denial facts raising) := by
  intro facts
  by_cases refuses : ∃ error, field.Refused error
  · obtain ⟨error, refused⟩ := refuses
    obtain ⟨log, told, -, denied⟩ := unwrapped_of_refused unwritten raising refused
    refine ⟨log, fun tells => ?_, fun error refused => ?_, fun outcome ended => .inr ?_⟩
    · rw [told (tells error refused), (run_of_refused raising refused).1]
    · refine ⟨(run_of_refused raising refused).1, ?_, fun text plain worded => ?_, ?_⟩
      · rintro raised rfl
        rfl
      · exact denial_of_value raising plain worded
      · exact (unwrapped_of_refused unwritten raising refused).2.2.1
    · exact ⟨error, refused, denied outcome ended, unwrap_denied unwritten raising (denied outcome ended)⟩
  · have unrefused : ∀ error, ¬ field.Refused error := fun error refused => refuses ⟨error, refused⟩
    obtain ⟨log, ends⟩ := parallel_of_unrefused raising answers postAnswers unrefused
    have unwraps (value : Value) :
        (Value.released field.site field.name value).unwrap facts raising = .ok value :=
      Value.unwrap_outcome unwritten raising _ _ _ _ _
    refine ⟨?_, fun _ => ?_, fun error refused => absurd refused (unrefused error),
      fun outcome ended => .inl ?_⟩
    · rw [invocations_unwrapped, log]
    · rcases ends with ⟨cause, raised, failed⟩ | ⟨value, released, given⟩
      · rw [unwrapped_of_error raised, failed]
      · rw [unwrapped_of_outcome released, given]
        exact unwraps value
    · rcases ends with ⟨cause, raised, -⟩ | ⟨value, released, -⟩
      · exact nomatch raised.symm.trans ended
      · cases released.symm.trans ended
        exact ⟨value, rfl, unwraps value⟩

/-- A post guard that denies without an error, which is raised as a denial that carries none. -/
theorem unwrapped_of_mute_denial :
    let around := Session.initial.scene.surroundings
    let audit := Value.callable ⟨⟨[0]⟩, none, "audit", .async, 1,
      .reply (.gives (.result ⟨[1]⟩ (.int 0) .none))⟩
    let function := Value.callable ⟨⟨[2]⟩, none, "compute", .async, 1, .reply (.gives (.int 7))⟩
    let field : Resolution := ⟨around, .bool true, none,
      some (.function ⟨[3]⟩ .none audit .none .none .none), .str "field", .none, function, ⟨[], []⟩,
      .root⟩
    let raising : Site := ⟨[4]⟩
    (∀ run ∈ field.guardChecks, run.Answers) ∧
      (∀ value, field.resolving.result = .ok value → ∀ run ∈ field.postChecks value, run.Answers) ∧
      (∀ name, field.around.facts.store.find? (.object field.site) name = none) ∧
      (∀ error, field.Refused error → field.tells error = .ok ()) ∧ field.Refused .none ∧
      (field.unwrapped raising).result =
        .error (.domain raising (.known "GuardDeniedError") (.str "Access denied")
          (.str "GUARD_DENIED") (.dict (raising.child 0) []) (some .none)) := by
  intro around audit function field raising
  have answers : ∀ run ∈ field.guardChecks, run.Answers := List.forall_mem_nil _
  have postAnswers : ∀ value, field.resolving.result = .ok value →
      ∀ run ∈ field.postChecks value, run.Answers := by
    intro value given run member
    rw [List.mem_singleton.mp member]
    exact Run.answers_of_ok rfl (.result rfl)
  have unwritten : ∀ name, field.around.facts.store.find? (.object field.site) name = none :=
    fun _ => rfl
  have refused : field.Refused .none :=
    .after (allowing_allows _) rfl ⟨⟨[1]⟩, .int 0, rfl, rfl⟩
  have tells : ∀ error, field.Refused error → field.tells error = .ok () := by
    intro error refused
    cases refused with
    | before denies =>
        obtain ⟨place, allowed, gives, valued⟩ := denies
        cases gives
        exact nomatch valued
    | after allows resolved denies =>
        obtain ⟨place, allowed, gives, valued⟩ := denies
        cases gives
        rfl
  obtain ⟨-, same, refuses, -⟩ :=
    unwrapped_agrees_with_direct field raising answers postAnswers unwritten
  obtain ⟨raised, -, carries, -⟩ := refuses .none refused
  refine ⟨answers, postAnswers, unwritten, tells, refused, ?_⟩
  rw [same tells, raised, carries "None" nofun rfl]
  rfl

/-- An exception that a denial carries, but that cannot be put into words: directly it is raised, and
unwrapping does not get to see it, since the report fails. -/
theorem unwrapped_differs_on_untold_denial :
    let carried := Exception.http ⟨[0]⟩ [] (.int 403) (.str "no") .none
    let store := Store.empty.erase (.object ⟨[0]⟩) "detail"
    let scene : Scene := ⟨⟨.initial, store⟩, Session.initial.scene.configuration⟩
    let function := Value.callable ⟨⟨[2]⟩, none, "compute", .async, 1, .reply (.gives (.int 7))⟩
    let field : Resolution := ⟨scene.surroundings, .bool true,
      some (.denyAll ⟨[1]⟩ (.exception carried)), none, .str "field", .none, function, ⟨[], []⟩,
      .root⟩
    let raising : Site := ⟨[4]⟩
    (∀ run ∈ field.guardChecks, run.Answers) ∧ (∀ value, field.postChecks value = []) ∧
      (∃ value, field.resolving.result = .ok value) ∧
      (field.direct raising).result = .error carried ∧
      ∃ place fault, (field.unwrapped raising).result = .error (.fault place fault) := by
  intro carried store scene function field raising
  have obstructed : (scene.facts.obstacle? (.exception carried)).isSome = true := by decide +kernel
  obtain ⟨fault, obstacle⟩ := Option.isSome_iff_exists.mp obstructed
  have refused : field.Refused (.exception carried) := .before ⟨_, _, rfl, rfl⟩
  have untold : field.tells (.exception carried) = .error fault := by
    have silent : scene.facts.say (.exception carried) = .error fault := by
      rw [Facts.say, obstacle]
    change scene.facts.tells (.bool true) (.str "field") (.exception carried) = _
    rw [Facts.tells, Facts.say_str, silent]
    rfl
  obtain ⟨raised, stage, outcome, -, result, -⟩ := run_of_refused raising refused
  refine ⟨?_, fun value => rfl, ⟨_, rfl⟩, raised, _, fault,
    unwrapped_of_error (result.trans (refuse_untold untold).1)⟩
  intro run member
  rw [List.mem_singleton.mp member]
  exact Run.answers_of_ok rfl (.result rfl)

end Resolution

end GuardAlgebra
