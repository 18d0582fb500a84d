import GuardAlgebra.Call.Method
import GuardAlgebra.Proofs.Leaves

namespace GuardAlgebra

/-! # Denials

A stage checks its guard and takes the result at its word: it lets the run go on, or denies with the
error of that very result. A denial is reported before the run ends; reporting invokes nothing, but
it fails where the denial cannot be put into words.
-/

namespace Surroundings

variable {around : Surroundings} {site : Site}

/-- What a stage makes of the result of its check. -/
def judge (around : Surroundings) (site : Site) (result : Value) : Run (Option Value) := do
  if ← .ofAttempt (result.allows around.facts site) then pure none
  else
    let error ← .ofExcept site (result.denialError around.facts)
    pure (some error)

theorem judge_of_truth {place : Site} {allowed error : Value} {truth : Bool}
    (valued : allowed.truth = .ok truth) :
    around.judge site (.result place allowed error) = .done (if truth then none else some error) := by
  have decided : (Value.result place allowed error).Decides truth := .result valued
  rw [judge, Value.allows_of_decides around.facts site decided]
  cases truth <;> rfl

theorem invocations_judge (around : Surroundings) (site : Site) (check : Run Value) :
    (check >>= around.judge site).invocations = check.invocations := by
  cases gives : check.result with
  | error cause => exact Run.invocations_bind_of_error gives
  | ok result =>
      have silent : (around.judge site result).invocations = [] := by
        rw [judge]
        cases result.allows around.facts site with
        | error cause => rfl
        | ok truth =>
            cases truth with
            | true => rfl
            | false => cases result.denialError around.facts <;> rfl
      rw [Run.invocations_bind_of_ok gives, silent, List.append_nil]

theorem denial?_guard (around : Surroundings) (tree : Guard) (context : Value) (site : Site) :
    around.denial? (.guard tree) [context] site =
      tree.check around context (site.child 0) >>= around.judge (site.child 1) := rfl

theorem denial?_post (around : Surroundings) (tree : PostGuard) (context value : Value)
    (site : Site) :
    around.denial? (.post tree) [context, value] site =
      tree.check around context value (site.child 0) >>= around.judge (site.child 1) := rfl

section Stage

variable {check : Run Value} {next : Option Value → Run Value}

theorem stage_raises {cause : Exception} (raises : check.result = .error cause) :
    (check >>= around.judge site >>= next).result = .error cause ∧
      (check >>= around.judge site >>= next).invocations = check.invocations := by
  have judged : (check >>= around.judge site).result = .error cause :=
    Run.result_bind_of_error raises
  constructor
  · exact Run.result_bind_of_error judged
  · rw [Run.invocations_bind_of_error judged, Run.invocations_bind_of_error raises]

/-- A check that decides has the run go on with no error, or with the one it carries. -/
theorem stage_goesOn {place : Site} {allowed error : Value} {truth : Bool}
    (gives : check.result = .ok (.result place allowed error)) (valued : allowed.truth = .ok truth) :
    (check >>= around.judge site >>= next).result =
        (next (if truth then none else some error)).result ∧
      (check >>= around.judge site >>= next).events =
        check.events ++ (next (if truth then none else some error)).events := by
  have judge : around.judge site (.result place allowed error) =
      .done (if truth then none else some error) := judge_of_truth valued
  have judged : (check >>= around.judge site).result =
      .ok (if truth then none else some error) := by
    rw [Run.result_bind_of_ok gives, judge]
    rfl
  constructor
  · exact Run.result_bind_of_ok judged
  · rw [Run.events_bind_of_ok judged, Run.events_bind_of_ok gives, judge, Run.events_done,
      List.append_nil]

theorem stage_decides {place : Site} {allowed error : Value} {truth : Bool}
    (gives : check.result = .ok (.result place allowed error)) (valued : allowed.truth = .ok truth) :
    (check >>= around.judge site >>= next).result =
        (next (if truth then none else some error)).result ∧
      (check >>= around.judge site >>= next).invocations =
        check.invocations ++ (next (if truth then none else some error)).invocations := by
  obtain ⟨result, log⟩ : _ ∧ (check >>= around.judge site >>= next).events = _ :=
    stage_goesOn gives valued
  refine ⟨result, ?_⟩
  rw [Run.invocations, log, List.filterMap_append]
  rfl

theorem stage_allows (allows : check.Allows) :
    (check >>= around.judge site >>= next).result = (next none).result ∧
      (check >>= around.judge site >>= next).invocations =
        check.invocations ++ (next none).invocations := by
  obtain ⟨result, gives, decided⟩ := allows
  cases decided with
  | result valued => exact stage_decides gives valued

theorem stage_denies {error : Value} (denies : check.DeniesWith error) :
    (check >>= around.judge site >>= next).result = (next (some error)).result ∧
      (check >>= around.judge site >>= next).invocations =
        check.invocations ++ (next (some error)).invocations := by
  obtain ⟨place, allowed, gives, valued⟩ := denies
  exact stage_decides gives valued

theorem events_stage_allows (allows : check.Allows) :
    (check >>= around.judge site >>= next).events = check.events ++ (next none).events := by
  obtain ⟨result, gives, decided⟩ := allows
  cases decided with
  | result valued => exact (stage_goesOn gives valued).2

theorem events_stage_denies {error : Value} (denies : check.DeniesWith error) :
    (check >>= around.judge site >>= next).events = check.events ++ (next (some error)).events := by
  obtain ⟨place, allowed, gives, valued⟩ := denies
  exact (stage_goesOn gives valued).2

end Stage

end Surroundings

/-- Whether a denial can be reported: the settings say whether to, and if so the name of the field
and the error are put into words. -/
def Facts.tells (facts : Facts) (logDenials name error : Value) : Except Fault Unit := do
  if ← logDenials.truth then
    let _ ← facts.say name
    let _ ← facts.say error
    pure ()
  else pure ()

theorem Facts.say_str (facts : Facts) (text : Text) : facts.say (.str text) = .ok text := rfl

namespace Surroundings

variable {around : Surroundings} {logDenials before after name error : Value} {site : Site}

/-- A report goes through where the denial can be told, and invokes nothing either way. -/
theorem reportDenial_tells (around : Surroundings) (logDenials before after name error : Value)
    (site : Site) (stage : String) :
    let report := around.reportDenial logDenials (.whole before after name) (.str stage) error site
    report.result = attempt site (around.facts.tells logDenials name error) ∧
      report.invocations = [] := by
  intro report
  change (note logDenials site (.ofExcept site _)).result = _ ∧
    (note logDenials site (.ofExcept site _)).invocations = _
  simp only [note, Facts.tells, Resolver.denialRecord, Facts.say_str]
  cases logDenials.truth with
  | error fault => exact ⟨rfl, rfl⟩
  | ok noted =>
      cases noted with
      | false => exact ⟨rfl, rfl⟩
      | true =>
          cases around.facts.say name with
          | error fault => exact ⟨rfl, rfl⟩
          | ok nameText => cases around.facts.say error <;> exact ⟨rfl, rfl⟩

/-- What comes of a denial: it is reported, then the outcome is given. -/
def refuse (around : Surroundings) (logDenials : Value) (resolver : Resolver) (stage : String)
    (error outcome : Value) (site : Site) : Run Value := do
  around.reportDenial logDenials resolver (.str stage) error site
  pure outcome

theorem refuse_told {stage : String} {outcome : Value}
    (told : around.facts.tells logDenials name error = .ok ()) :
    (around.refuse logDenials (.whole before after name) stage error outcome site).result =
        .ok outcome ∧
      (around.refuse logDenials (.whole before after name) stage error outcome site).invocations =
        [] := by
  obtain ⟨reported, silent⟩ := around.reportDenial_tells logDenials before after name error site stage
  rw [told] at reported
  constructor
  · exact Run.result_bind_of_ok reported
  · rw [refuse, Run.invocations_bind_of_ok reported, silent]
    rfl

theorem refuse_untold {stage : String} {outcome : Value} {fault : Fault}
    (untold : around.facts.tells logDenials name error = .error fault) :
    (around.refuse logDenials (.whole before after name) stage error outcome site).result =
        .error (.fault site fault) ∧
      (around.refuse logDenials (.whole before after name) stage error outcome site).invocations =
        [] := by
  obtain ⟨reported, silent⟩ := around.reportDenial_tells logDenials before after name error site stage
  rw [untold] at reported
  constructor
  · exact Run.result_bind_of_error reported
  · rw [refuse, Run.invocations_bind_of_error reported, silent]

/-- A refusal asks nobody, and ends in its outcome or in the failure of its report. -/
theorem refuse_ends (around : Surroundings) (logDenials before after name error outcome : Value)
    (stage : String) (site : Site) :
    (around.refuse logDenials (.whole before after name) stage error outcome site).invocations =
        [] ∧
      ((∃ cause, (around.refuse logDenials (.whole before after name) stage error outcome
          site).result = .error cause) ∨
        (around.refuse logDenials (.whole before after name) stage error outcome site).result =
          .ok outcome) := by
  cases told : around.facts.tells logDenials name error with
  | ok done =>
      obtain ⟨ended, silent⟩ := refuse_told told
      exact ⟨silent, .inr ended⟩
  | error fault =>
      obtain ⟨ended, silent⟩ := refuse_untold told
      exact ⟨silent, .inl ⟨_, ended⟩⟩

end Surroundings

end GuardAlgebra
