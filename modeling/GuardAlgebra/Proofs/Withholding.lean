import GuardAlgebra.Proofs.Unwrapping

namespace GuardAlgebra

/-! # What is withheld

A denial tells of its error, its stage and the name of the field, and of nothing else. So what a post
guard withholds can be neither seen in the outcome nor read in the log, and a field that is denied to
begin with is denied in the same way whatever would have been resolved.
-/

/-- The records of a report: one where the settings ask for it and it can be put into words. -/
def Facts.reported (facts : Facts) (logDenials name : Value) (stage : String) (error : Value) :
    List Record :=
  match logDenials.truth, Resolver.denialRecord facts name (.str stage) error with
  | .ok true, .ok record => [record]
  | _, _ => []

namespace Surroundings

variable (around : Surroundings) (logDenials before after name error : Value) (stage : String)
  (site : Site)

theorem events_reportDenial :
    (around.reportDenial logDenials (.whole before after name) (.str stage) error site).events =
      (around.facts.reported logDenials name stage error).map .logged := by
  change (note logDenials site (.ofExcept site _)).events = _
  simp only [note, Facts.reported]
  cases logDenials.truth with
  | error fault => rfl
  | ok noted =>
      cases noted with
      | false => rfl
      | true => cases Resolver.denialRecord around.facts name (.str stage) error <;> rfl

theorem events_refuse (outcome : Value) :
    (around.refuse logDenials (.whole before after name) stage error outcome site).events =
      (around.facts.reported logDenials name stage error).map .logged := by
  have told := around.events_reportDenial logDenials before after name error stage site
  cases ended : (around.reportDenial logDenials (.whole before after name) (.str stage) error
      site).result with
  | error cause => rw [refuse, Run.events_bind_of_error ended, told]
  | ok done =>
      rw [refuse, Run.events_bind_of_ok ended, told]
      exact List.append_nil _

end Surroundings

namespace Resolution

variable {field : Resolution} {value error : Value}

/-- The records by which the field tells of a denial. -/
def reported (field : Resolution) (stage : String) (error : Value) : List Record :=
  field.around.facts.reported field.logDenials field.name stage error

/-- A value that the post guard does not release is followed by a report, and leaves no other trace. -/
theorem run_of_withheld (allows : field.guarding.Allows)
    (resolved : field.resolving.result = .ok value) (denies : (field.releasing value).DeniesWith error) :
    field.run.result =
        (field.refuse "post_guard" (.deniedAfter field.site field.name error) error).result ∧
      field.run.events = field.guarding.events ++ field.resolving.events ++
        (field.releasing value).events ++ (field.reported "post_guard" error).map .logged := by
  obtain ⟨runResult, -⟩ := run_of_resolved allows resolved
  obtain ⟨result, -⟩ := Surroundings.stage_denies denies
  rw [← conclude_eq_stage] at result
  refine ⟨runResult.trans result, ?_⟩
  have refused : (field.refuse "post_guard" (.deniedAfter field.site field.name error) error).events =
      (field.reported "post_guard" error).map .logged := field.around.events_refuse ..
  rw [run_eq_stages, Surroundings.events_stage_allows allows]
  change _ ++ (field.resolving >>= field.conclude).events = _
  rw [Run.events_bind_of_ok resolved, conclude_eq_stage, Surroundings.events_stage_denies denies]
  change _ ++ (_ ++ (_ ++ (field.refuse "post_guard" _ error).events)) = _
  rw [refused, List.append_assoc, List.append_assoc]

theorem records_of_withheld (allows : field.guarding.Allows)
    (resolved : field.resolving.result = .ok value) (denies : (field.releasing value).DeniesWith error) :
    field.run.records = field.guarding.records ++ field.resolving.records ++
      (field.releasing value).records ++ field.reported "post_guard" error := by
  have told : ((field.reported "post_guard" error).map Event.logged).filterMap Event.record? =
      field.reported "post_guard" error := by
    rw [List.filterMap_map]
    exact List.filterMap_some
  rw [Run.records, (run_of_withheld allows resolved denies).2]
  simp only [List.filterMap_append, told]
  rfl

/-- Where the guard denies, neither the function nor the post guard is asked for. -/
theorem run_of_denied (denies : field.guarding.DeniesWith error) (function : Value)
    (arguments : Arguments) (post : Option PostGuard) :
    { field with function, arguments, post }.run = field.run := by
  obtain ⟨place, allowed, gives, valued⟩ := denies
  rw [run_eq_stages, run_eq_stages]
  apply Run.bind_congr_of_result
  intro denial judged
  have refused : (field.guarding >>= field.around.judge ((field.site.child 0).child 1)).result =
      .ok (some error) := by
    rw [Run.result_bind_of_ok gives, Surroundings.judge_of_truth valued]
    rfl
  cases refused.symm.trans judged
  rfl

/-- What a post guard withholds leaves no trace. Two resolutions of a field that differ in what they
resolve, and are denied with the same error, have the same outcome, raise the same when that is
unwrapped, and tell the log the same; all other records are those of the guards and functions
themselves. Where the guard denies, the whole run is the same, whatever would have been resolved and
whatever post guard would have been asked. -/
theorem withheld_value_leaves_no_trace (field : Resolution) (function : Value)
    (arguments : Arguments) (error : Value) :
    let other : Resolution := { field with function, arguments }
    (∀ first second, field.guarding.Allows → field.resolving.result = .ok first →
      other.resolving.result = .ok second → (field.releasing first).DeniesWith error →
      (field.releasing second).DeniesWith error →
      other.run.result = field.run.result ∧
      (∀ raising, (other.unwrapped raising).result = (field.unwrapped raising).result) ∧
      (field.tells error = .ok () →
        field.run.result = .ok (.deniedAfter field.site field.name error) ∧
        ((∀ name, field.around.facts.store.find? (.object field.site) name = none) →
          ∀ raising, (field.unwrapped raising).result =
            .error (error.denial field.around.facts raising))) ∧
      field.run.records = field.guarding.records ++ field.resolving.records ++
        (field.releasing first).records ++ field.reported "post_guard" error ∧
      other.run.records = field.guarding.records ++ other.resolving.records ++
        (field.releasing second).records ++ field.reported "post_guard" error ∧
      (other.resolving.records = field.resolving.records →
        (field.releasing second).records = (field.releasing first).records →
        other.run.records = field.run.records)) ∧
    (field.guarding.DeniesWith error → ∀ post, { other with post }.run = field.run) := by
  intro other
  constructor
  · intro first second allows resolved otherResolved denies otherDenies
    have otherAllows : other.guarding.Allows := allows
    have otherReleases : (other.releasing second).DeniesWith error := otherDenies
    have result := (run_of_withheld allows resolved denies).1
    have records := records_of_withheld allows resolved denies
    have otherRecords := records_of_withheld otherAllows otherResolved otherReleases
    have same : other.run.result = field.run.result :=
      (run_of_withheld otherAllows otherResolved otherReleases).1.trans result.symm
    refine ⟨same, fun raising => ?_, fun told => ⟨?_, fun unwritten raising => ?_⟩, records,
      otherRecords, fun resolving releasing => ?_⟩
    · rw [unwrapped, unwrapped, Run.result_bind, Run.result_bind, same]
    · exact result.trans (refuse_told told).1
    · exact (unwrapped_of_refused unwritten raising (.after allows resolved denies)).2.1 told
    · rw [records, otherRecords, resolving]
      exact congrArg (_ ++ · ++ _) releasing
  · intro denies post
    exact run_of_denied denies function arguments post

/-- Two values that the post guard withholds, and a guard that denies before there is a value. -/
theorem withheld_numbers_leave_no_trace :
    let audit := Value.callable ⟨⟨[0]⟩, none, "audit", .async, 1,
      .reply (.gives (.result ⟨[1]⟩ (.bool false) (.str "no")))⟩
    let compute (number : Int) := Value.callable
      ⟨⟨[2]⟩, none, "compute", .async, 1, .reply (.gives (.int number))⟩
    let field : Resolution := ⟨Session.initial.scene.surroundings, .bool true, none,
      some (.function ⟨[3]⟩ .none audit .none .none .none), .str "field", .none, compute 7, ⟨[], []⟩,
      .root⟩
    let other : Resolution := { field with function := compute 8 }
    let closed : Resolution := { field with guard := some (.denyAll ⟨[4]⟩ (.str "closed")) }
    field.guarding.Allows ∧ field.resolving.result = .ok (.int 7) ∧
      other.resolving.result = .ok (.int 8) ∧
      (field.releasing (.int 7)).DeniesWith (.str "no") ∧
      (field.releasing (.int 8)).DeniesWith (.str "no") ∧
      other.run.result = field.run.result ∧ other.run.records = field.run.records ∧
      closed.guarding.DeniesWith (.str "closed") ∧
      { closed with function := compute 8, post := none }.run = closed.run := by
  intro audit compute field other closed
  have allows : field.guarding.Allows := allowing_allows _
  have first : field.resolving.result = .ok (.int 7) := rfl
  have second : other.resolving.result = .ok (.int 8) := rfl
  have withheld (number : Int) : (field.releasing (.int number)).DeniesWith (.str "no") :=
    ⟨⟨[1]⟩, .bool false, rfl, rfl⟩
  have denies : closed.guarding.DeniesWith (.str "closed") := ⟨_, _, rfl, rfl⟩
  obtain ⟨result, -, -, -, -, records⟩ :=
    (withheld_value_leaves_no_trace field (compute 8) ⟨[], []⟩ (.str "no")).1 (.int 7) (.int 8)
      allows first second (withheld 7) (withheld 8)
  have same := (withheld_value_leaves_no_trace closed (compute 8) ⟨[], []⟩ (.str "closed")).2 denies
  exact ⟨allows, first, second, withheld 7, withheld 8, result, records rfl rfl, denies, same none⟩

end Resolution

end GuardAlgebra
