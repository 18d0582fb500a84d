import GuardAlgebra.Proofs.Library
import GuardAlgebra.Proofs.Production
import GuardAlgebra.Proofs.Unwrapping
import GuardAlgebra.Session.Execute

namespace GuardAlgebra

/-! # Two routes of a denial

A guard can stand before a request or before a field. Either way its denial becomes a response, by an
admission that raises an exception with a status, or by an outcome that is unwrapped and raises the
error itself. The two choose the text for a denial that says nothing each for itself, so that is where
they can differ.
-/

/-- A guard before a request and before a field of the same session, for the same context. What is
made on the way is new, and the address of the request has a path. -/
structure Enforcement where
  around : Surroundings
  settings : Settings
  guard : Guard
  context : Value
  factory : Option Value
  received : Request
  field : String
  function : Value
  arguments : Arguments
  admission : Site
  resolution : Site
  unwrapping : Site
  handling : Site
  made : (Admission.context around factory (.request received) (admission.child 0)).result =
    .ok context
  readable : received.Readable
  known : Hierarchy.initial.Extends around.facts.hierarchy
  fresh : ∀ place ∈ [admission, resolution, unwrapping], ∀ name,
    around.facts.store.find? (.object place) name = none

namespace Enforcement

variable (both : Enforcement) {error : Value}

def resolved : Resolution where
  around := both.around
  logDenials := .bool both.settings.logDenials
  guard := some both.guard
  post := none
  name := .str both.field
  context := both.context
  function := both.function
  arguments := both.arguments
  site := both.resolution

/-- The response to what the admission of the request raises. -/
def byRequest : Option Response :=
  match (Admission.admission both.around both.settings.configuration both.guard both.factory
    (.request both.received) both.admission).result with
  | .ok _ => none
  | .error cause => (Handlers.handleStatus both.around.facts (.exception cause)).toOption

/-- The response to what unwrapping the outcome of the field raises. -/
def byField : Option Response :=
  match both.resolved.run.result >>= Value.unwrap both.around.facts both.unwrapping with
  | .ok _ => none
  | .error cause =>
      (Handlers.handleFailure both.around.facts both.settings.configuration (.request both.received)
        (.exception cause) both.handling).result.toOption

/-- The guard denies with this error, wherever it is checked. -/
def Denies (error : Value) : Prop :=
  ∀ site, (both.guard.check both.around both.context site).DeniesWith error

/-- The errors that a denial is answered for: values that can be put into words, and failures of the
library that rank as denials and say what can be written. What is exposed has to be sent, too. -/
inductive Answerable (facts : Facts) (settings : Settings) : Value → Prop where
  | value {error : Value} {text : Text} (plain : ∀ cause, error ≠ .exception cause)
      (worded : facts.say error = .ok text) (sent : settings.exposeDetails = true → text.IsWhole) :
      Answerable facts settings error
  | failure {site : Site} {cls : ClassId} {kept code details coded detailed : Value}
      {carried : Option Value} {message text : Text}
      (ranked : ∀ denied, Handlers.statusOf denied (facts.hierarchy.lineage cls) = denied)
      (worded : facts.say (.exception (.domain site cls kept code details carried)) = .ok text)
      (tells : facts.read (.exception (.domain site cls kept code details carried)) "message" =
        .ok (.str message))
      (codes : facts.read (.exception (.domain site cls kept code details carried)) "error_code" =
        .ok coded)
      (adds : facts.read (.exception (.domain site cls kept code details carried)) "details" =
        .ok detailed)
      (codeWritten : Json.Writable coded)
      (sent : settings.exposeDetails = true → message.IsWhole ∧ Json.Writable detailed) :
      Answerable facts settings (.exception (.domain site cls kept code details carried))

theorem denial?_of_denies (denies : both.Denies error) (site : Site) :
    (both.around.denial? (.guard both.guard) [both.context] site).result = .ok (some error) := by
  obtain ⟨place, allowed, gives, valued⟩ := denies (site.child 0)
  rw [Surroundings.denial?_guard, Run.result_bind_of_ok gives, Surroundings.judge_of_truth valued]
  rfl

theorem tells_of_worded {text : Text} (worded : both.around.facts.say error = .ok text) :
    both.resolved.tells error = .ok () := by
  change both.around.facts.tells (.bool both.settings.logDenials) (.str both.field) error = _
  rw [Facts.tells, Facts.say_str, worded]
  cases both.settings.logDenials <;> rfl

/-- Where the error can be put into words, the request is refused. -/
theorem result_request {text : Text} (denies : both.Denies error)
    (worded : both.around.facts.say error = .ok text) :
    (Admission.admission both.around both.settings.configuration both.guard both.factory
      (.request both.received) both.admission).result =
        .error (Admission.refusal both.around.facts both.settings.configuration error
          both.admission) := by
  have decided : both.settings.configuration.logDenials.truth = .ok both.settings.logDenials := rfl
  exact Admission.result_admission both.made (both.denial?_of_denies denies _) decided worded
    fun _ => both.readable

theorem byRequest_of_detail {text message : Text} (denies : both.Denies error)
    (worded : both.around.facts.say error = .ok text)
    (told : Admission.detail both.around.facts both.settings.configuration error =
      .ok (.str message)) (sent : message.IsWhole) :
    ∃ response, both.byRequest = some response ∧
      response.status = .int both.settings.statusCode ∧ response.message? = some message := by
  have unwritten := both.fresh both.admission (by simp)
  have code : Json.Writable (.str (Handlers.codeOf (.int both.settings.statusCode))) :=
    .plain (.str _)
  obtain ⟨response, answered⟩ := (Response.exists_tell_iff both.settings.statusCode).mpr
    ⟨Json.writable_str_iff.mpr sent, code, Json.writable_nothing⟩
  refine ⟨response, ?_, (Response.of_tell answered).1, Response.message?_of_tell answered⟩
  rw [byRequest, result_request both denies worded, Admission.refusal_of_detail told]
  change (Handlers.handleStatus _ (.exception (.http _ _ (.int both.settings.statusCode) _ _))).toOption = _
  rw [Handlers.handleStatus_of_unwritten unwritten, answered]
  rfl

/-- Where the error can be put into words, the field is denied. -/
theorem result_field {text : Text} (denies : both.Denies error)
    (worded : both.around.facts.say error = .ok text) :
    both.resolved.run.result = .ok (.deniedBefore both.resolution (.str both.field) error) := by
  have denied : both.resolved.guarding.DeniesWith error := denies _
  obtain ⟨result, -⟩ := Surroundings.stage_denies denied
  rw [Resolution.run_eq_stages, result]
  exact (Surroundings.refuse_told (both.tells_of_worded worded)).1

theorem unwrap_denied (error : Value) :
    Value.unwrap both.around.facts both.unwrapping
        (.deniedBefore both.resolution (.str both.field) error) =
      .error (error.denial both.around.facts both.unwrapping) :=
  Value.unwrap_outcome (both.fresh both.resolution (by simp)) both.unwrapping _ _ _ _ _

theorem byField_eq {text : Text} (denies : both.Denies error)
    (worded : both.around.facts.say error = .ok text) :
    both.byField =
      (Handlers.handleFailure both.around.facts both.settings.configuration
        (.request both.received)
        (.exception (error.denial both.around.facts both.unwrapping)) both.handling).result.toOption := by
  rw [byField, both.result_field denies worded]
  change (match Value.unwrap both.around.facts both.unwrapping _ with
    | .ok _ => _
    | .error cause => _) = _
  rw [unwrap_denied]

/-- What is said of an error where details are exposed. -/
inductive Words (facts : Facts) : Value → Text → Prop where
  | value {error : Value} {text : Text} (plain : ∀ cause, error ≠ .exception cause)
      (worded : facts.say error = .ok text) : Words facts error text
  | failure {site : Site} {cls : ClassId} {kept code details : Value} {carried : Option Value}
      {message : Text}
      (tells : facts.read (.exception (.domain site cls kept code details carried)) "message" =
        .ok (.str message)) :
      Words facts (.exception (.domain site cls kept code details carried)) message

theorem detail_of_words {facts : Facts} {settings : Settings} {words : Text}
    (said : Words facts error words) :
    Admission.detail facts settings.configuration error =
      .ok (.str (if settings.exposeDetails && !error.isNone then words else settings.detail)) := by
  cases exposes : settings.exposeDetails with
  | false => exact Admission.detail_of_hidden facts (congrArg Value.bool exposes) error
  | true =>
      rw [Admission.detail_of_exposed facts (congrArg Value.bool exposes) error]
      cases said with
      | failure tells => exact tells
      | value plain worded =>
          split
          · exact absurd rfl (plain _)
          · rfl
          next _ _ present =>
            rw [worded, Value.isNone_eq_false present]
            rfl

theorem hidden_or_none {settings : Settings}
    (unexposed : ¬(settings.exposeDetails && !error.isNone) = true) :
    settings.exposeDetails = false ∨ error = .none := by
  by_cases mute : error = .none
  · exact .inr mute
  · exact .inl (by simpa [Value.isNone_eq_false mute] using unexposed)

/-- The response to a failure that ranks as a denial. -/
theorem byField_of_failure {text message : Text} {cause : Exception} {code details : Value}
    (denies : both.Denies error) (worded : both.around.facts.say error = .ok text)
    (raises : error.denial both.around.facts both.unwrapping = cause)
    (ranked : ∀ denied,
      Handlers.statusOf denied (both.around.facts.hierarchy.lineage cause.cls) = denied)
    (tells : both.around.facts.read (.exception cause) "message" = .ok (.str message))
    (codes : both.around.facts.read (.exception cause) "error_code" = .ok code)
    (adds : both.around.facts.read (.exception cause) "details" = .ok details)
    (codeWritten : Json.Writable code)
    (sent : both.settings.exposeDetails = true → message.IsWhole ∧ Json.Writable details)
    (settled : both.settings.exposeDetails = false → both.settings.detail.IsWhole)
    (ofClient : both.settings.statusCode < 500) :
    ∃ response, both.byField = some response ∧
      response.status = .int both.settings.statusCode ∧
      response.message? =
        some (if both.settings.exposeDetails then message else both.settings.detail) := by
  obtain ⟨path, isPath⟩ := both.readable
  have ranks : Handlers.statusOf (.int both.settings.statusCode)
      (both.around.facts.hierarchy.lineage (Value.exception cause).cls) =
        .int both.settings.statusCode := ranked _
  -- What is told goes by the settings; either way it can be sent.
  obtain ⟨details, answered, writable⟩ : ∃ added, Handlers.answer both.around.facts.hierarchy
      both.settings.configuration (Value.exception cause).cls (.str message) code details =
        Response.tell both.settings.statusCode
          (.str (if both.settings.exposeDetails then message else both.settings.detail)) code added ∧
      (if both.settings.exposeDetails then message else both.settings.detail).IsWhole ∧
        Json.Writable added := by
    cases exposes : both.settings.exposeDetails with
    | true =>
        exact ⟨details, Handlers.answer_of_exposed ranks exposes, (sent exposes).1, (sent exposes).2⟩
    | false =>
        have hidden : Handlers.hiddenText both.settings both.settings.statusCode =
            both.settings.detail := if_pos ofClient
        exact ⟨_, (Handlers.answer_of_hidden ranks exposes).trans (by rw [hidden]; rfl),
          settled exposes, Json.writable_nothing⟩
  obtain ⟨response, told⟩ := (Response.exists_tell_iff both.settings.statusCode).mpr
    ⟨Json.writable_str_iff.mpr writable.1, codeWritten, writable.2⟩
  refine ⟨response, ?_, (Response.of_tell told).1, Response.message?_of_tell told⟩
  rw [byField_eq both denies worded, raises, Handlers.result_handleFailure_of_text
    both.settings.configuration both.received both.handling tells codes adds, isPath, answered, told]
  rfl

theorem statusOf_denied (denied : Value) :
    Handlers.statusOf denied (both.around.facts.hierarchy.lineage (.known "GuardDeniedError")) =
      denied := by
  have first : (Hierarchy.initial.lineage (.known "GuardDeniedError")).head? =
      some (.known "GuardDeniedError") := by decide +kernel
  obtain ⟨ancestors, lineage⟩ := List.head?_eq_some_iff.mp first
  rw [Hierarchy.lineage_known both.known, lineage]
  rfl

/-- Both routes answer a denial, with the status of the settings. They tell a client the same, unless
the denial has no error, details are exposed, and the settings have a text of their own for denials
that say nothing. Then only the request is told that text. Where the settings' text is told it has to be
one that can be sent. -/
theorem routes_agree_unless_mute (both : Enforcement) {error : Value}
    (ofClient : both.settings.statusCode < 500) (denies : both.Denies error)
    (settled : both.settings.exposeDetails = false ∨ error = .none → both.settings.detail.IsWhole)
    (answerable : Answerable both.around.facts both.settings error) :
    ∃ first second, both.byRequest = some first ∧ both.byField = some second ∧
      first.status = .int both.settings.statusCode ∧
      second.status = .int both.settings.statusCode ∧
      (first.message? = second.message? ↔
        ¬ (error = .none ∧ both.settings.exposeDetails = true ∧
          both.settings.detail ≠ Exception.defaultDenial)) := by
  cases answerable with
  | @value _ text plain worded sent =>
      have told : Admission.detail both.around.facts both.settings.configuration error = _ :=
        detail_of_words (.value plain worded)
      obtain ⟨tells, codes, adds⟩ := Handlers.read_domain both.around.facts both.unwrapping
        (.known "GuardDeniedError") (.str (if error.isNone then Exception.defaultDenial else text))
        (.str "GUARD_DENIED") (.dict (both.unwrapping.child 0) []) (some error)
        (both.fresh both.unwrapping (by simp))
      have said : both.settings.exposeDetails = true →
          (if error.isNone then Text.whole Exception.defaultDenial else text).IsWhole := by
        intro exposes
        split
        · exact ⟨_, rfl⟩
        · exact sent exposes
      have shown : (if both.settings.exposeDetails && !error.isNone then text
          else both.settings.detail).IsWhole := by
        split
        next exposed => exact sent (Bool.and_eq_true_iff.mp exposed).1
        next unexposed => exact settled (hidden_or_none unexposed)
      obtain ⟨second, handled, status, secondTells⟩ := both.byField_of_failure denies worded
        (denial_of_value both.unwrapping plain worded) both.statusOf_denied tells codes adds
        (.plain (.str _)) (fun exposes => ⟨said exposes, .dict _ nofun nofun⟩)
        (fun hides => settled (.inl hides)) ofClient
      obtain ⟨first, admitted, firstStatus, firstTells⟩ :=
        both.byRequest_of_detail denies worded told shown
      refine ⟨first, second, admitted, handled, firstStatus, status, ?_⟩
      rw [firstTells, secondTells]
      -- Without an error each route says what it says by default.
      by_cases mute : error = .none
      · subst mute
        cases exposes : both.settings.exposeDetails <;> simp [Value.isNone]
      · simp [mute, Value.isNone_eq_false mute]
  | @failure site cls kept code details coded detailed carried message text ranked worded
      tells codes adds codeWritten sent =>
      have told : Admission.detail both.around.facts both.settings.configuration _ = _ :=
        detail_of_words (.failure tells)
      have shown : (if both.settings.exposeDetails && !(Value.exception
          (.domain site cls kept code details carried)).isNone then message
            else both.settings.detail).IsWhole := by
        split
        next exposed => exact (sent (Bool.and_eq_true_iff.mp exposed).1).1
        next unexposed => exact settled (hidden_or_none unexposed)
      obtain ⟨second, handled, status, secondTells⟩ := both.byField_of_failure denies worded rfl
        ranked tells codes adds codeWritten sent (fun hides => settled (.inl hides)) ofClient
      obtain ⟨first, admitted, firstStatus, firstTells⟩ :=
        both.byRequest_of_detail denies worded told shown
      refine ⟨first, second, admitted, handled, firstStatus, status, ?_⟩
      rw [firstTells, secondTells]
      simp [Value.isNone]

/-- A guard that denies with an error, where details are exposed and the settings have a text of their
own. -/
def closed (error : Value) : Enforcement where
  around := Session.initial.scene.surroundings
  settings := ⟨"development", "INFO", true, 403, "No entry", true⟩
  guard := .denyAll ⟨[0]⟩ error
  context := .none
  factory := some (.callable ⟨⟨[1]⟩, none, "context", .sync, 0, .reply (.gives .none)⟩)
  received := ⟨⟨[2]⟩, "GET", "/reports", "", "http://test/reports", .ok "/reports", [], none⟩
  field := "report"
  function := .none
  arguments := ⟨[], []⟩
  admission := ⟨[3]⟩
  resolution := ⟨[4]⟩
  unwrapping := ⟨[5]⟩
  handling := ⟨[6]⟩
  made := rfl
  readable := ⟨_, rfl⟩
  known := Session.initial_extends
  fresh := fun _ _ _ => rfl

theorem closed_denies (error : Value) : (closed error).Denies error :=
  fun site => ⟨site, .bool false, rfl, rfl⟩

/-- An error that ranks as a denial is told alike on both routes. -/
theorem routes_agree_on_authorization :
    let error := Value.exception
      (.domain ⟨[7]⟩ (.known "AuthorizationError") (.str "owner only") (.str "ACCESS_DENIED")
        (.dict ⟨[8]⟩ []) none)
    ∃ first second, (closed error).byRequest = some first ∧ (closed error).byField = some second ∧
      first.status = second.status ∧ first.message? = second.message? := by
  intro error
  have first : (Hierarchy.initial.lineage (.known "AuthorizationError")).head? =
      some (.known "AuthorizationError") := by decide +kernel
  obtain ⟨ancestors, lineage⟩ := List.head?_eq_some_iff.mp first
  obtain ⟨tells, codes, adds⟩ := Handlers.read_domain (closed error).around.facts ⟨[7]⟩
    (.known "AuthorizationError") (.str "owner only") (.str "ACCESS_DENIED") (.dict ⟨[8]⟩ []) none
    (fun _ => rfl)
  have answerable : Answerable (closed error).around.facts (closed error).settings error := by
    refine .failure (fun denied => ?_) rfl tells codes adds (.plain (.str _))
      fun _ => ⟨⟨_, rfl⟩, .dict _ nofun nofun⟩
    rw [Hierarchy.lineage_known (closed error).known, lineage]
    rfl
  obtain ⟨first, second, one, other, status, same, agree⟩ :=
    routes_agree_unless_mute (closed error) (by decide) (closed_denies error)
      (fun _ => ⟨_, rfl⟩) answerable
  have told : first.message? = second.message? := agree.mpr fun mute => nomatch mute.1
  exact ⟨first, second, one, other, status.trans same.symm, told⟩

/-- A denial without an error: the request is told the text of the settings, and the field another. -/
theorem routes_differ_on_mute_denial :
    ∃ first second, (closed .none).byRequest = some first ∧ (closed .none).byField = some second ∧
      first.message? = some "No entry" ∧ second.message? = some "Access denied" := by
  have plain : ∀ cause, Value.none ≠ .exception cause := fun cause same => nomatch same
  have denies := closed_denies .none
  obtain ⟨tells, codes, adds⟩ := Handlers.read_domain (closed .none).around.facts ⟨[5]⟩
    (.known "GuardDeniedError") (.str "Access denied") (.str "GUARD_DENIED") (.dict ⟨[0, 5]⟩ [])
    (some .none) (fun _ => rfl)
  obtain ⟨second, handled, -, fieldTells⟩ := (closed .none).byField_of_failure denies rfl
    (denial_of_value (closed .none).unwrapping plain rfl) (closed .none).statusOf_denied tells codes
    adds (.plain (.str _)) (fun _ => ⟨⟨_, rfl⟩, .dict _ nofun nofun⟩) (fun _ => ⟨_, rfl⟩) (by decide)
  obtain ⟨first, admitted, -, firstTells⟩ := (closed .none).byRequest_of_detail denies rfl
    (detail_of_words (.value plain rfl)) ⟨_, rfl⟩
  exact ⟨first, second, admitted, handled, firstTells, fieldTells⟩

end Enforcement

end GuardAlgebra
