import GuardAlgebra.Proofs.Ranking

namespace GuardAlgebra

/-! # Rendering failures

An answer that may tell of a failure has its details as JSON, and not every value can be written so: an
exception among the details, bytes or a number that is not finite leaves the failure without an answer.
Where details are hidden, the answer has the text of the settings, and every failure is answered if that
can be sent. Either way a request has to have a path in its address, for the record of the failure.
-/

namespace Handlers

namespace Failure

variable {settings : Settings} {failure : Failure}

/-- What comes of handling a failure. -/
def handled (failure : Failure) (settings : Settings) : Attempt Response :=
  (handleFailure failure.facts settings.configuration (.request failure.received)
    (.exception failure.cause) failure.site).result

/-- The ancestors of the class of the failure. -/
def lineage (failure : Failure) : List ClassId :=
  failure.facts.hierarchy.lineage failure.cause.cls

/-- Everything that an answer has to tell by the settings can be written and sent, and everything that
the record of the failure tells can be read. -/
structure Tellable (failure : Failure) (settings : Settings) : Prop where
  readable : failure.received.Readable
  code : Json.Writable failure.code
  exposed : settings.exposeDetails = true →
    Json.Writable (.str failure.message) ∧ Json.Writable failure.details
  hidden : settings.exposeDetails = false → ∀ status,
    Ranks (.int settings.statusCode) failure.lineage (.int status) →
      (hiddenText settings status).IsWhole

/-- What can be in the way of an answer. -/
inductive Obstacle (failure : Failure) (settings : Settings) : Fault → Prop where
  | address {fault : Fault} (pathless : failure.received.urlPath = .error fault) :
      Obstacle failure settings fault
  | code {fault : Fault} (unwritten : Json.write failure.code = .error fault) :
      Obstacle failure settings fault
  | details {fault : Fault} (exposes : settings.exposeDetails = true)
      (unwritten : Json.write failure.details = .error fault) : Obstacle failure settings fault
  | body {body : Text} (torn : ¬body.IsWhole) : Obstacle failure settings (.unencodable body)

/-- The answer to a failure, by the status of its class. -/
theorem exists_answer (failure : Failure) (settings : Settings) :
    ∃ status message details, Ranks (.int settings.statusCode) failure.lineage (.int status) ∧
      answer failure.facts.hierarchy settings.configuration failure.cause.cls (.str failure.message)
        failure.code failure.details = Response.tell status message failure.code details ∧
      (settings.exposeDetails = true → message = .str failure.message ∧ details = failure.details) ∧
      (settings.exposeDetails = false →
        message = .str (hiddenText settings status) ∧ details = .dict .root []) := by
  obtain ⟨status, ranked⟩ := statusOf_int settings.statusCode failure.lineage
  have ranks := ranks_statusOf (.int settings.statusCode) failure.lineage
  rw [ranked] at ranks
  cases exposes : settings.exposeDetails with
  | true =>
      exact ⟨status, _, _, ranks, answer_of_exposed ranked exposes, fun _ => ⟨rfl, rfl⟩,
        fun hides => nomatch hides⟩
  | false =>
      exact ⟨status, _, _, ranks, answer_of_hidden ranked exposes, fun exposed => (nomatch exposed),
        fun _ => ⟨rfl, rfl⟩⟩

theorem handled_eq_ok_iff {response : Response} :
    failure.handled settings = .ok response ↔ failure.received.Readable ∧
      answer failure.facts.hierarchy settings.configuration failure.cause.cls (.str failure.message)
        failure.code failure.details = .ok response := by
  rw [handled, failure.result_eq, attempt_eq_ok, Attempt.bind_eq_ok]
  exact ⟨fun ⟨path, isPath, answered⟩ => ⟨⟨path, isPath⟩, answered⟩,
    fun ⟨⟨path, isPath⟩, answered⟩ => ⟨path, isPath, answered⟩⟩

theorem exists_handled_iff :
    (∃ response, failure.handled settings = .ok response) ↔ failure.Tellable settings := by
  obtain ⟨status, message, details, ranks, answered, exposed, hidden⟩ :=
    failure.exists_answer settings
  simp only [handled_eq_ok_iff, answered, exists_and_left, Response.exists_tell_iff status]
  constructor
  · rintro ⟨readable, isMessage, isCode, isDetails⟩
    refine ⟨readable, isCode, fun exposes => ?_, fun hides other ranksToo => ?_⟩
    · obtain ⟨rfl, rfl⟩ := exposed exposes
      exact ⟨isMessage, isDetails⟩
    · obtain ⟨rfl, -⟩ := hidden hides
      cases ranks.unique ranksToo
      exact Json.writable_str_iff.mp isMessage
  · intro tellable
    refine ⟨tellable.readable, ?_⟩
    cases exposes : settings.exposeDetails with
    | true =>
        obtain ⟨rfl, rfl⟩ := exposed exposes
        exact ⟨(tellable.exposed exposes).1, tellable.code, (tellable.exposed exposes).2⟩
    | false =>
        obtain ⟨rfl, rfl⟩ := hidden exposes
        exact ⟨Json.writable_str_iff.mpr (tellable.hidden exposes status ranks), tellable.code,
          Json.writable_nothing⟩

theorem ranks_handled {response : Response} (answered : failure.handled settings = .ok response) :
    Ranks (.int settings.statusCode) failure.lineage response.status :=
  (answers_of_answer (handled_eq_ok_iff.mp answered).2).status

theorem exists_obstacle {raised : Exception} (raises : failure.handled settings = .error raised) :
    ∃ fault, raised = .fault failure.site fault ∧ failure.Obstacle settings fault := by
  obtain ⟨status, message, details, -, answered, exposed, hidden⟩ := failure.exists_answer settings
  rw [handled, failure.result_eq, answered] at raises
  obtain ⟨fault, failed, rfl⟩ := attempt_eq_error.mp raises
  refine ⟨fault, rfl, ?_⟩
  obtain pathless | ⟨_, -, failed⟩ := Attempt.bind_eq_error.mp failed
  · exact .address pathless
  obtain unwritten | unwritten | unwritten | ⟨body, torn, rfl⟩ := Response.of_tell_error failed
  · -- The message is a text, of the failure or of the settings, and texts are always written.
    cases exposes : settings.exposeDetails with
    | true => exact nomatch (exposed exposes).1 ▸ unwritten
    | false => exact nomatch (hidden exposes).1 ▸ unwritten
  · exact .code unwritten
  · cases exposes : settings.exposeDetails with
    | true =>
        obtain ⟨-, rfl⟩ := exposed exposes
        exact .details exposes unwritten
    | false =>
        obtain ⟨-, rfl⟩ := hidden exposes
        exact nomatch unwritten
  · exact .body torn

end Failure

/-- A failure is answered if and only if all that is to be told can be written and sent, and then by the
status of its class: its code, and its message and details unless they are hidden. What keeps it from
an answer is raised in the place of one. -/
theorem answered_iff_writable (settings : Settings) (failure : Failure) :
    ((∃ response, failure.handled settings = .ok response) ↔ failure.Tellable settings) ∧
      (∀ response, failure.handled settings = .ok response →
        Ranks (.int settings.statusCode) failure.lineage response.status) ∧
      ∀ raised, failure.handled settings = .error raised →
        ∃ fault, raised = .fault failure.site fault ∧ failure.Obstacle settings fault :=
  ⟨Failure.exists_handled_iff, fun _ => Failure.ranks_handled, fun _ => Failure.exists_obstacle⟩

/-- The cause of a denial among its details is written nowhere, and leaves it without an answer unless
the settings hide it. -/
theorem answered_if_cause_is_hidden :
    let cause := Value.exception (.plain ⟨[4]⟩ (.known "ValueError") [.str "x"])
    let failure := Failure.ofDenial "owner only" (.dict ⟨[3]⟩ [(.str "cause", cause)])
    ¬Json.Writable failure.details ∧
      (¬∃ response, failure.handled Settings.standard = .ok response) ∧
      ∃ response, failure.handled { Settings.standard with exposeDetails := false } = .ok response := by
  intro cause failure
  have unwritable : ¬Json.Writable failure.details := by
    rw [← Json.exists_write_iff]
    exact fun ⟨_, written⟩ => nomatch written
  refine ⟨unwritable, ?_, (answered_iff_writable _ failure).1.mpr ?_⟩
  · rw [(answered_iff_writable _ failure).1]
    exact fun tellable => unwritable (tellable.exposed rfl).2
  · refine ⟨⟨_, rfl⟩, .plain (.str _), fun exposes => (nomatch exposes), fun _ status _ => ?_⟩
    exact isWhole_hiddenText ⟨_, rfl⟩ status

/-- Not every failure is answered. -/
theorem not_every_failure_is_answered :
    ¬∀ (settings : Settings) (failure : Failure),
      (failure.code = .none ∨ ∃ text : String, failure.code = .str text) →
        ∃ response, failure.handled settings = .ok response := by
  intro all
  let failure := Failure.ofDenial "owner only" (.dict ⟨[3]⟩
    [(.str "cause", .exception (.plain ⟨[4]⟩ (.known "ValueError") [.str "x"]))])
  obtain ⟨response, answered⟩ := all .standard failure (.inr ⟨_, rfl⟩)
  have raises : failure.handled .standard = .error (.fault ⟨[2]⟩ (.unwritable "ValueError")) := rfl
  exact nomatch raises.symm.trans answered

end Handlers

end GuardAlgebra
