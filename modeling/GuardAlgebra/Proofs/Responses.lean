import GuardAlgebra.Proofs.Attributes
import GuardAlgebra.Proofs.Denials
import GuardAlgebra.Proofs.Writing
import GuardAlgebra.Request.Admission
import GuardAlgebra.Response.Handlers

namespace GuardAlgebra

/-! # Responses to denials

A denial reaches a client in one of two ways: raised by an admission, as an exception with a status of
its own, or as a failure of the library. Either has a handler, and what the response says follows from
the settings and from what the exception says. There is a response if all that it says can be written
and sent; a client reads its message off the body.
-/

/-- There is a path in the address of the request. -/
def Request.Readable (received : Request) : Prop := ∃ path, received.urlPath = .ok path

namespace Json

theorem writable_str_iff {text : Text} : Writable (.str text) ↔ text.IsWhole := by
  constructor
  · intro writable
    cases writable with
    | plain isPlain =>
        cases isPlain with
        | str body => exact ⟨body, rfl⟩
  · rintro ⟨body, rfl⟩
    exact .plain (.str body)

theorem writable_nothing : Writable (.dict .root []) :=
  .dict .root (List.forall_mem_nil _) (List.forall_mem_nil _)

end Json

namespace Response

open Json

variable {status : Value} {message code details : Value} {body messageText codeText detailsText : Text}
  {response : Response}

theorem envelope_eq_ok :
    envelope message code details = .ok body ↔
      ∃ messageText codeText detailsText, write message = .ok messageText ∧ write code = .ok codeText ∧
        write details = .ok detailsText ∧ body = bodyOf messageText codeText detailsText := by
  constructor
  · intro enclosed
    obtain ⟨messageText, messageWritten, enclosed⟩ := Attempt.bind_eq_ok.mp enclosed
    obtain ⟨codeText, codeWritten, enclosed⟩ := Attempt.bind_eq_ok.mp enclosed
    obtain ⟨detailsText, detailsWritten, same⟩ := Attempt.bind_eq_ok.mp enclosed
    exact ⟨messageText, codeText, detailsText, messageWritten, codeWritten, detailsWritten,
      (Except.ok.inj same).symm⟩
  · rintro ⟨messageText, codeText, detailsText, messageWritten, codeWritten, detailsWritten, rfl⟩
    rw [envelope, messageWritten, codeWritten, detailsWritten]
    rfl

theorem of_make (made : make status body = .ok response) :
    response.status = status ∧ body = .whole response.body := by
  obtain ⟨text, sent, made⟩ := Attempt.bind_eq_ok.mp made
  obtain ⟨_, -, same⟩ := Attempt.bind_eq_ok.mp made
  cases same
  cases body with
  | torn => exact nomatch sent
  | whole body =>
      cases sent
      exact ⟨rfl, rfl⟩

/-- What is read off a body, if that can be sent. -/
theorem intact_bodyOf {messageData codeData detailsData : Data}
    (reads : Intact (Reader.Reads · messageData) messageText)
    (codeReads : Intact (Reader.Reads · codeData) codeText)
    (detailsRead : Intact (Reader.Reads · detailsData) detailsText) :
    Intact (Reader.Reads · (.object [("success", .bool false), ("message", messageData),
      ("error_code", codeData), ("details", detailsData)]))
        (bodyOf messageText codeText detailsText) := by
  have success : Intact (Reader.Reads · (.bool false)) "false" :=
    ⟨_, rfl, Reader.reads_word (by decide) rfl⟩
  exact intact_object (.cons (intact_member success) (.cons (intact_member reads)
    (.cons (intact_member codeReads) (.cons (intact_member detailsRead) .nil))))

theorem isWhole_of_bodyOf {text : String} (same : bodyOf messageText codeText detailsText = .whole text) :
    messageText.IsWhole ∧ codeText.IsWhole ∧ detailsText.IsWhole := by
  have whole := isWhole_of_enclosed same
  simp only [List.forall_mem_cons] at whole
  obtain ⟨-, ⟨_, message⟩, ⟨_, code⟩, ⟨_, details⟩, -⟩ := whole
  exact ⟨(isWhole_of_member message).2, (isWhole_of_member code).2, (isWhole_of_member details).2⟩

/-- The response with this status that tells this. -/
def tell (status : Int) (message code details : Value) : Except Fault Response := do
  let body ← envelope message code details
  make (.int status) body

section Tell

variable {number : Int} {text : Text}

theorem of_tell (told : tell number message code details = .ok response) :
    response.status = .int number ∧ ∃ messageText codeText detailsText,
      write message = .ok messageText ∧ write code = .ok codeText ∧
        write details = .ok detailsText ∧
          .whole response.body = bodyOf messageText codeText detailsText := by
  obtain ⟨body, enclosed, made⟩ := Attempt.bind_eq_ok.mp told
  obtain ⟨messageText, codeText, detailsText, messageWritten, codeWritten, detailsWritten, rfl⟩ :=
    envelope_eq_ok.mp enclosed
  obtain ⟨status, body⟩ := of_make made
  exact ⟨status, messageText, codeText, detailsText, messageWritten, codeWritten, detailsWritten,
    body.symm⟩

/-- There is a response if all that it is to tell can be written and sent. -/
theorem exists_tell_iff (number : Int) :
    (∃ response, tell number message code details = .ok response) ↔
      Writable message ∧ Writable code ∧ Writable details := by
  constructor
  · rintro ⟨response, told⟩
    obtain ⟨-, _, _, _, messageWritten, codeWritten, detailsWritten, body⟩ := of_tell told
    obtain ⟨⟨_, rfl⟩, ⟨_, rfl⟩, _, rfl⟩ := isWhole_of_bodyOf body.symm
    exact ⟨writable_of_write _ _ messageWritten, writable_of_write _ _ codeWritten,
      writable_of_write _ _ detailsWritten⟩
  · rintro ⟨message, code, details⟩
    obtain ⟨_, _, messageWritten, messageRead⟩ := legible_of_writable message
    obtain ⟨_, _, codeWritten, codeRead⟩ := legible_of_writable code
    obtain ⟨_, _, detailsWritten, detailsRead⟩ := legible_of_writable details
    obtain ⟨body, same, -⟩ := intact_bodyOf messageRead codeRead detailsRead
    refine ⟨⟨.int number, body⟩, ?_⟩
    rw [tell, envelope_eq_ok.mpr ⟨_, _, _, messageWritten, codeWritten, detailsWritten, rfl⟩]
    change make (.int number) (bodyOf _ _ _) = _
    rw [same]
    rfl

/-- What is raised in the place of a response: what keeps a part from being written, or else the halves
of characters that were written. -/
theorem of_tell_error {fault : Fault} (failed : tell number message code details = .error fault) :
    write message = .error fault ∨ write code = .error fault ∨ write details = .error fault ∨
      ∃ body : Text, ¬body.IsWhole ∧ fault = .unencodable body := by
  obtain failed | ⟨body, -, failed⟩ := Attempt.bind_eq_error.mp failed
  · obtain failed | ⟨_, -, failed⟩ := Attempt.bind_eq_error.mp failed
    · exact .inl failed
    obtain failed | ⟨_, -, failed⟩ := Attempt.bind_eq_error.mp failed
    · exact .inr (.inl failed)
    obtain failed | ⟨_, -, failed⟩ := Attempt.bind_eq_error.mp failed
    · exact .inr (.inr (.inl failed))
    · exact nomatch failed
  · cases body with
    | whole text => exact nomatch failed
    | torn front half rest =>
        have torn : ¬(Text.torn front half rest).IsWhole := fun ⟨_, same⟩ => nomatch same
        cases failed
        exact .inr (.inr (.inr ⟨_, torn, rfl⟩))

/-- The message that a client reads off a response. -/
def message? (response : Response) : Option Text :=
  match read response.body with
  | some (.object members) =>
      match members.lookup "message" with
      | some (.text text) => some text
      | _ => none
  | _ => none

theorem message?_of_tell (told : tell number (.str text) code details = .ok response) :
    response.message? = some text := by
  obtain ⟨-, _, _, _, messageWritten, codeWritten, detailsWritten, same⟩ := of_tell told
  obtain ⟨-, ⟨_, rfl⟩, _, rfl⟩ := isWhole_of_bodyOf same.symm
  obtain ⟨message, codeWritable, detailsWritable⟩ := (exists_tell_iff number).mp ⟨response, told⟩
  obtain ⟨text, rfl⟩ := writable_str_iff.mp message
  cases messageWritten
  obtain ⟨codeData, codeRead⟩ := exists_reads_of_write codeWritten
  obtain ⟨detailsData, detailsRead⟩ := exists_reads_of_write detailsWritten
  obtain ⟨body, isBody, reads⟩ := intact_bodyOf (intact_string text) ⟨_, rfl, codeRead⟩
    ⟨_, rfl, detailsRead⟩
  cases same.trans isBody
  rw [message?, read_of_reads reads]
  rfl

end Tell

end Response

namespace Handlers

/-- An exception to which nothing was written is answered by what it was made with. -/
theorem handleStatus_of_unwritten {facts : Facts} {site : Site} {arguments : List Value}
    {headers : Value} (unwritten : ∀ name, facts.store.find? (.object site) name = none)
    (status : Int) (detail : Text) :
    handleStatus facts (.exception (.http site arguments (.int status) (.str detail) headers)) =
      Response.tell status (.str detail) (.str (codeOf (.int status))) (.dict .root []) := by
  have read? (name : String) := facts.read?_of_unwritten
    (fun expr same => nomatch same : ∀ expr, Value.exception
      (.http site arguments (.int status) (.str detail) headers) ≠ .type expr) (unwritten name)
  have readStatus : facts.read (.exception
      (.http site arguments (.int status) (.str detail) headers)) "status_code" =
        .ok (.int status) := Facts.read_of_held rfl (read? "status_code")
  have readDetail : facts.read (.exception
      (.http site arguments (.int status) (.str detail) headers)) "detail" =
        .ok (.str detail) := Facts.read_of_held rfl (read? "detail")
  rw [handleStatus, readStatus, readDetail]
  rfl

theorem read_domain (facts : Facts) (site : Site) (cls : ClassId) (message code details : Value)
    (carried : Option Value) (unwritten : ∀ name, facts.store.find? (.object site) name = none) :
    let cause := Value.exception (.domain site cls message code details carried)
    facts.read cause "message" = .ok message ∧ facts.read cause "error_code" = .ok code ∧
      facts.read cause "details" = .ok details := by
  intro cause
  have read? (name : String) := facts.read?_of_unwritten
    (fun expr same => nomatch same : ∀ expr, cause ≠ .type expr) (unwritten name)
  refine ⟨?_, ?_, ?_⟩
  · exact Facts.read_of_held rfl ((read? "message").trans (by cases carried <;> rfl))
  · exact Facts.read_of_held rfl ((read? "error_code").trans (by cases carried <;> rfl))
  · exact Facts.read_of_held rfl ((read? "details").trans (by cases carried <;> rfl))

/-- A failure is handled by what it says, once its message and the path of the request are on record. -/
theorem result_handleFailure {facts : Facts} {cause message code details : Value}
    (configuration : Configuration) (received : Request) (site : Site)
    (tells : facts.read cause "message" = .ok message)
    (readCode : facts.read cause "error_code" = .ok code)
    (readDetails : facts.read cause "details" = .ok details) :
    (handleFailure facts configuration (.request received) cause site).result =
      attempt site (do
        let _ ← facts.say message
        let _ ← received.urlPath
        answer facts.hierarchy configuration cause.cls message code details) := by
  rw [handleFailure, tells, readCode, readDetails]
  rw [failureRecord, Facts.requestLine]
  change ((Run.ofExcept site (facts.say message >>= fun text =>
    received.urlPath.map Value.str >>= facts.say >>= fun path => _)) >>= fun record => _).result = _
  cases facts.say message with
  | error silent => rfl
  | ok text =>
      cases received.urlPath with
      | error fault => rfl
      | ok path => exact Run.result_ofExcept site _

/-- A failure that says a text is handled by that, if there is a path in the address of the request. -/
theorem result_handleFailure_of_text {facts : Facts} {cause code details : Value} {message : Text}
    (configuration : Configuration) (received : Request) (site : Site)
    (tells : facts.read cause "message" = .ok (.str message))
    (readCode : facts.read cause "error_code" = .ok code)
    (readDetails : facts.read cause "details" = .ok details) :
    (handleFailure facts configuration (.request received) cause site).result =
      attempt site (received.urlPath >>= fun _ =>
        answer facts.hierarchy configuration cause.cls (.str message) code details) := by
  rw [result_handleFailure configuration received site tells readCode readDetails, Facts.say_str]
  rfl

theorem statusOf_cases (denied : Value) (lineage : List ClassId) :
    statusOf denied lineage = denied ∨ statusOf denied lineage = .int serverError := by
  induction lineage using statusOf.induct with
  | case1 => exact .inr rfl
  | case2 => exact .inl rfl
  | case3 => exact .inl rfl
  | case4 => exact .inr rfl
  | case5 cls lineage noAuthorization noDenied noComposition ih =>
      rw [statusOf]
      · exact ih
      all_goals assumption

theorem statusOf_int (status : Int) (lineage : List ClassId) :
    ∃ number, statusOf (.int status) lineage = .int number := by
  obtain denied | server := statusOf_cases (.int status) lineage
  · exact ⟨status, denied⟩
  · exact ⟨serverError, server⟩

/-- What an answer says by its status where details are hidden. -/
def hiddenText (settings : Settings) (status : Int) : Text :=
  if status < 500 then settings.detail else "Internal server error"

theorem isWhole_hiddenText {settings : Settings} (whole : settings.detail.IsWhole) (status : Int) :
    (hiddenText settings status).IsWhole := by
  rw [hiddenText]
  split
  · exact whole
  · exact ⟨_, rfl⟩

theorem hiddenMessage_int (settings : Settings) (status : Int) :
    hiddenMessage settings.configuration (.int status) = .ok (.str (hiddenText settings status)) := by
  change (if decide (status < serverError) = true then _ else _) = _
  simp only [hiddenText, decide_eq_true_eq]
  change (if status < 500 then _ else _) = _
  split <;> rfl

section Answer

variable {settings : Settings} {hierarchy : Hierarchy} {cls : ClassId} {message code details : Value}
  {status : Int}

/-- Where details are hidden, the answer has the text of the settings, or that of an error of the
server, and no details. -/
theorem answer_of_hidden
    (ranked : statusOf (.int settings.statusCode) (hierarchy.lineage cls) = .int status)
    (hides : settings.exposeDetails = false) :
    answer hierarchy settings.configuration cls message code details =
      Response.tell status (.str (hiddenText settings status)) code (.dict .root []) := by
  have hidden := hiddenMessage_int settings status
  have exposure : settings.configuration.exposeDetails.truth = .ok false := congrArg Except.ok hides
  rw [answer, exposure]
  change (hiddenMessage settings.configuration (statusOf (.int settings.statusCode) _) >>= fun text =>
    Response.envelope text code (.dict .root []) >>= fun body =>
      Response.make (statusOf (.int settings.statusCode) _) body) = _
  rw [ranked, hidden]
  rfl

theorem answer_of_exposed
    (ranked : statusOf (.int settings.statusCode) (hierarchy.lineage cls) = .int status)
    (exposes : settings.exposeDetails = true) :
    answer hierarchy settings.configuration cls message code details =
      Response.tell status message code details := by
  have exposure : settings.configuration.exposeDetails.truth = .ok true := congrArg Except.ok exposes
  rw [answer, exposure]
  change (Response.envelope message code details >>= fun body =>
    Response.make (statusOf (.int settings.statusCode) _) body) = _
  rw [ranked]
  rfl

end Answer

end Handlers

namespace Admission

variable {around : Surroundings} {configuration : Configuration} {guard : Guard}
  {factory : Option Value} {received : Request} {site : Site} {given error : Value}

theorem detail_of_hidden (facts : Facts) (hides : configuration.exposeDetails = .bool false)
    (error : Value) : detail facts configuration error = .ok configuration.detail := by
  unfold detail
  rw [hides]
  rfl

theorem detail_of_exposed (facts : Facts) (exposes : configuration.exposeDetails = .bool true)
    (error : Value) : detail facts configuration error =
      match error with
      | .exception (.domain ..) => facts.read error "message"
      | .none => .ok configuration.detail
      | error => (facts.say error).map Value.str := by
  unfold detail
  rw [exposes]
  rfl

theorem refusal_of_detail {facts : Facts} {text : Text}
    (told : detail facts configuration error = .ok (.str text)) :
    refusal facts configuration error site =
      .http site [] configuration.statusCode (.str text) .none := by
  rw [refusal, told]
  rfl

/-- A denied request is refused, once its denial is on record. -/
theorem result_admission {logs : Bool} {text : Text}
    (made : (context around factory (.request received) (site.child 0)).result = .ok given)
    (denies : (around.denial? (.guard guard) [given] (site.child 1)).result = .ok (some error))
    (decided : configuration.logDenials.truth = .ok logs) (worded : around.facts.say error = .ok text)
    (readable : logs = true → received.Readable) :
    (admission around configuration guard factory (.request received) site).result =
      .error (refusal around.facts configuration error site) := by
  have noted : (Surroundings.note configuration.logDenials site (.ofExcept site
      (denialRecord around.facts (around.facts.requestLine (.request received)) error))).result =
        .ok () := by
    rw [Surroundings.note, decided]
    cases logs with
    | false => rfl
    | true =>
        obtain ⟨path, isPath⟩ := readable rfl
        rw [denialRecord, Facts.requestLine, isPath, worded]
        rfl
  rw [admission, Run.result_bind_of_ok made, Run.result_bind_of_ok denies]
  exact Run.result_bind_of_ok noted

end Admission

end GuardAlgebra
