import GuardAlgebra.Proofs.Responses
import GuardAlgebra.Session.Execute

namespace GuardAlgebra

/-! # Production

Settings that were built are valid, and in production they hide details. Then nothing that a denial or
a failure says is in the response to it: responses are told by the settings and by the class and the
code of the failure.
-/

namespace Settings

/-- What validation makes sure of. -/
structure Valid (settings : Settings) : Prop where
  environment : settings.environment ∈ ["development", "staging", "production"]
  logLevel : settings.logLevel ∈ ["DEBUG", "INFO", "WARNING", "ERROR", "CRITICAL"]
  status : 400 ≤ settings.statusCode ∧ settings.statusCode < 500
  hides : settings.environment = "production" → settings.exposeDetails = false

theorem standard_valid : standard.Valid := by
  constructor <;> decide

theorem ite_eq_ok_iff {ε α : Type} {admitted : Prop} [Decidable admitted] {given result : α}
    {refusal : ε} :
    (if admitted then Except.ok given else .error refusal) = .ok result ↔
      admitted ∧ given = result := by
  split
  next holds => simp [holds]
  next fails => simp [fails]

theorem oneOf_eq_ok_iff {names : List String} {flaw : Flaw} {text : Text} {name : String} :
    oneOf names flaw text = .ok name ↔ name ∈ names ∧ text = .whole name := by
  cases text with
  | torn => simp [oneOf, Text.whole?]
  | whole text =>
      change (if names.contains text = true then Except.ok text else .error flaw) = _ ↔ _
      rw [ite_eq_ok_iff, List.contains_iff_mem, Text.whole.injEq]
      exact ⟨fun ⟨member, same⟩ => ⟨same ▸ member, same⟩, fun ⟨member, same⟩ => ⟨same ▸ member, same⟩⟩

theorem checkEnvironment_eq_ok_iff {text : Text} {checked : String} :
    checkEnvironment text = .ok checked ↔
      checked ∈ ["development", "staging", "production"] ∧ text = .whole checked := oneOf_eq_ok_iff

theorem checkLevel_eq_ok_iff {text : Text} {checked : String} :
    checkLevel text = .ok checked ↔
      checked ∈ ["DEBUG", "INFO", "WARNING", "ERROR", "CRITICAL"] ∧
        ∃ name, text = .whole name ∧ Text.upper name = checked := by
  rw [checkLevel, oneOf_eq_ok_iff]
  refine and_congr_right fun _ => ?_
  cases text with
  | torn => exact ⟨fun same => (nomatch same), fun ⟨_, same, _⟩ => nomatch same⟩
  | whole name =>
      constructor
      · exact fun same => ⟨name, rfl, Text.whole.inj same⟩
      · rintro ⟨_, ⟨⟩, upper⟩
        exact congrArg Text.whole upper

theorem checkStatus_eq_ok_iff {status checked : Int} :
    checkStatus status = .ok checked ↔ (400 ≤ status ∧ status < 500) ∧ status = checked := by
  rw [checkStatus, ite_eq_ok_iff]

theorem valid_of_build {sources : Sources} {settings : Settings}
    (built : build sources = .ok settings) : settings.Valid := by
  unfold build at built
  dsimp only at built
  split at built
  next environment level denials status detail exposes environmentRead levelRead _ statusRead _ _ _ =>
    cases built
    obtain ⟨environmentText, -, environmentChecked⟩ := Attempt.bind_eq_ok.mp environmentRead
    obtain ⟨levelText, -, levelChecked⟩ := Attempt.bind_eq_ok.mp levelRead
    obtain ⟨statusNumber, -, statusChecked⟩ := Attempt.bind_eq_ok.mp statusRead
    obtain ⟨knownEnvironment, -⟩ := checkEnvironment_eq_ok_iff.mp environmentChecked
    obtain ⟨knownLevel, -⟩ := checkLevel_eq_ok_iff.mp levelChecked
    obtain ⟨denial, rfl⟩ := checkStatus_eq_ok_iff.mp statusChecked
    exact {
      environment := knownEnvironment
      logLevel := knownLevel
      status := denial
      hides := fun production => by
        simpa using fun _ => production }
  next => exact nomatch built

theorem valid_of_gather {arguments : List (String × Value)} {environment : List (String × Text)}
    {file : String} {settings : Settings}
    (gathered : gather arguments environment file = .ok (.ok settings)) : settings.Valid := by
  obtain ⟨options, -, built⟩ := Attempt.bind_eq_ok.mp gathered
  exact valid_of_build (Except.ok.inj built)

end Settings

/-- A request that a guard denies with an error that can be put into words. -/
structure Admission.Denied where
  around : Surroundings
  guard : Guard
  factory : Option Value
  received : Request
  site : Site
  context : Value
  error : Value
  made : (Admission.context around factory (.request received) (site.child 0)).result = .ok context
  denies : (around.denial? (.guard guard) [context] (site.child 1)).result = .ok (some error)
  worded : ∃ text, around.facts.say error = .ok text

/-- A failure of the library that a request ran into, by what it says as it stands. -/
structure Handlers.Failure where
  facts : Facts
  received : Request
  site : Site
  cause : Exception
  message : Text
  code : Value
  details : Value
  tells : facts.read (.exception cause) "message" = .ok (.str message)
  coded : facts.read (.exception cause) "error_code" = .ok code
  detailed : facts.read (.exception cause) "details" = .ok details

/-- A denial that says this, of a class that is known, before anything was written to it. -/
def Handlers.Failure.ofDenial (message : Text) (details : Value) : Handlers.Failure :=
  have reads := Handlers.read_domain Session.initial.scene.surroundings.facts ⟨[0]⟩
    (.known "AuthorizationError") (.str message) (.str "ACCESS_DENIED") details none fun _ => rfl
  { facts := Session.initial.scene.surroundings.facts
    received := ⟨⟨[1]⟩, "GET", "/reports", "", "http://test/reports", .ok "/reports", [], none⟩
    site := ⟨[2]⟩
    cause := .domain ⟨[0]⟩ (.known "AuthorizationError") (.str message) (.str "ACCESS_DENIED") details
      none
    message
    code := .str "ACCESS_DENIED"
    details
    tells := reads.1
    coded := reads.2.1
    detailed := reads.2.2 }

/-- A failure is answered by what it says, if there is a path in the address of the request. -/
theorem Handlers.Failure.result_eq (failure : Handlers.Failure) (configuration : Configuration) :
    (Handlers.handleFailure failure.facts configuration (.request failure.received)
      (.exception failure.cause) failure.site).result =
        attempt failure.site (failure.received.urlPath >>= fun _ =>
          Handlers.answer failure.facts.hierarchy configuration failure.cause.cls
            (.str failure.message) failure.code failure.details) :=
  Handlers.result_handleFailure_of_text configuration failure.received failure.site failure.tells
    failure.coded failure.detailed

namespace Settings

/-- What an admission raises for any denial where these settings hide details. -/
def refusal (settings : Settings) (site : Site) : Exception :=
  .http site [] (.int settings.statusCode) (.str settings.detail) .none

variable {settings : Settings}

theorem result_admission_of_hidden (hides : settings.exposeDetails = false)
    (denied : Admission.Denied) (readable : settings.logDenials = true → denied.received.Readable) :
    (Admission.admission denied.around settings.configuration denied.guard denied.factory
      (.request denied.received) denied.site).result = .error (settings.refusal denied.site) := by
  obtain ⟨text, worded⟩ := denied.worded
  have told : Admission.detail denied.around.facts settings.configuration denied.error =
      .ok (.str settings.detail) :=
    Admission.detail_of_hidden _ (congrArg Value.bool hides) denied.error
  have decided : settings.configuration.logDenials.truth = .ok settings.logDenials := rfl
  rw [Admission.result_admission denied.made denied.denies decided worded readable,
    Admission.refusal_of_detail told]
  rfl

theorem handleStatus_of_whole (status : Int) (whole : settings.detail.IsWhole) :
    ∃ response, ∀ (site : Site) (facts : Facts),
      (∀ name, facts.store.find? (.object site) name = none) →
        Handlers.handleStatus facts (.exception
          (.http site [] (.int status) (.str settings.detail) .none)) = .ok response := by
  have code : Json.Writable (.str (Handlers.codeOf (.int status))) := .plain (.str _)
  obtain ⟨response, told⟩ := (Response.exists_tell_iff status).mpr
    ⟨Json.writable_str_iff.mpr whole, code, Json.writable_nothing⟩
  exact ⟨response, fun site facts unwritten =>
    (Handlers.handleStatus_of_unwritten unwritten status settings.detail).trans told⟩

/-- The answer to a failure depends on its class and code alone. -/
theorem handleFailure_of_hidden (hides : settings.exposeDetails = false)
    (whole : settings.detail.IsWhole) (hierarchy : Hierarchy) (cls : ClassId) {code : Value}
    (writable : Json.Writable code) :
    ∃ response, ∀ failure : Handlers.Failure, failure.facts.hierarchy = hierarchy →
      failure.cause.cls = cls → failure.code = code → failure.received.Readable →
        (Handlers.handleFailure failure.facts settings.configuration (.request failure.received)
          (.exception failure.cause) failure.site).result = .ok response := by
  obtain ⟨status, ranked⟩ := Handlers.statusOf_int settings.statusCode (hierarchy.lineage cls)
  have hidden : Json.Writable (.str (Handlers.hiddenText settings status)) :=
    Json.writable_str_iff.mpr (Handlers.isWhole_hiddenText whole status)
  obtain ⟨response, told⟩ :=
    (Response.exists_tell_iff status).mpr ⟨hidden, writable, Json.writable_nothing⟩
  refine ⟨response, ?_⟩
  rintro failure rfl rfl rfl ⟨path, isPath⟩
  rw [failure.result_eq, isPath, Handlers.answer_of_hidden ranked hides, told]
  rfl

/-- No denial details leave the server in production. Whatever the arguments, the environment and the
file asked for, all denied admissions raise an exception of one status and one text, which gets one
response; and all failures of a class with one code get one response too. The text for denials must be
one that can be sent, and there must be a path in the addresses of requests that are told of. -/
theorem one_response_in_production {arguments : List (String × Value)}
    {environment : List (String × Text)} {file : String} {settings : Settings}
    (gathered : gather arguments environment file = .ok (.ok settings))
    (production : settings.environment = "production") :
    (∀ denied : Admission.Denied, (settings.logDenials = true → denied.received.Readable) →
      (Admission.admission denied.around settings.configuration denied.guard denied.factory
        (.request denied.received) denied.site).result =
          .error (.http denied.site [] (.int settings.statusCode) (.str settings.detail) .none)) ∧
    (settings.detail.IsWhole →
      (∃ response, ∀ (site : Site) (facts : Facts),
        (∀ name, facts.store.find? (.object site) name = none) →
          Handlers.handleStatus facts (.exception
            (.http site [] (.int settings.statusCode) (.str settings.detail) .none)) =
              .ok response) ∧
      ∀ (hierarchy : Hierarchy) (cls : ClassId) (code : Value),
        (code = .none ∨ ∃ text : String, code = .str text) →
        ∃ response, ∀ failure : Handlers.Failure, failure.facts.hierarchy = hierarchy →
          failure.cause.cls = cls → failure.code = code → failure.received.Readable →
            (Handlers.handleFailure failure.facts settings.configuration (.request failure.received)
              (.exception failure.cause) failure.site).result = .ok response) := by
  have hides : settings.exposeDetails = false := (valid_of_gather gathered).hides production
  refine ⟨result_admission_of_hidden hides, fun whole => ⟨?_, fun hierarchy cls code coded => ?_⟩⟩
  · exact handleStatus_of_whole settings.statusCode whole
  · apply handleFailure_of_hidden hides whole
    obtain rfl | ⟨text, rfl⟩ := coded
    · exact .plain .none
    · exact .plain (.str text)

/-- Settings in production whose arguments ask for details: neither two denials nor two failures can be
told apart by their answers. -/
theorem one_response_to_secrets :
    let settings : Settings := ⟨"production", "INFO", true, 403, "Access denied", false⟩
    let around := Session.initial.scene.surroundings
    let received : Request :=
      ⟨⟨[1]⟩, "GET", "/reports", "", "http://test/reports", .ok "/reports", [], none⟩
    let factory := Value.callable ⟨⟨[6]⟩, none, "context", .sync, 0, .reply (.gives .none)⟩
    let raised (error : Value) :=
      (Admission.admission around settings.configuration (.denyAll ⟨[3]⟩ error) (some factory)
        (.request received) ⟨[5]⟩).result
    let failure (message details : String) : Exception :=
      .domain ⟨[0]⟩ (.known "AuthorizationError") (.str message) (.str "ACCESS_DENIED")
        (.dict ⟨[4]⟩ [(.str "policy", .str details)]) none
    let handled (message details : String) :=
      (Handlers.handleFailure around.facts settings.configuration (.request received)
        (.exception (failure message details)) ⟨[2]⟩).result
    gather [("EXPOSE_ERROR_DETAILS", .bool true)] [("ENVIRONMENT", "production")] "" =
        .ok (.ok settings) ∧
      raised (.str "owner only") = raised (.bool false) ∧
      ∃ response, handled "owner only" "reports.v2" = .ok response ∧
        handled "not your report" "reports.v1" = .ok response := by
  intro settings around received factory raised failure handled
  have gathered : gather [("EXPOSE_ERROR_DETAILS", .bool true)] [("ENVIRONMENT", "production")] "" =
      .ok (.ok settings) := rfl
  let denying (error : Value) (text : Text) (worded : around.facts.say error = .ok text) :
      Admission.Denied :=
    ⟨around, .denyAll ⟨[3]⟩ error, some factory, received, ⟨[5]⟩, .none, error, rfl, rfl, text,
      worded⟩
  let failing (message details : String) : Handlers.Failure :=
    .ofDenial message (.dict ⟨[4]⟩ [(.str "policy", .str details)])
  have readable : received.Readable := ⟨_, rfl⟩
  obtain ⟨denials, answered⟩ := one_response_in_production gathered rfl
  have textRaised := denials (denying (.str "owner only") _ rfl) fun _ => readable
  have truthRaised := denials (denying (.bool false) "False" rfl) fun _ => readable
  obtain ⟨-, failures⟩ := answered ⟨_, rfl⟩
  obtain ⟨response, same⟩ := failures around.facts.hierarchy (.known "AuthorizationError")
    (.str "ACCESS_DENIED") (.inr ⟨_, rfl⟩)
  exact ⟨gathered, textRaised.trans truthRaised.symm, response,
    same (failing "owner only" "reports.v2") rfl rfl rfl readable,
    same (failing "not your report" "reports.v1") rfl rfl rfl readable⟩

/-- The text for denials is taken from an environment that is not UTF-8: then neither handler has a
response. And whatever that text is, a failure that a request ran into has none if there is no path in
the address of the request. -/
theorem no_response_of_torn_detail :
    let torn := Text.torn "Caf" (.ofByte 0xE9) ""
    let settings : Settings := ⟨"production", "INFO", true, 403, torn, false⟩
    let failure := Handlers.Failure.ofDenial "owner only" (.dict ⟨[3]⟩ [])
    let lost : Request := { failure.received with url := "http://[/reports", urlPath := .error .badAddress }
    let body (code : String) :=
      Response.bodyOf (Json.string torn) (Json.string code) (Json.object [])
    gather [] [("ENVIRONMENT", "production"), ("GUARD_DENIED_DETAIL", torn)] "" =
        .ok (.ok settings) ∧
      Handlers.handleStatus failure.facts (.exception (settings.refusal ⟨[4]⟩)) =
        .error (.unencodable (body "FORBIDDEN")) ∧
      (Handlers.handleFailure failure.facts settings.configuration (.request failure.received)
        (.exception failure.cause) failure.site).result =
          .error (.fault failure.site (.unencodable (body "ACCESS_DENIED"))) ∧
      ∀ detail : Text, (Handlers.handleFailure failure.facts
        { settings with detail }.configuration (.request lost) (.exception failure.cause)
          failure.site).result = .error (.fault failure.site .badAddress) := by
  intro torn settings failure lost body
  have first : (failure.facts.hierarchy.lineage failure.cause.cls).head? =
      some (.known "AuthorizationError") := by decide +kernel
  obtain ⟨ancestors, lineage⟩ := List.head?_eq_some_iff.mp first
  have ranked : Handlers.statusOf (.int settings.statusCode)
      (failure.facts.hierarchy.lineage failure.cause.cls) = .int settings.statusCode := by
    rw [lineage]
    rfl
  refine ⟨rfl, rfl, (failure.result_eq settings.configuration).trans ?_, fun detail => ?_⟩
  · rw [Handlers.answer_of_hidden ranked rfl]
    rfl
  · exact Handlers.Failure.result_eq { failure with received := lost } _

end Settings

end GuardAlgebra
