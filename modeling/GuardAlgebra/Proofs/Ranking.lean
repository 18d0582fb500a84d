import GuardAlgebra.Proofs.Lineage
import GuardAlgebra.Proofs.Production

namespace GuardAlgebra

/-! # Ranks

The status of an answer to a failure is that of the nearest ranked class along the lineage of the
failure: all else in the lineage is of no matter. The text of the answer goes by the status, or by the
failure if it may be told.
-/

namespace Handlers

/-- The classes of denials. -/
def denials : List ClassId := [.known "AuthorizationError", .known "GuardDeniedError"]

def compositionError : ClassId := .known "GuardCompositionError"

/-- The classes that come with a status. -/
def ranked : List ClassId := compositionError :: denials

/-- The first class along a lineage that comes with a status. -/
inductive Nearest (lineage : List ClassId) (cls : ClassId) : Prop where
  | first {before after : List ClassId} (split : lineage = before ++ cls :: after)
      (isRanked : cls ∈ ranked) (unranked : ∀ other ∈ before, other ∉ ranked)

/-- The status that goes with a lineage. -/
inductive Ranks (denied : Value) (lineage : List ClassId) : Value → Prop where
  | denial {cls : ClassId} (nearest : Nearest lineage cls) (denies : cls ∈ denials) :
      Ranks denied lineage denied
  | composition (nearest : Nearest lineage compositionError) : Ranks denied lineage (.int 500)
  | unranked (none : ∀ cls ∈ lineage, cls ∉ ranked) : Ranks denied lineage (.int 500)

/-- A lineage without the classes that are of no matter to the status. -/
def rankedOf (lineage : List ClassId) : List ClassId := lineage.filter (· ∈ ranked)

section Ranks

variable {lineage other : List ClassId} {cls : ClassId} {denied status : Value}

theorem nearest_iff : Nearest lineage cls ↔ (rankedOf lineage).head? = some cls := by
  rw [rankedOf, List.head?_filter, List.find?_eq_some_iff_append]
  constructor
  · rintro ⟨split, isRanked, unranked⟩
    exact ⟨by simpa using isRanked, _, _, split, by simpa using unranked⟩
  · rintro ⟨isRanked, before, after, split, unranked⟩
    exact ⟨split, by simpa using isRanked, by simpa using unranked⟩

theorem unranked_iff : (∀ cls ∈ lineage, cls ∉ ranked) ↔ rankedOf lineage = [] := by
  simp [rankedOf, List.filter_eq_nil_iff]

theorem Ranks.congr (same : rankedOf lineage = rankedOf other) (ranks : Ranks denied lineage status) :
    Ranks denied other status := by
  cases ranks with
  | denial nearest denies =>
      exact .denial (nearest_iff.mpr (same ▸ nearest_iff.mp nearest)) denies
  | composition nearest => exact .composition (nearest_iff.mpr (same ▸ nearest_iff.mp nearest))
  | unranked none => exact .unranked (unranked_iff.mpr (same ▸ unranked_iff.mp none))

theorem rankedOf_cons (unranked : cls ∉ ranked) (lineage : List ClassId) :
    rankedOf (cls :: lineage) = rankedOf lineage :=
  List.filter_cons_of_neg (by simpa using unranked)

theorem Nearest.head (isRanked : cls ∈ ranked) (lineage : List ClassId) :
    Nearest (cls :: lineage) cls :=
  .first (List.nil_append _).symm isRanked (List.forall_mem_nil _)

theorem ranks_statusOf (denied : Value) (lineage : List ClassId) :
    Ranks denied lineage (statusOf denied lineage) := by
  induction lineage using statusOf.induct with
  | case1 => exact .unranked (List.forall_mem_nil _)
  | case2 rest => exact .denial (.head (by decide) rest) (by decide)
  | case3 rest => exact .denial (.head (by decide) rest) (by decide)
  | case4 rest => exact .composition (.head (by decide) rest)
  | case5 cls rest noAuthorization noDenial noComposition ih =>
      have unranked : cls ∉ ranked := by
        simp only [ranked, denials, compositionError, List.mem_cons, List.not_mem_nil, or_false,
          not_or]
        exact ⟨noComposition, noAuthorization, noDenial⟩
      rw [statusOf]
      · exact ih.congr (rankedOf_cons unranked rest).symm
      all_goals assumption

theorem Nearest.unique {second : ClassId} (nearest : Nearest lineage cls)
    (nearestToo : Nearest lineage second) : cls = second :=
  Option.some.inj ((nearest_iff.mp nearest).symm.trans (nearest_iff.mp nearestToo))

theorem Nearest.not_unranked (nearest : Nearest lineage cls) :
    ¬∀ cls ∈ lineage, cls ∉ ranked := by
  obtain ⟨rfl, isRanked, -⟩ := nearest
  exact fun none => none cls (List.mem_append_right _ List.mem_cons_self) isRanked

/-- A lineage has one status. -/
theorem Ranks.unique {second : Value} (ranks : Ranks denied lineage status)
    (ranksToo : Ranks denied lineage second) : status = second := by
  have differ : compositionError ∉ denials := by decide
  cases ranks with
  | denial nearest denies =>
      cases ranksToo with
      | denial => rfl
      | composition composition => exact absurd (nearest.unique composition ▸ denies) differ
      | unranked none => exact absurd none nearest.not_unranked
  | composition nearest =>
      cases ranksToo with
      | denial denial denies => exact absurd (denial.unique nearest ▸ denies) differ
      | composition | unranked => rfl
  | unranked none =>
      cases ranksToo with
      | denial nearest => exact absurd none nearest.not_unranked
      | composition | unranked => rfl

end Ranks

end Handlers

namespace Handlers

/-- An answer by the settings, to a failure of a lineage that says this of itself. -/
structure Answers (settings : Settings) (lineage : List ClassId) (message code details : Value)
    (response : Response) : Prop where
  status : Ranks (.int settings.statusCode) lineage response.status
  exposed : settings.exposeDetails = true →
    ∃ messageText codeText detailsText, Json.write message = .ok messageText ∧
      Json.write code = .ok codeText ∧ Json.write details = .ok detailsText ∧
      .whole response.body = Response.bodyOf messageText codeText detailsText ∧
      ∀ text : Text, message = .str text → response.message? = some text
  hidden : settings.exposeDetails = false →
    ∃ (status : Int) (codeText : Text), response.status = .int status ∧
      Json.write code = .ok codeText ∧
      .whole response.body = Response.bodyOf (Json.string (hiddenText settings status)) codeText
        (Json.object []) ∧
      response.message? = some (hiddenText settings status)

section Answers

variable {settings : Settings} {message code details : Value} {response : Response}

theorem answers_of_answer {hierarchy : Hierarchy} {cls : ClassId}
    (answered : answer hierarchy settings.configuration cls message code details = .ok response) :
    Answers settings (hierarchy.lineage cls) message code details response := by
  obtain ⟨status, ranked⟩ := statusOf_int settings.statusCode (hierarchy.lineage cls)
  have ranks := ranks_statusOf (.int settings.statusCode) (hierarchy.lineage cls)
  rw [ranked] at ranks
  cases exposes : settings.exposeDetails with
  | true =>
      rw [answer_of_exposed ranked exposes] at answered
      obtain ⟨isStatus, messageText, codeText, detailsText, messageWritten, codeWritten,
        detailsWritten, body⟩ := Response.of_tell answered
      refine ⟨isStatus ▸ ranks, fun _ => ?_, fun hides => (nomatch exposes.symm.trans hides)⟩
      refine ⟨messageText, codeText, detailsText, messageWritten, codeWritten, detailsWritten, body, ?_⟩
      rintro text rfl
      exact Response.message?_of_tell answered
  | false =>
      rw [answer_of_hidden ranked exposes] at answered
      obtain ⟨isStatus, _, codeText, _, messageWritten, codeWritten, noDetails, body⟩ :=
        Response.of_tell answered
      cases messageWritten
      cases noDetails
      refine ⟨isStatus ▸ ranks, fun exposed => (nomatch exposes.symm.trans exposed), fun _ => ?_⟩
      exact ⟨status, codeText, isStatus, codeWritten, body, Response.message?_of_tell answered⟩

/-- With valid settings every answer tells of a denial or of an error of the server. -/
theorem Answers.denial_or_server {lineage : List ClassId}
    (answers : Answers settings lineage message code details response) (valid : settings.Valid) :
    ∃ status, response.status = .int status ∧ (400 ≤ status ∧ status < 500 ∨ status = 500) := by
  generalize isStatus : response.status = status, answers.status = ranks
  cases ranks with
  | denial => exact ⟨settings.statusCode, rfl, .inl valid.status⟩
  | composition | unranked => exact ⟨500, rfl, .inr rfl⟩

end Answers

/-- A failure and the answer to it under the settings. -/
structure Answered (settings : Settings) where
  facts : Facts
  request : Value
  cause : Value
  site : Site
  response : Response
  handled : (handleFailure facts settings.configuration request cause site).result = .ok response

namespace Answered

variable {settings : Settings}

/-- The ancestors of the class of the failure. -/
def lineage (answered : Answered settings) : List ClassId :=
  answered.facts.hierarchy.lineage answered.cause.cls

theorem answers (answered : Answered settings) :
    ∃ message code details, answered.facts.read answered.cause "message" = .ok message ∧
      answered.facts.read answered.cause "error_code" = .ok code ∧
      answered.facts.read answered.cause "details" = .ok details ∧
      Answers settings answered.lineage message code details answered.response := by
  obtain ⟨_, -, handled⟩ := Run.result_bind_eq_ok.mp answered.handled
  obtain ⟨_, -, handled⟩ := Run.result_bind_eq_ok.mp handled
  rw [Run.result_ofExcept_eq_ok] at handled
  obtain ⟨message, tells, handled⟩ := Attempt.bind_eq_ok.mp handled
  obtain ⟨code, coded, handled⟩ := Attempt.bind_eq_ok.mp handled
  obtain ⟨details, detailed, handled⟩ := Attempt.bind_eq_ok.mp handled
  exact ⟨message, code, details, tells, coded, detailed, answers_of_answer handled⟩

/-- The class of a failure derives from that of another, and from no other class. -/
structure Extends (derived base : Answered settings) : Prop where
  hierarchy : derived.facts.hierarchy = base.facts.hierarchy
  built : base.facts.hierarchy.Built
  unranked : derived.cause.cls ∉ ranked
  single : ∃ entry, base.facts.hierarchy.find? derived.cause.cls = some entry ∧
    entry.parents = [base.cause.cls]

theorem rankedOf_extended {derived base : Answered settings} (extended : derived.Extends base) :
    rankedOf derived.lineage = rankedOf base.lineage := by
  obtain ⟨entry, found, single⟩ := extended.single
  rw [lineage, extended.hierarchy, extended.built.lineage_single found single]
  exact rankedOf_cons extended.unranked _

theorem status_eq {answered other : Answered settings}
    (same : rankedOf other.lineage = rankedOf answered.lineage) :
    other.response.status = answered.response.status := by
  obtain ⟨_, _, _, -, -, -, answers⟩ := answered.answers
  obtain ⟨_, _, _, -, -, -, otherAnswers⟩ := other.answers
  exact (otherAnswers.status.congr same).unique answers.status

end Answered

/-- Whatever the class of a failure descends from, an answer to it has the status of the nearest ranked
class, and tells what the failure says or, if that is hidden, what goes with the status: with valid
settings, the text of the settings for denials, and that of an error of the server for all else. So a
class that derives from a single one is answered like that one, and so are two classes with the same
ranked ancestors in the same order. -/
theorem answers_follow_nearest_class {settings : Settings} (answered : Answered settings) :
    (∃ message code details, answered.facts.read answered.cause "message" = .ok message ∧
      answered.facts.read answered.cause "error_code" = .ok code ∧
      answered.facts.read answered.cause "details" = .ok details ∧
      Answers settings answered.lineage message code details answered.response) ∧
    (settings.Valid → ∃ status, answered.response.status = .int status ∧
      (400 ≤ status ∧ status < 500 ∧ hiddenText settings status = settings.detail ∨
        status = 500 ∧ hiddenText settings status = "Internal server error")) ∧
    (∀ derived : Answered settings, derived.Extends answered →
      derived.response.status = answered.response.status) ∧
    ∀ other : Answered settings, rankedOf other.lineage = rankedOf answered.lineage →
      other.response.status = answered.response.status := by
  refine ⟨answered.answers, fun valid => ?_, fun derived extended => ?_, fun other => ?_⟩
  · obtain ⟨_, _, _, -, -, -, answers⟩ := answered.answers
    obtain ⟨status, isStatus, ⟨least, client⟩ | rfl⟩ := answers.denial_or_server valid
    · exact ⟨status, isStatus, .inl ⟨least, client, if_pos client⟩⟩
    · exact ⟨500, isStatus, .inr ⟨rfl, rfl⟩⟩
  · exact Answered.status_eq (Answered.rankedOf_extended extended)
  · exact Answered.status_eq

/-- Failures that descend from denials and from errors of composition at once, in either order. -/
theorem answers_to_mixed_failures :
    let settings : Settings := { Settings.standard with statusCode := 404, exposeDetails := false }
    let denial := Hierarchy.plain "AuthorizationError"
    let composition := Hierarchy.plain "GuardCompositionError"
    let session := Session.opening
      [(.outside "AuthThenTree", [denial, composition], .inherited),
        (.outside "TreeThenAuth", [composition, denial], .inherited)]
    let facts := session.scene.surroundings.facts
    let failure (name : String) : Exception :=
      .domain ⟨[0]⟩ (.outside name) (.str "owner only") .none (.dict ⟨[1]⟩ []) none
    let answer (name : String) := (handleFailure facts settings.configuration
      (.request ⟨⟨[2]⟩, "GET", "/reports", "", "http://test/reports", .ok "/reports", [], none⟩)
        (.exception (failure name)) ⟨[3]⟩).result
    ∃ denied server : Response, answer "AuthThenTree" = .ok denied ∧
      denied.status = .int 404 ∧ denied.message? = some "Access denied" ∧
      answer "TreeThenAuth" = .ok server ∧
      server.status = .int 500 ∧ server.message? = some "Internal server error" := by
  intro settings denial composition session facts failure answer
  have answered (name : String) : ∃ response, answer name = .ok response := by
    have hides : settings.exposeDetails = false := rfl
    obtain ⟨response, same⟩ := Settings.handleFailure_of_hidden hides ⟨_, rfl⟩ facts.hierarchy
      (.outside name) (.plain .none)
    have reads := read_domain facts ⟨[0]⟩ (.outside name) (.str "owner only") .none (.dict ⟨[1]⟩ [])
      none fun _ => rfl
    exact ⟨response, same ⟨facts, _, ⟨[3]⟩, failure name, "owner only", .none, .dict ⟨[1]⟩ [],
      reads.1, reads.2.1, reads.2.2⟩ rfl rfl rfl ⟨_, rfl⟩⟩
  obtain ⟨denied, isDenied⟩ := answered "AuthThenTree"
  obtain ⟨server, isServer⟩ := answered "TreeThenAuth"
  obtain ⟨⟨_, _, _, -, -, -, denies⟩, -⟩ := answers_follow_nearest_class ⟨_, _, _, _, _, isDenied⟩
  obtain ⟨⟨_, _, _, -, -, -, fails⟩, -⟩ := answers_follow_nearest_class ⟨_, _, _, _, _, isServer⟩
  have nearestDenial : Nearest (facts.hierarchy.lineage (.outside "AuthThenTree"))
      (.known "AuthorizationError") := nearest_iff.mpr (by decide +kernel)
  have nearestComposition : Nearest (facts.hierarchy.lineage (.outside "TreeThenAuth"))
      compositionError := nearest_iff.mpr (by decide +kernel)
  have deniedStatus : denied.status = .int 404 :=
    denies.status.unique (.denial nearestDenial (by decide))
  have serverStatus : server.status = .int 500 := fails.status.unique (.composition nearestComposition)
  obtain ⟨_, _, status, -, -, deniedMessage⟩ := denies.hidden rfl
  cases deniedStatus.symm.trans status
  obtain ⟨_, _, status, -, -, serverMessage⟩ := fails.hidden rfl
  cases serverStatus.symm.trans status
  exact ⟨denied, server, isDenied, deniedStatus, deniedMessage, isServer, serverStatus, serverMessage⟩

end Handlers

end GuardAlgebra
