import GuardAlgebra.Proofs.Reading
import GuardAlgebra.Proofs.Rendering

namespace GuardAlgebra

/-! # What a body tells

The body of an answer to an exception is one object of four members, and a client that reads it finds what
the exception says, whatever characters are in it: no message can close its own text or bring in a member.
So answers that tell of different things have different bodies. Integers that are too long to be written
have no answer.
-/

/-- What an answer tells of an exception. -/
structure Envelope (α : Type) where
  message : α
  code : α
  details : α

namespace Envelope

/-- What is told, as JSON. -/
def data? (told : Envelope Value) : Option (Envelope Json.Data) := do
  let message ← Json.dataOf? told.message
  let code ← Json.dataOf? told.code
  let details ← Json.dataOf? told.details
  some ⟨message, code, details⟩

structure Writable (told : Envelope Value) : Prop where
  message : Json.Writable told.message
  code : Json.Writable told.code
  details : Json.Writable told.details

def object (data : Envelope Json.Data) : Json.Data :=
  .object [("success", .bool false), ("message", data.message), ("error_code", data.code),
    ("details", data.details)]

theorem object_inj {data other : Envelope Json.Data} (same : data.object = other.object) :
    data = other := by
  obtain ⟨message, code, details⟩ := data
  obtain ⟨otherMessage, otherCode, otherDetails⟩ := other
  simp only [object, Json.Data.object.injEq, List.cons.injEq, Prod.mk.injEq, true_and,
    and_true] at same
  obtain ⟨rfl, rfl, rfl⟩ := same
  rfl

theorem data?_eq_some {told : Envelope Value} {data : Envelope Json.Data}
    (known : told.data? = some data) :
    Json.dataOf? told.message = some data.message ∧ Json.dataOf? told.code = some data.code ∧
      Json.dataOf? told.details = some data.details := by
  obtain ⟨message, isMessage, known⟩ := Option.bind_eq_some_iff.mp known
  obtain ⟨code, isCode, known⟩ := Option.bind_eq_some_iff.mp known
  obtain ⟨details, isDetails, same⟩ := Option.bind_eq_some_iff.mp known
  cases same
  exact ⟨isMessage, isCode, isDetails⟩

/-- A response that tells this, and nothing else. -/
def Tells (data : Envelope Json.Data) (response : Response) : Prop :=
  Json.read response.body = some data.object

end Envelope

variable {told : Envelope Value} {data : Envelope Json.Data} {settings : Settings}
  {outcome : Attempt Response}

section Bodies

open Json

/-- What keeps an answer from being written, if anything does. -/
def Envelope.obstacle? (silence : Silence) (told : Envelope Value) : Option Fault :=
  (told.message.obstacle? silence).or
    ((told.code.obstacle? silence).or (told.details.obstacle? silence))

/-- A body that tells this is sent, or an integer is too long to be written. -/
theorem fares_tell (silence : Silence) (known : told.data? = some data) (status : Int) :
    Fares data.Tells (Response.tell status told.message told.code told.details)
      (told.obstacle? silence) := by
  obtain ⟨isMessage, isCode, isDetails⟩ := Envelope.data?_eq_some known
  have enclosed : Fares (Intact (Reader.Reads · data.object))
      (Response.envelope told.message told.code told.details) (told.obstacle? silence) := by
    refine (fares_write silence _ _ isMessage).bind fun message reads => ?_
    refine (fares_write silence _ _ isCode).bind fun code codeReads => ?_
    exact (fares_write silence _ _ isDetails).map fun details detailsRead =>
      Response.intact_bodyOf reads codeReads detailsRead
  rw [← show (told.obstacle? silence).or none = told.obstacle? silence from Option.or_none]
  refine enclosed.bind ?_
  rintro _ ⟨body, rfl, reads⟩
  exact .written (read_of_reads reads)

theorem obstacle?_eq_none_iff_writable {value : Value} {data : Data} (silence : Silence)
    (known : dataOf? value = some data) : value.obstacle? silence = none ↔ Json.Writable value := by
  rw [← exists_write_iff]
  have fares := fares_write silence value data known
  generalize write value = written, value.obstacle? silence = obstacle? at fares ⊢
  cases fares with
  | written intact =>
      obtain ⟨body, rfl, -⟩ := intact
      exact ⟨fun _ => ⟨body, rfl⟩, fun _ => rfl⟩
  | unspelled => exact ⟨fun none => (nomatch none), fun ⟨_, same⟩ => nomatch same⟩

theorem obstacle?_eq_none_iff (silence : Silence) (known : told.data? = some data) :
    told.obstacle? silence = none ↔ told.Writable := by
  obtain ⟨isMessage, isCode, isDetails⟩ := Envelope.data?_eq_some known
  rw [Envelope.obstacle?, Option.or_eq_none_iff, Option.or_eq_none_iff,
    obstacle?_eq_none_iff_writable silence isMessage, obstacle?_eq_none_iff_writable silence isCode,
    obstacle?_eq_none_iff_writable silence isDetails]
  exact ⟨fun ⟨message, code, details⟩ => ⟨message, code, details⟩,
    fun writable => ⟨writable.message, writable.code, writable.details⟩⟩

end Bodies

namespace Handlers

/-- An exception that is handled with its details exposed if it has any: what it says by its attributes
as they stand, and what comes of handling it. A failure is told of with the path of the request. -/
inductive Handled (settings : Settings) : Envelope Value → Attempt Response → Prop where
  | failure (facts : Facts) (received : Request) (cause : Value) (site : Site)
      {message code details : Value} (readable : received.Readable) (exposes : settings.exposeDetails = true)
      (tells : facts.read cause "message" = .ok message)
      (coded : facts.read cause "error_code" = .ok code)
      (detailed : facts.read cause "details" = .ok details) :
      Handled settings ⟨message, code, details⟩
        (handleFailure facts settings.configuration (.request received) cause site).result
  | status (facts : Facts) (cause : Value) (site : Site) {status : Int} {detail : Value}
      (ranked : facts.read cause "status_code" = .ok (.int status))
      (tells : facts.read cause "detail" = .ok detail) :
      Handled settings ⟨detail, .str (codeOf (.int status)), .dict .root []⟩
        (attempt site (handleStatus facts cause))

theorem fares_say {facts : Facts} {value : Value} {data : Json.Data}
    (known : Json.dataOf? value = some data) :
    Json.Fares (fun _ => True) (facts.say value)
      (value.obstacle? (facts.silenceWithin facts.voiceDepth)) := by
  have fares := Json.fares_write (facts.silenceWithin facts.voiceDepth) value data known
  rw [Facts.say, Facts.obstacle?]
  generalize Json.write value = written, value.obstacle? _ = obstacle? at fares ⊢
  cases fares with
  | written isGood => exact .written trivial
  | unspelled => exact .unspelled

section Failures

variable {facts : Facts} {message code details : Value}

theorem fares_failure (exposes : settings.exposeDetails = true) (cls : ClassId) (path : String)
    (known : Envelope.data? ⟨message, code, details⟩ = some data) :
    Json.Fares data.Tells (do
        let _ ← facts.say message
        let _ ← (.ok path : Except Fault String)
        answer facts.hierarchy settings.configuration cls message code details)
      (Envelope.obstacle? (facts.silenceWithin facts.voiceDepth) ⟨message, code, details⟩) := by
  obtain ⟨isMessage, -, -⟩ := Envelope.data?_eq_some known
  obtain ⟨status, ranked⟩ := statusOf_int settings.statusCode (facts.hierarchy.lineage cls)
  have told : Json.Fares data.Tells
      (answer facts.hierarchy settings.configuration cls message code details)
      (Envelope.obstacle? (facts.silenceWithin facts.voiceDepth) ⟨message, code, details⟩) := by
    rw [answer_of_exposed ranked exposes]
    exact fares_tell _ known status
  -- The message is put into words for the record first, and an obstacle to that is one to the body.
  have once (first rest : Option Fault) : first.or rest = first.or (first.or rest) := by
    cases first <;> rfl
  rw [Envelope.obstacle?, once]
  exact (fares_say isMessage).bind fun _ _ => told

end Failures

theorem fares_status {facts : Facts} {cause detail : Value} {status : Int}
    (ranked : facts.read cause "status_code" = .ok (.int status))
    (tells : facts.read cause "detail" = .ok detail)
    (known : Envelope.data? ⟨detail, .str (codeOf (.int status)), .dict .root []⟩ = some data)
    (silence : Silence) :
    Json.Fares data.Tells (handleStatus facts cause)
      (Envelope.obstacle? silence ⟨detail, .str (codeOf (.int status)), .dict .root []⟩) := by
  have answered : handleStatus facts cause =
      Response.tell status detail (.str (codeOf (.int status))) (.dict .root []) := by
    rw [handleStatus, ranked, tells]
    rfl
  rw [answered]
  exact fares_tell silence known status

/-- An exception that is handled is answered by what it says, or else an integer is too long. -/
theorem Handled.fares (handled : Handled settings told outcome) (known : told.data? = some data) :
    ∃ site written silence, outcome = attempt site written ∧
      Json.Fares data.Tells written (told.obstacle? silence) := by
  cases handled with
  | failure facts received cause site readable exposes tells coded detailed =>
      obtain ⟨path, isPath⟩ := readable
      have result := result_handleFailure settings.configuration received site tells coded detailed
      rw [isPath] at result
      exact ⟨site, _, _, result, fares_failure exposes cause.cls path known⟩
  | status facts cause site ranked tells =>
      exact ⟨site, _, fun _ => none, rfl, fares_status ranked tells known _⟩

theorem Handled.read_of_ok {response : Response} (handled : Handled settings told (.ok response))
    (known : told.data? = some data) : data.Tells response := by
  obtain ⟨site, written, silence, same, fares⟩ := handled.fares known
  generalize told.obstacle? silence = obstacle? at fares
  cases fares with
  | written isGood =>
      cases same
      exact isGood
  | unspelled => exact nomatch same

theorem Handled.exists_of_writable (handled : Handled settings told outcome)
    (known : told.data? = some data) (writable : told.Writable) :
    ∃ response, outcome = .ok response := by
  obtain ⟨site, written, silence, rfl, fares⟩ := handled.fares known
  rw [(obstacle?_eq_none_iff silence known).mpr writable] at fares
  cases fares with
  | written => exact ⟨_, rfl⟩

theorem Handled.raises_of_unwritable (handled : Handled settings told outcome)
    (known : told.data? = some data) (unwritable : ¬told.Writable) :
    ∃ site, outcome = .error (.fault site .unspellable) := by
  obtain ⟨site, written, silence, rfl, fares⟩ := handled.fares known
  rw [← obstacle?_eq_none_iff silence known] at unwritable
  generalize told.obstacle? silence = obstacle? at fares unwritable
  cases fares with
  | written => exact absurd rfl unwritable
  | unspelled => exact ⟨site, rfl⟩

/-- The body of an answer is one object that tells what the exception says, and an exception has an answer
unless an integer in what it says is too long to be written. Answers that tell of different things have
different bodies. -/
theorem bodies_tell_exceptions (settings : Settings) (told : Envelope Value)
    (outcome : Attempt Response) (handled : Handled settings told outcome)
    (data : Envelope Json.Data) (known : told.data? = some data) :
    (told.Writable →
      ∃ response, outcome = .ok response ∧ Json.read response.body = some data.object) ∧
    (¬told.Writable → ∃ site, outcome = .error (.fault site .unspellable)) ∧
    ∀ response, outcome = .ok response → ∀ others other answer otherData,
      Handled others other (.ok answer) → other.data? = some otherData →
        data ≠ otherData → response.body ≠ answer.body := by
  refine ⟨fun writable => ?_, handled.raises_of_unwritable known, ?_⟩
  · obtain ⟨response, rfl⟩ := handled.exists_of_writable known writable
    exact ⟨response, rfl, handled.read_of_ok known⟩
  · rintro response rfl others other answer otherData otherHandled otherKnown differ same
    have tells : Json.read response.body = some data.object := handled.read_of_ok known
    have otherTells : Json.read answer.body = some otherData.object :=
      otherHandled.read_of_ok otherKnown
    rw [same, otherTells, Option.some.injEq] at tells
    exact differ (Envelope.object_inj tells).symm

/-- The handling of a denial that says this, before anything was written to it. -/
theorem handled_denial (message code details : Value) :
    ∃ outcome, Handled Settings.standard ⟨message, code, details⟩ outcome := by
  obtain ⟨tells, coded, detailed⟩ := read_domain Session.initial.scene.surroundings.facts ⟨[0]⟩
    (.known "AuthorizationError") message code details none fun _ => rfl
  let received : Request :=
    ⟨⟨[1]⟩, "GET", "/reports", "", "http://test/reports", .ok "/reports", [], none⟩
  exact ⟨_, .failure _ received _ ⟨[2]⟩ ⟨_, rfl⟩ rfl tells coded detailed⟩

/-- A message that would close its own text and bring in a member, with details inside of details. -/
theorem body_tells_of_forgery :
    let forged := "no\",\"success\":true,\"\\\n\u00e9"
    let told : Envelope Value := ⟨.str forged, .none, .dict ⟨[3]⟩ [(.str "error_code",
      .list ⟨[4]⟩ [.int (-70), .none, .dict ⟨[5]⟩ [(.str "", .bool true)]])]⟩
    let data : Envelope Json.Data := ⟨.text forged, .null, .object [("error_code",
      .array [.number (Rat.ofInt (-70)), .null, .object [("", .bool true)]])]⟩
    ∃ outcome, Handled Settings.standard told outcome ∧ told.data? = some data ∧ told.Writable ∧
      ∃ response, outcome = .ok response ∧ Json.read response.body = some data.object := by
  intro forged told data
  obtain ⟨outcome, handled⟩ := handled_denial told.message told.code told.details
  have known : told.data? = some data := rfl
  have flag : Json.Writable (.dict ⟨[5]⟩ [(.str "", .bool true)]) :=
    .dict _ (List.forall_mem_singleton.mpr (.str _))
      (List.forall_mem_singleton.mpr (.plain (.bool _)))
  have items : Json.Writable (.list ⟨[4]⟩ [.int (-70), .none, .dict ⟨[5]⟩ [(.str "", .bool true)]]) := by
    refine .list _ ?_
    simp only [List.forall_mem_cons]
    exact ⟨.plain (.int (by decide +kernel)), .plain .none, flag, List.forall_mem_nil _⟩
  have writable : told.Writable := ⟨.plain (.str _), .plain .none,
    .dict _ (List.forall_mem_singleton.mpr (.str _)) (List.forall_mem_singleton.mpr items)⟩
  exact ⟨outcome, handled, known, writable,
    (bodies_tell_exceptions Settings.standard told outcome handled data known).1 writable⟩

/-- A denial that tells of an integer with too many digits has no answer. -/
theorem long_integer_has_no_body :
    ¬∀ (settings : Settings) (told : Envelope Value) (outcome : Attempt Response)
      (data : Envelope Json.Data), Handled settings told outcome → told.data? = some data →
        ∃ response, outcome = .ok response ∧ Json.read response.body = some data.object := by
  intro all
  have long := isSpelled_pow
  generalize ((Nat.pow 10 Text.digitBound : Nat) : Int) = number at long
  let details := Value.dict ⟨[3]⟩ [(.str "limit", .int number)]
  obtain ⟨outcome, handled⟩ := handled_denial (.str "no") .none details
  have unwritable : ¬Envelope.Writable ⟨.str "no", .none, details⟩ := by
    rintro ⟨-, -, writable⟩
    cases writable with
    | dict _ named each =>
        cases each _ List.mem_cons_self with
        | plain isPlain =>
            cases isPlain with
            | int spelled => exact nomatch long.symm.trans spelled
    | plain isPlain => exact nomatch isPlain
  obtain ⟨site, raises⟩ := handled.raises_of_unwritable rfl unwritable
  obtain ⟨response, answered, -⟩ := all _ _ _ _ handled rfl
  exact nomatch raises.symm.trans answered

end Handlers

end GuardAlgebra
