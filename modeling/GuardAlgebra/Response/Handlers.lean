import GuardAlgebra.Attribute.Voice
import GuardAlgebra.Json.Writer
import GuardAlgebra.Request.Context
import GuardAlgebra.Settings.Configuration

/-!
Handlers: how exceptions answer requests. Both give a body of the same four members. A failure of
the guard library is logged, and its status is that of the nearest class along its lineage that has
one; what it says is hidden if the settings ask for it.
-/
namespace GuardAlgebra

structure Response where
  status : Value
  body : String

/-- Whether a status is below another one; only numbers are. -/
def Value.isBelow (bound : Int) : Value → Except Fault Bool
  | .int number => .ok (number < bound)
  | .bool truth => .ok ((truth.toNat : Int) < bound)
  | .float _ number => .ok ((Decimal.Real.ofFloat number).compareInt bound = some .lt)
  | value => .error (.unorderable value.typeName "int")

namespace Response

/-- A response with a body that is written already, and is encoded. The status must compare with the
least one that admits a body. -/
def make (status : Value) (body : Text) : Except Fault Response := do
  let body ← body.encoded
  let _ ← status.isBelow 200
  pure ⟨status, body⟩

/-- The body of every answer to an exception, of members that are written already. -/
def bodyOf (message code details : Text) : Text :=
  Json.object
    [Json.member "success" "false", Json.member "message" message, Json.member "error_code" code,
      Json.member "details" details]

def envelope (message code details : Value) : Except Fault Text := do
  let message ← Json.write message
  let code ← Json.write code
  let details ← Json.write details
  pure (bodyOf message code details)

end Response

namespace Handlers

/-- The handlers an application installs, each with the class of exceptions it is for. -/
def registered : List (String × String) :=
  [("FieldGuardException", "field_guard_exception_handler"),
    ("HTTPException", "http_exception_handler")]

def loggerName : String := "fieldguard.middleware.exception_handler"

def serverError : Int := 500

/-- The status of a failure by the nearest class that has one. -/
def statusOf (denied : Value) : List ClassId → Value
  | [] => .int serverError
  | .known "AuthorizationError" :: _ | .known "GuardDeniedError" :: _ => denied
  | .known "GuardCompositionError" :: _ => .int serverError
  | _ :: lineage => statusOf denied lineage

/-- The record of a failure, where all that it tells of can be read and put into words. -/
def failureRecord (facts : Facts) (line : RequestLine) (message code details : Except Fault Value) :
    Except Fault Record := do
  let method ← line.method
  let methodText ← facts.say method
  let urlText ← line.url >>= facts.say
  let text ← message >>= facts.say
  let code ← code
  let details ← details
  let path ← line.path >>= facts.say
  pure
    { logger := loggerName
      message := "Guard exception in " ++ methodText ++ " " ++ urlText ++ ": " ++ text
      extra :=
        [("error_code", code), ("details", details), ("path", .str path), ("method", method)] }

/-- What an answer to a failure says when the failure's own words are hidden. -/
def hiddenMessage (configuration : Configuration) (status : Value) : Except Fault Value := do
  if ← status.isBelow serverError then pure configuration.detail
  else pure (.str "Internal server error")

/-- The answer to a failure of the guard library, from its class and what it says. -/
def answer (hierarchy : Hierarchy) (configuration : Configuration) (cls : ClassId)
    (message code details : Value) : Except Fault Response := do
  let status := statusOf configuration.statusCode (hierarchy.lineage cls)
  if ← configuration.exposeDetails.truth then
    Response.make status (← Response.envelope message code details)
  else
    let hidden ← hiddenMessage configuration status
    Response.make status (← Response.envelope hidden code (.dict .root []))

/-- Handles a failure of the guard library. -/
def handleFailure (facts : Facts) (configuration : Configuration) (request cause : Value)
    (site : Site) : Run Response := do
  let message := facts.read cause "message"
  let code := facts.read cause "error_code"
  let details := facts.read cause "details"
  Run.record (← .ofExcept site
    (failureRecord facts (facts.requestLine request) message code details))
  .ofExcept site do
    answer facts.hierarchy configuration cause.cls (← message) (← code) (← details)

/-- The code that goes with a status. -/
def codeOf (status : Value) : String :=
  let codes : List (Int × String) :=
    [(400, "BAD_REQUEST"), (401, "UNAUTHORIZED"), (403, "FORBIDDEN"), (404, "NOT_FOUND"),
      (422, "VALIDATION_ERROR"), (500, "INTERNAL_ERROR")]
  ((codes.find? fun entry => status.isNumber entry.1).map Prod.snd).getD "HTTP_ERROR"

/-- Handles an exception that carries a status of its own. -/
def handleStatus (facts : Facts) (cause : Value) : Except Fault Response := do
  let status ← facts.read cause "status_code"
  let detail ← facts.read cause "detail"
  match status.unhashable? with
  | some fault => .error fault
  | none =>
      Response.make status (← Response.envelope detail (.str (codeOf status)) (.dict .root []))

end Handlers

end GuardAlgebra
