import GuardAlgebra.Field.Resolver
import GuardAlgebra.Request.Context

/-!
Admission of requests. A request is admitted with its context if a guard allows that context, and
otherwise answered with the status and the text that the settings and the error of the denial give.
-/
namespace GuardAlgebra

namespace Admission

def loggerName : String := "fieldguard.dependencies.guards"

/-- The record of a denial, where all that it tells of can be read and put into words. -/
def denialRecord (facts : Facts) (line : RequestLine) (error : Value) : Except Fault Record := do
  let method ← line.method
  let methodText ← facts.say method
  let path ← line.path >>= facts.say
  let errorText ← facts.say error
  pure
    { logger := loggerName
      message := "Guard denied " ++ methodText ++ " " ++ path ++ ": " ++ errorText
      extra := [("path", .str path), ("method", method), ("error_type", .str error.typeName)] }

/-- The text of a denial: what the error says, unless details are hidden or there is no error. -/
def detail (facts : Facts) (configuration : Configuration) (error : Value) : Except Fault Value := do
  if ← configuration.exposeDetails.truth then
    match error with
    | .exception (.domain ..) => facts.read error "message"
    | .none => pure configuration.detail
    | error => (facts.say error).map Value.str
  else pure configuration.detail

/-- The exception that a denied request is answered with. -/
def refusal (facts : Facts) (configuration : Configuration) (error : Value) (site : Site) :
    Exception :=
  match detail facts configuration error with
  | .error cause => .fault site cause
  | .ok detail =>
      match Exception.answering facts site [] configuration.statusCode detail .none with
      | .ok cause => cause
      | .error cause => cause

/-- The context that a request is checked in. -/
def context (around : Surroundings) (factory : Option Value) (request : Value) (site : Site) :
    Run Value :=
  match factory with
  | none => around.requestContext site request
  | some factory => do
      let answer ← around.call factory ⟨[request], []⟩ site
      pure (answer.unawaited site)

/-- Gives the context of a request that a guard allows. -/
def admission (around : Surroundings) (configuration : Configuration) (guard : Guard)
    (factory : Option Value) (request : Value) (site : Site) : Run Value := do
  let context ← context around factory request (site.child 0)
  match ← around.denial? (.guard guard) [context] (site.child 1) with
  | none => pure context
  | some error =>
      Surroundings.note configuration.logDenials site
        (.ofExcept site (denialRecord around.facts (around.facts.requestLine request) error))
      .raised (refusal around.facts configuration error site)

end Admission

end GuardAlgebra
