import GuardAlgebra.Arguments
import GuardAlgebra.Attribute.Voice
import GuardAlgebra.Response.Status

/-!
Making exceptions. An exception of the guard library takes a message, a code and details; the
classes along its lineage take part in turn, each with its own defaults, down to the common base of
all of them.
-/
namespace GuardAlgebra

namespace Exception

/-- What a class of the library contributes when an exception is made. -/
inductive Role where
  /-- Takes a message, a code and details, and nothing else. -/
  | base
  | authorization
  /-- Carries the value that a check was denied with. -/
  | denied
  | composition
  deriving DecidableEq, Repr

def role? : ClassId → Option Role
  | .known "FieldGuardException" => some .base
  | .known "AuthorizationError" => some .authorization
  | .known "GuardDeniedError" => some .denied
  | .known "GuardCompositionError" => some .composition
  | _ => none

/-- The message of a denial that says nothing else. -/
def defaultDenial : String := "Access denied"

/-- A code given by name stands; otherwise the class supplies its own. -/
def withCode (code : String) (named : List (String × Value)) : List (String × Value) :=
  if named.any (·.1 = "error_code") then named else named ++ [("error_code", .str code)]

/-- The message of a denial of an error that brings none. -/
def denialMessage (facts : Facts) : Value → Except Fault Value
  | .none => .ok (.str defaultDenial)
  | error => (facts.say error).map Value.str

structure Fields where
  message : Value
  code : Value
  details : Option Value
  carried : Option Value

/-- Hands the arguments down the lineage; none when some class does not take them. -/
def fields? (facts : Facts) : List ClassId → Arguments → Option Value →
    Option (Except Fault Fields)
  | [], _, _ => none
  | cls :: lineage, ⟨positional, named⟩, carried =>
      match role? cls with
      | none => fields? facts lineage ⟨positional, named⟩ carried
      | some .base =>
          match Arguments.bind?
              [.mandatory "message", .optional "error_code", .optional "details"]
              ⟨positional, named⟩ with
          | some [some message, code, details] =>
              some (.ok ⟨message, code.getD .none, details, carried⟩)
          | _ => none
      | some .authorization =>
          match Arguments.bindOpen? [.optional "message"] positional named with
          | some ([message], others) =>
              fields? facts lineage
                ⟨[message.getD (.str defaultDenial)], withCode "ACCESS_DENIED" others⟩ carried
          | _ => none
      | some .composition =>
          match Arguments.bindOpen? [.optional "message"] positional named with
          | some ([message], others) =>
              fields? facts lineage
                ⟨[message.getD (.str "Invalid guard composition")],
                  withCode "INVALID_COMPOSITION" others⟩ carried
          | _ => none
      | some .denied =>
          match Arguments.bindOpen? [.mandatory "error", .optional "message"] positional named with
          | some ([some error, message], others) =>
              let given := match message.getD .none with
                | .none => denialMessage facts error
                | message => .ok message
              match given with
              | .ok message =>
                  fields? facts lineage ⟨[message], withCode "GUARD_DENIED" others⟩ (some error)
              | .error silent => some (.error silent)
          | _ => none

/-- Details that are empty in any way give way to an empty dictionary. -/
def settleDetails (site : Site) : Option Value → Except Fault Value
  | none => .ok (.dict site [])
  | some details => do
      if ← details.truth then pure details else pure (.dict site [])

/-- An exception that answers a request with a status. Without a detail it gives the reason phrase of
the status, which must then be registered. -/
def answering (facts : Facts) (site : Site) (arguments : List Value)
    (status detail headers : Value) : Attempt Exception :=
  match detail with
  | .none =>
      match Status.phrase? status with
      | some phrase => .ok (.http site arguments status (.str phrase) headers)
      | none => .error (.fault site (.unknownStatus (facts.display status)))
  | detail => .ok (.http site arguments status detail headers)

/-- The exception that a class makes of arguments. -/
def make (facts : Facts) (cls : ClassId) (arguments : Arguments) (site : Site) :
    Attempt Exception :=
  if facts.hierarchy.descends cls (.known "FieldGuardException") then
    match fields? facts (facts.hierarchy.lineage cls) arguments none with
    | none => .error (.fault site (.badArguments cls.name))
    | some (.error silent) => .error (.fault site silent)
    | some (.ok ⟨message, code, details, carried⟩) =>
        (attempt site (settleDetails (site.child 0) details)).map fun settled =>
          .domain site cls message code settled carried
  else if cls = .known "HTTPException" then
    match arguments.bind? [.mandatory "status_code", .optional "detail", .optional "headers"] with
    | some [some status, detail, headers] =>
        answering facts site arguments.positional status (detail.getD .none) (headers.getD .none)
    | _ => .error (.fault site (.badArguments cls.name))
  else if arguments.named.isEmpty then .ok (.plain site cls arguments.positional)
  else .error (.fault site (.badArguments cls.name))

/-- The error of a denial to which nobody gave one. -/
def accessDenied (site : Site) : Exception :=
  .domain site (.known "AuthorizationError") (.str defaultDenial) (.str "ACCESS_DENIED")
    (.dict (site.child 0) []) none

/-- Wraps a denial whose error is no exception itself. -/
def denied (facts : Facts) (site : Site) (error : Value) : Exception :=
  match denialMessage facts error with
  | .ok message =>
      .domain site (.known "GuardDeniedError") message (.str "GUARD_DENIED")
        (.dict (site.child 0) []) (some error)
  | .error silent => .fault site silent

/-- The refusal to compose what does not fit together. -/
def misfit (site : Site) (message : Text) (details : List (String × String)) : Exception :=
  .domain site (.known "GuardCompositionError") (.str message) (.str "INVALID_COMPOSITION")
    (.dict (site.child 0) (details.map fun (name, text) => (.str name, .str text))) none

end Exception

/-- Raising a value: an exception itself, or a class of exceptions, of which it makes one. -/
def Facts.raised (facts : Facts) (value : Value) (site : Site) : Exception :=
  match value with
  | .exception cause => cause
  | .type (.named cls) =>
      if facts.hierarchy.descends cls (.known "BaseException") then
        match Exception.make facts cls .none site with
        | .ok cause => cause
        | .error cause => cause
      else .fault site (.notAnException "type")
  | value => .fault site (.notAnException value.typeName)

end GuardAlgebra
