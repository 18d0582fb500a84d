import GuardAlgebra.Call.Method
import GuardAlgebra.Construction.Instance
import GuardAlgebra.Request.Admission

/-!
Declarations: the functions by which applications compose guards, turn functions into guards, and
put guards in front of fields and requests.
-/
namespace GuardAlgebra

inductive Declaration where
  | conjunction
  | disjunction
  | postConjunction
  /-- The type that a post guard inspects. -/
  | resultType
  /-- A guard over a function. -/
  | guard
  /-- A post guard over a function. -/
  | post
  /-- A function behind guards. -/
  | field
  /-- Admission of requests by a guard. -/
  | admission
  | requestContext
  | allow
  | deny
  deriving DecidableEq, Repr

namespace Declaration

/-- The values given to a function that takes any number of them. -/
def manyValues (site : Site) (callee : String) (arguments : Arguments) : Attempt (List Value) :=
  if arguments.named.isEmpty then .ok arguments.positional else Facts.badArguments site callee

end Declaration

namespace Facts

/-- The name of a guarded field: that of its function, if it has one, which must be a text. -/
def wrapperName (facts : Facts) (site : Site) (function : Value) : Attempt Text :=
  let refuse : Attempt Text := .error (.fault site (.unsettable "function"))
  match facts.read? function nameAttribute, facts.read? function "__qualname__" with
  | some (.str name), none | some (.str name), some (.str _) => .ok name
  | none, none | none, some (.str _) => .ok "wrapper"
  | _, _ => refuse

/-- Puts guards around a function: a resolver for the field that is named, or else named after the
function, and the function that goes through it, with all that the function holds. -/
def guardField (facts : Facts) (site : Site) (before after field function : Value) :
    Attempt Value := do
  let isNamed ← attempt site field.truth
  let field ← if isNamed then pure field else attempt site (facts.read function nameAttribute)
  let resolver ← Resolver.make facts (site.child 0) before after field
  let name ← facts.wrapperName site function
  pure (.routine site (.guardedField resolver function name (facts.held function)))

/-- Admits requests by a guard, and by nothing else. -/
def admitting (site : Site) (factory : Option Value) : Value → Attempt Value
  | .guard tree => .ok (.routine site (.admission tree factory))
  | value =>
      .error (.misfit site ("require_guard() expects a Guard, got " ++ value.typeName) [])

/-- The function guard of a declaration, or what makes one once it has the function. -/
def guardOrMaker (facts : Facts) (site : Site) (function error : Value) : Value :=
  match function with
  | .none => .routine site (.guardMaker error)
  | function => facts.declareGuard site function error

def postOrMaker (facts : Facts) (site : Site) (function error resultType : Value) : Value :=
  match function with
  | .none => .routine site (.postMaker error resultType)
  | function => facts.declarePost site function error resultType

end Facts

/-- Makes what is declared. -/
def Surroundings.declare (around : Surroundings) (site : Site) (declaration : Declaration)
    (arguments : Arguments) : Run Value :=
  let facts := around.facts
  let misused (callee : String) : Run Value := .fail site (.badArguments callee)
  match declaration with
  | .conjunction => .ofAttempt do
      let values ← Declaration.manyValues site "all_of" arguments
      return .guard (← Guard.foldAll Guard.conjoin "all_of" site values)
  | .disjunction => .ofAttempt do
      let values ← Declaration.manyValues site "any_of" arguments
      return .guard (← Guard.foldAll Guard.disjoin "any_of" site values)
  | .postConjunction => .ofAttempt do
      let values ← Declaration.manyValues site "all_post" arguments
      return .post (← PostGuard.foldAll facts "all_post" site values)
  | .resultType =>
      match arguments.bind? [.mandatory "post_guard"] with
      | some [some value] => .ofAttempt do return (← facts.resultType value site).getD .none
      | _ => misused "post_guard_result_type"
  | .guard =>
      match arguments.bind? [.optional "func", .keyword "error"] with
      | some [function, error] =>
          .done (facts.guardOrMaker site (function.getD .none) (error.getD .none))
      | _ => misused "guard"
  | .post =>
      match arguments.bind? [.optional "func", .keyword "error", .keyword "result_type"] with
      | some [function, error, resultType] =>
          .done (facts.postOrMaker site (function.getD .none) (error.getD .none)
            (resultType.getD .none))
      | _ => misused "post_guard"
  | .field =>
      match arguments.bind? [.optional "guard", .optional "post_guard", .optional "field_name"] with
      | some [before, after, field] =>
          .done (.routine site (.fieldMaker (before.getD .none) (after.getD .none)
            (field.getD .none)))
      | _ => misused "guarded"
  | .admission =>
      match arguments.bind? [.mandatory "guard", .optional "context_factory"] with
      | some [some guard, factory] => .ofAttempt (Facts.admitting site factory guard)
      | _ => misused "require_guard"
  | .requestContext =>
      match arguments.bind? [.mandatory "request"] with
      | some [some received] => around.requestContext site received
      | _ => misused "build_guard_context"
  | .allow =>
      match arguments.bind? [] with
      | some _ => .done (.allowing site)
      | none => misused "allow"
  | .deny =>
      match arguments.bind? [.optional "error"] with
      | some [error] => .done (.denying site error)
      | _ => misused "deny"

end GuardAlgebra
