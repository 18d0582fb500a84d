import GuardAlgebra.Site

/-!
Names of classes. A class every session knows is named by its name; a class of guards that an
application declares is named by the site of its declaration too, so that declaring a name again gives
another class. The other classes of an application are there before its sessions begin.
-/
namespace GuardAlgebra

inductive ClassId where
  | known (name : String)
  | declared (site : Site) (name : String)
  /-- A class of an application that is no class of guards. -/
  | outside (name : String)
  deriving DecidableEq, Repr

namespace ClassId

def name : ClassId → String
  | .known name => name
  | .declared _ name => name
  | .outside name => name

/-- The module a class lives in; none for the classes that need no import. -/
def home? : ClassId → Option String
  | .declared .. | .outside _ => some "app"
  | .known name =>
      if name = "Fn" then some "app"
      else if ["FieldGuardException", "AuthorizationError", "GuardDeniedError",
          "GuardCompositionError"].contains name then
        some "fieldguard.utils.exceptions"
      else if ["Guard", "PostGuard", "GuardResult"].contains name then
        some "fieldguard.guards.base"
      else if ["And", "Or", "PostAnd"].contains name then
        some "fieldguard.guards.combinators"
      else if ["AllowAll", "DenyAll", "FunctionGuard", "FunctionPostGuard"].contains name then
        some "fieldguard.guards.builtin"
      else if name = "GuardContext" then some "fieldguard.guards.context"
      else if ["FieldOutcome", "FieldResolver"].contains name then
        some "fieldguard.services.field_resolver"
      else if name = "HTTPException" then some "fastapi.exceptions"
      else if name = "Request" then some "starlette.requests"
      else if ["Generic", "Any", "TypeVar", "_AnyMeta", "_GenericAlias",
          "_UnionGenericAlias"].contains name then
        some "typing"
      else if ["GenericAlias", "UnionType"].contains name then some "types"
      else if ["ABC", "ABCMeta"].contains name then some "abc"
      else none

/-- Classes whose instances are application guards. -/
def isApplication : ClassId → Bool
  | .declared .. => true
  | .known _ | .outside _ => false

/-- The name with its module in front. -/
def qualified (id : ClassId) : String :=
  match id.home? with
  | some home => home ++ "." ++ id.name
  | none => id.name

end ClassId

end GuardAlgebra
