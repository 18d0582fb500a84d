import GuardAlgebra.Construction.Plain
import GuardAlgebra.Field.Resolver
import GuardAlgebra.Guard.Function

/-!
Instances of classes. A post guard made from a parameterised class remembers the type arguments; an
outcome of a field forgets them. Classes that leave the check to their descendants have no instances
of their own.
-/
namespace GuardAlgebra

namespace Facts

def badArguments {α : Type} (site : Site) (callee : String) : Attempt α :=
  .error (.fault site (.badArguments callee))

/-- An instance of a class; the pin is the class with its type arguments, if it has any. -/
def newInstance (facts : Facts) (site : Site) (cls : ClassId) (pin : Value)
    (arguments : Arguments) : Attempt Value :=
  if facts.hierarchy.checking cls = .required then .error (.fault site (.notInstantiable cls.name))
  else if facts.hierarchy.descends cls (.known "BaseException") then
    (Exception.make facts cls arguments site).map Value.exception
  else
    match cls with
    | .declared _ name => badArguments site name
    | .outside name =>
        match arguments.bind? [] with
        | some _ => .ok (.instance site cls)
        | none => badArguments site name
    | .known "GuardResult" =>
        match arguments.bind? [.mandatory "allowed", .optional "error"] with
        | some [some allowed, error] => .ok (.result site allowed (error.getD .none))
        | _ => badArguments site cls.name
    | .known "GuardContext" =>
        match arguments.bind? [.optional "request", .optional "user", .optional "organization_id",
            .optional "extra_data"] with
        | some [received, user, organization, extra] =>
            .ok (.context site (received.getD .none) (user.getD .none) (organization.getD .none)
              (extra.getD (.dict (site.child 0) [])))
        | _ => badArguments site cls.name
    | .known "AllowAll" =>
        match arguments.bind? [] with
        | some [] => .ok (.guard (.allowAll site))
        | _ => badArguments site cls.name
    | .known "DenyAll" =>
        match arguments.bind? [.optional "error"] with
        | some [error] => .ok (.guard (.denyAll site (givenError site error)))
        | _ => badArguments site cls.name
    | .known "FunctionGuard" =>
        match arguments.bind? [.mandatory "func", .optional "error", .optional "name"] with
        | some [some function, error, name] => .ok (facts.functionGuard site function error name)
        | _ => badArguments site cls.name
    | .known "FunctionPostGuard" =>
        match arguments.bind? [.mandatory "func", .optional "error", .optional "result_type",
            .optional "name"] with
        | some [some function, error, resultType, name] =>
            .ok (facts.functionPost site pin function error (resultType.getD .none) name)
        | _ => badArguments site cls.name
    | .known "And" =>
        match arguments.bind? [.mandatory "left", .mandatory "right"] with
        | some [some left, some right] => (Guard.conjoin site left right).map Value.guard
        | _ => badArguments site cls.name
    | .known "Or" =>
        match arguments.bind? [.mandatory "left", .mandatory "right"] with
        | some [some left, some right] => (Guard.disjoin site left right).map Value.guard
        | _ => badArguments site cls.name
    | .known "PostAnd" =>
        match arguments.bind? [.mandatory "left", .mandatory "right"] with
        | some [some left, some right] =>
            (PostGuard.conjoin facts site pin left right).map Value.post
        | _ => badArguments site cls.name
    | .known "FieldOutcome" =>
        match arguments.bind? [.mandatory "field_name", .optional "value", .optional "error",
            .optional "resolved", .optional "stage"] with
        | some [some field, value, error, resolved, stage] =>
            .ok (.outcome site field (value.getD .none) (error.getD .none)
              (resolved.getD (.bool false)) (stage.getD .none))
        | _ => badArguments site cls.name
    | .known "FieldResolver" =>
        match arguments.bind? [.optional "guard", .optional "post_guard", .optional "field_name"] with
        | some [before, after, field] =>
            Resolver.make facts site (before.getD .none) (after.getD .none)
              (field.getD (.str "field"))
        | _ => badArguments site cls.name
    | .known name => attempt site (facts.plainInstance site name arguments)

/-- Calls a type: classes make instances, and no other type can be called. -/
def instantiate (facts : Facts) (site : Site) (type : TypeExpr) (arguments : Arguments) :
    Attempt Value :=
  match type with
  | .named cls => facts.newInstance site cls .none arguments
  | .applied _ cls _ => facts.newInstance site cls (.type type) arguments
  | .container _ cls _ => attempt site (facts.plainInstance site cls.name arguments)
  | type => .error (.fault site (.notCallable type.kind))

end Facts

end GuardAlgebra
