import GuardAlgebra.Exception.Construction

/-!
The type of the values that a post guard inspects: the one it names itself, or the one it was pinned
to where it was made, or the one its class inherits. Naming one type and being pinned to another is
refused. The type of anything and type variables say nothing.
-/
namespace GuardAlgebra

/-- A result type that says something. -/
def concrete? : Value → Option Value
  | .none => none
  | .type expr => if expr.isConcrete then some (.type expr) else none
  | value => some value

/-- The first type argument of a parameterised type. -/
def firstArgument? : Value → Option Value
  | .type expr => expr.arguments.head?.map Value.type
  | _ => none

def postGuardClass : ClassId := .known "PostGuard"

/-- The result type a class inherits: the first concrete argument of a post guard class among the
written bases along the lineage. -/
def Hierarchy.inheritedType? (hierarchy : Hierarchy) (cls : ClassId) : Option Value :=
  (hierarchy.lineage cls).findSome? fun ancestor =>
    (hierarchy.writtenBases ancestor).findSome? fun base => do
      let origin ← base.origin?
      if hierarchy.descends origin postGuardClass then
        let argument ← base.arguments.head?
        concrete? (.type argument)
      else none

namespace Facts

/-- The type that an object names itself. -/
def namedType? (facts : Facts) (value : Value) : Option Value :=
  (facts.read? value "result_type").bind concrete?

/-- The type that an object is pinned to. -/
def pinnedType? (facts : Facts) (value : Value) : Option Value :=
  ((facts.read? value pinAttribute).bind firstArgument?).bind concrete?

def resultType (facts : Facts) (value : Value) (site : Site) : Attempt (Option Value) :=
  match facts.namedType? value, facts.pinnedType? value with
  | some named, some pinned => do
      if ← attempt site (named.same pinned) then pure (some named)
      else
        let declared ← attempt site (facts.depict pinned)
        let inspected ← attempt site (facts.depict named)
        throw (.misfit site
          ("Post guard declared over " ++ declared ++ " but inspects " ++ inspected)
          [("declared", declared), ("result_type", inspected)])
  | some named, none => .ok (some named)
  | none, some pinned => .ok (some pinned)
  | none, none => .ok (facts.hierarchy.inheritedType? value.cls)

end Facts

end GuardAlgebra
