import GuardAlgebra.Class.Hierarchy

/-!
Tests of classes: whether a class descends from another one or from a member of a union, and whether
a value is an instance of it. The type of anything is a class of its own that only it descends from,
and no value can be tested for it; type variables and parameterised types cannot be tested for at
all. The members of a union are looked at in order, up to the first that fits.
-/
namespace GuardAlgebra.Hierarchy

def anyClass : ClassId := .known "Any"

/-- Whether a class descends from what is tested for. -/
def descendsFrom (hierarchy : Hierarchy) (cls : ClassId) : TypeExpr → Except Fault Bool
  | .named ancestor => .ok (hierarchy.descends cls ancestor)
  | .any => .ok (cls = anyClass)
  | other => .error (.badClassTest other.kind)

/-- Parameterised containers have the root for their only ancestor, and guard classes do not accept
them for a class. -/
def containerDescendsFrom : TypeExpr → Except Fault Bool
  | .named ancestor =>
      if ancestor.isGuardClass then .error (.badClassTest "GenericAlias")
      else .ok (ancestor = objectClass)
  | .any => .ok false
  | other => .error (.badClassTest other.kind)

/-- Whether a test holds of some type; none of them is tested behind the first of which it does. -/
def anyHolds (test : TypeExpr → Except Fault Bool) : List TypeExpr → Except Fault Bool
  | [] => .ok false
  | type :: types => do
      if ← test type then pure true else anyHolds test types

/-- A test of a type, or of the members of a union. -/
def testEach (test : TypeExpr → Except Fault Bool) : TypeExpr → Except Fault Bool
  | .union _ _ members => anyHolds test members
  | type => test type

/-- Whether a type descends from another one. -/
def isSubclass (hierarchy : Hierarchy) (type ancestor : TypeExpr) : Except Fault Bool :=
  match type with
  | .named cls => testEach (hierarchy.descendsFrom cls) ancestor
  | .any => testEach (hierarchy.descendsFrom anyClass) ancestor
  | .container .. => testEach containerDescendsFrom ancestor
  | other => .error (.badClassTest other.kind)

/-- Whether a value is an instance of a class, or of a member of a union. -/
def isInstance (hierarchy : Hierarchy) (value : Value) (cls : TypeExpr) : Except Fault Bool :=
  match cls with
  | .any => .error (.badClassTest TypeExpr.any.kind)
  | cls => testEach (hierarchy.descendsFrom value.cls) cls

end GuardAlgebra.Hierarchy
