import GuardAlgebra.Class.TypeExpr

/-!
Subscripting. Unions, lists of the typing vocabulary and classes over type variables are made once:
subscripting again with equal types gives the type that was made first, so the order in which the
members of its unions were first written stays. `find?_remember` says that a type that was made is
found again.
-/
namespace GuardAlgebra

/-- What is subscripted. -/
inductive Head where
  | union
  | list
  | cls (id : ClassId)
  deriving DecidableEq, Repr

/-- What was subscripted, with which arguments, and where. -/
structure Subscript where
  head : Head
  arguments : List TypeExpr
  site : Site

/-- The type that a subscript made. -/
def Subscript.type : Subscript → TypeExpr
  | ⟨.union, arguments, site⟩ => .unionOf site false arguments
  | ⟨.list, arguments, site⟩ => .listOf site arguments
  | ⟨.cls id, arguments, site⟩ => .applied site id arguments

/-- The latest first. -/
structure Subscripts where
  made : List Subscript

namespace Subscripts

def empty : Subscripts := ⟨[]⟩

def find? (subscripts : Subscripts) (head : Head) (arguments : List TypeExpr) : Option TypeExpr :=
  (subscripts.made.find? fun subscript =>
    subscript.head = head && TypeExpr.sameAll subscript.arguments arguments).map Subscript.type

def remember (subscripts : Subscripts) (subscript : Subscript) : Subscripts :=
  ⟨subscript :: subscripts.made⟩

/-- The type for these arguments, and what is remembered then. -/
def subscript (subscripts : Subscripts) (site : Site) (head : Head) (arguments : List TypeExpr) :
    TypeExpr × Subscripts :=
  match subscripts.find? head arguments with
  | some type => (type, subscripts)
  | none =>
      let made : Subscript := ⟨head, arguments, site⟩
      (made.type, subscripts.remember made)

theorem find?_remember {subscripts : Subscripts} {subscript : Subscript}
    (reflexive : TypeExpr.sameAll subscript.arguments subscript.arguments = true) :
    (subscripts.remember subscript).find? subscript.head subscript.arguments =
      some subscript.type := by
  simp [find?, remember, reflexive]

end Subscripts

namespace TypeExpr

/-- Types that a bar joins by itself: classes, the type of anything among them, parameterised
containers and unions with bars; and nothing. -/
def isBarred : TypeExpr → Bool
  | .any | .named _ | .container .. => true
  | .union _ barred _ => barred
  | .guest member => member.key = .nothing
  | .variable _ | .listOf .. | .applied .. => false

/-- The typing vocabulary does not take what declares type variables as an argument. -/
def isArgument : TypeExpr → Bool
  | .named cls | .applied _ cls _ => cls ≠ .known "Generic"
  | _ => true

end TypeExpr

namespace Subscripts

/-- The union of two types with a bar between them. Types of the typing vocabulary make one of its
unions, which must take both as arguments. -/
def join? (subscripts : Subscripts) (site : Site) (left right : TypeExpr) :
    Option (TypeExpr × Subscripts) :=
  if left.isBarred && right.isBarred then some (.unionOf site true [left, right], subscripts)
  else if left.isArgument && right.isArgument then
    some (subscripts.subscript site .union [left, right])
  else none

end Subscripts

end GuardAlgebra
