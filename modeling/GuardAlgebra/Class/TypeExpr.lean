import GuardAlgebra.Class.Id

/-!
Types that guards inspect: classes, type variables, the type of anything, parameterised classes and
unions. Unions are equal when they have the same members, in any order.

A type that is made of other types is an object of its own, made at a site; equal types need not be
the same object. The typing vocabulary lets other objects into its unions as guests.
-/
namespace GuardAlgebra

/-- What a guest is equal by: a number, a text, or the site of an object. Nothing stands for its own
type, but is another thing to write. -/
inductive GuestKey where
  | nothing
  | number (value : Int)
  | text (text : String)
  | object (site : Site)
  deriving DecidableEq, Repr

/-- A member of a union that is no type: how it is shown, and what it is equal by. -/
structure Guest where
  shown : String
  key : GuestKey
  deriving DecidableEq, Repr

inductive TypeExpr where
  | any
  | variable (name : String)
  | named (cls : ClassId)
  /-- A container class with its element types. -/
  | container (site : Site) (cls : ClassId) (arguments : List TypeExpr)
  /-- The list type of the typing vocabulary, another type than the parameterised list class. -/
  | listOf (site : Site) (arguments : List TypeExpr)
  /-- A class declared over type variables, with types in their place. -/
  | applied (site : Site) (cls : ClassId) (arguments : List TypeExpr)
  /-- A union; `barred` when it was written with bars between its members. -/
  | union (site : Site) (barred : Bool) (members : List TypeExpr)
  | guest (guest : Guest)
  deriving Repr

namespace TypeExpr

mutual

def same : TypeExpr → TypeExpr → Bool
  | .any, .any => true
  | .variable name, .variable other => name = other
  | .named cls, .named other => cls = other
  | .container _ cls arguments, .container _ other others =>
      cls = other && sameAll arguments others
  | .listOf _ arguments, .listOf _ others => sameAll arguments others
  | .applied _ cls arguments, .applied _ other others => cls = other && sameAll arguments others
  | .union _ _ members, .union _ _ others =>
      members.length = others.length && sameSome members others
  | .guest member, .guest other => member.key = other.key
  | _, _ => false
termination_by structural type => type

/-- The lists agree place by place. -/
def sameAll : List TypeExpr → List TypeExpr → Bool
  | [], [] => true
  | type :: types, other :: others => same type other && sameAll types others
  | _, _ => false
termination_by structural types => types

/-- Every type of the first list is somewhere in the second. -/
def sameSome : List TypeExpr → List TypeExpr → Bool
  | [], _ => true
  | type :: types, others => others.any (same type) && sameSome types others
termination_by structural types => types

end

/-- Where a type was made of other types. -/
def site? : TypeExpr → Option Site
  | .container site .. | .listOf site _ | .applied site .. | .union site .. => some site
  | .any | .variable _ | .named _ | .guest _ => none

/-- The very same type object. -/
def identical : TypeExpr → TypeExpr → Bool
  | .any, .any => true
  | .variable name, .variable other => name = other
  | .named cls, .named other => cls = other
  | type, other =>
      match type.site?, other.site? with
      | some site, some place => site = place
      | _, _ => false

/-- Keeps the first of equal types. -/
def dedup (types : List TypeExpr) : List TypeExpr :=
  types.foldl (fun kept type => if kept.any (same type) then kept else kept ++ [type]) []

def noneType : TypeExpr := .named (.known "NoneType")

/-- What a type brings along as a member of a union. -/
def membersOf : TypeExpr → List TypeExpr
  | .union _ _ members => members
  | .guest ⟨_, .nothing⟩ => [noneType]
  | type => [type]

/-- A union of types: unions among them are opened, repetitions dropped, and one member alone is no
union. -/
def unionOf (site : Site) (barred : Bool) (types : List TypeExpr) : TypeExpr :=
  let members := dedup (types.flatMap membersOf)
  match members with
  | [member] => member
  | members => .union site barred members

mutual

/-- The type variables in a type, each once, in the order they appear. -/
def variableNames : TypeExpr → List String
  | .variable name => [name]
  | .container _ _ arguments | .listOf _ arguments | .applied _ _ arguments
  | .union _ _ arguments => variableNamesOf arguments
  | .any | .named _ | .guest _ => []
termination_by structural type => type

def variableNamesOf : List TypeExpr → List String
  | [] => []
  | type :: types =>
      let first := variableNames type
      first ++ (variableNamesOf types).filter fun name => !first.contains name
termination_by structural types => types

end

/-- The types that a parameterised type or a union is over. -/
def arguments : TypeExpr → List TypeExpr
  | .container _ _ arguments | .listOf _ arguments | .applied _ _ arguments
  | .union _ _ arguments => arguments
  | .any | .named _ | .variable _ | .guest _ => []

/-- The class a parameterised type is made from. -/
def origin? : TypeExpr → Option ClassId
  | .container _ cls _ | .applied _ cls _ => some cls
  | .listOf .. => some (.known "list")
  | .any | .named _ | .variable _ | .union .. | .guest _ => none

/-- A concrete type: neither a type variable nor the type of anything. -/
def isConcrete : TypeExpr → Bool
  | .any | .variable _ => false
  | _ => true

/-- Joins shown parts in square brackets. -/
def bracketed (parts : List String) : String := "[" ++ ", ".intercalate parts ++ "]"

mutual

/-- A type as it stands inside another type. -/
def shown : TypeExpr → String
  | .any => "typing.Any"
  | .variable name => "~" ++ name
  | .named cls => cls.qualified
  | .container _ cls arguments => cls.qualified ++ bracketed (shownAll arguments)
  | .listOf _ arguments => "typing.List" ++ bracketed (shownAll arguments)
  | .applied _ cls arguments => cls.qualified ++ bracketed (shownAll arguments)
  | .union _ true members => " | ".intercalate (shownBetweenBars members)
  | .union _ false [first, second] =>
      if same first noneType then "typing.Optional" ++ bracketed [shown second]
      else if same second noneType then "typing.Optional" ++ bracketed [shown first]
      else "typing.Union" ++ bracketed [shown first, shown second]
  | .union _ false members => "typing.Union" ++ bracketed (shownAll members)
  | .guest member => member.shown
termination_by structural type => type

def shownAll : List TypeExpr → List String
  | [] => []
  | type :: types => shown type :: shownAll types
termination_by structural types => types

/-- Members between bars; the type of nothing is shown as nothing is. -/
def shownBetweenBars : List TypeExpr → List String
  | [] => []
  | type :: types =>
      (if same type noneType then "None" else shown type) :: shownBetweenBars types
termination_by structural types => types

end

/-- The name of a type: of its class, without arguments. A union with bars has none. -/
def name? : TypeExpr → Option String
  | .any => some "Any"
  | .variable name => some name
  | .named cls | .container _ cls _ | .applied _ cls _ => some cls.name
  | .listOf .. => some "List"
  | .union _ true _ | .guest _ => none
  | .union _ false [first, second] =>
      some (if same first noneType || same second noneType then "Optional" else "Union")
  | .union _ false _ => some "Union"

/-- A type as it is shown alone. -/
def display : TypeExpr → String
  | .named cls => "<class '" ++ cls.qualified ++ "'>"
  | type => shown type

end TypeExpr

end GuardAlgebra
