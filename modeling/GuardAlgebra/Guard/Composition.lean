import GuardAlgebra.Post.ResultType

/-!
Composing guards. Only guards can be composed with guards and only post guards with post guards, and
two post guards must not inspect different types. A conjunction of post guards inspects the type of
its left part, or else that of its right part.
-/
namespace GuardAlgebra

/-- The refusal of a value of the wrong kind. -/
def unexpected (site : Site) (expected : String) (value : Value) : Exception :=
  .misfit site ("Expected a " ++ expected ++ ", got " ++ value.typeName)
    [("expected", expected), ("received", value.typeName)]

def Value.asGuard (site : Site) : Value → Attempt Guard
  | .guard tree => .ok tree
  | value => .error (unexpected site "Guard" value)

def Value.asPost (site : Site) : Value → Attempt PostGuard
  | .post tree => .ok tree
  | value => .error (unexpected site "PostGuard" value)

namespace Guard

/-- Both must allow. -/
def conjoin (site : Site) (left right : Value) : Attempt Guard := do
  let left ← left.asGuard site
  let right ← right.asGuard site
  pure (.both site left right)

/-- Either may allow. -/
def disjoin (site : Site) (left right : Value) : Attempt Guard := do
  let left ← left.asGuard site
  let right ← right.asGuard site
  pure (.either site left right)

/-- Joins guards from the left, each joint at its own site. -/
def fold (join : Site → Value → Value → Attempt Guard) (site : Site) : Guard → List Guard →
    Attempt Guard
  | first, [] => .ok first
  | first, next :: rest => do
      let joined ← join site (.guard first) (.guard next)
      fold join (site.child 0) joined rest

/-- Joins any number of values, all of which must be guards and none of them missing. -/
def foldAll (join : Site → Value → Value → Attempt Guard) (callee : String) (site : Site)
    (values : List Value) : Attempt Guard := do
  match ← values.mapM (Value.asGuard site) with
  | [] => .error (.misfit site (callee ++ "() requires at least one guard") [])
  | first :: rest => fold join site first rest

end Guard

namespace PostGuard

/-- The type of a conjunction of guards over these types. -/
def joinedType (facts : Facts) (site : Site) : Option Value → Option Value → Attempt Value
  | some left, some right => do
      if ← attempt site (left.same right) then pure left
      else
        let leftText ← attempt site (facts.depict left)
        let rightText ← attempt site (facts.depict right)
        throw (.misfit site
          ("Cannot combine post guards over " ++ leftText ++ " and " ++ rightText)
          [("left", leftText), ("right", rightText)])
  | some left, none => .ok left
  | none, some right => .ok right
  | none, none => .ok .none

/-- Both must allow, the left one first. -/
def conjoin (facts : Facts) (site : Site) (pin left right : Value) : Attempt PostGuard := do
  let before ← left.asPost site
  let after ← right.asPost site
  let leftType ← facts.resultType left site
  let rightType ← facts.resultType right site
  let type ← joinedType facts site leftType rightType
  pure (.both site pin before after type)

def fold (facts : Facts) (site : Site) : PostGuard → List PostGuard → Attempt PostGuard
  | first, [] => .ok first
  | first, next :: rest => do
      let joined ← conjoin facts site .none (.post first) (.post next)
      fold facts (site.child 0) joined rest

def foldAll (facts : Facts) (callee : String) (site : Site) (values : List Value) :
    Attempt PostGuard := do
  match ← values.mapM (Value.asPost site) with
  | [] => .error (.misfit site (callee ++ "() requires at least one post guard") [])
  | first :: rest => fold facts site first rest

end PostGuard

end GuardAlgebra
