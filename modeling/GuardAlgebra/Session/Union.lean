import GuardAlgebra.Session.Evaluate

/-!
Unions of two values, at least one of which is a type. Nothing stands for its own type, and a text
refers to a type by name; any other value that is no type is a guest in the union, unless it is a
tuple.
-/
namespace GuardAlgebra

/-- Whether a text is a name or a number, so that it can refer to something. -/
def isReference (text : String) : Bool :=
  let isLetter := fun (char : Char) => char.isAlpha || char = '_' || 128 ≤ char.toNat
  let isName := fun (part : List Char) =>
    part.head?.any isLetter && part.all fun char => isLetter char || char.isDigit
  ((text.splitOn ".").all fun part => isName part.toList) ||
    (text ≠ "" && text.all Char.isDigit)

/-- A name that refers to a type. -/
def referenceOf (text : Text) : Except Fault Guest := do
  let name ← text.encoded
  let quoted := Text.quoted text
  if isReference name then .ok ⟨parenthesized "ForwardRef" [quoted], .text quoted⟩
  else .error (.badReference quoted)

namespace Value

/-- What a value is equal by in a union. -/
def guestKey (shown : String) : Value → GuestKey
  | .int number => .number number
  | .bool truth => .number truth.toNat
  | .float site number =>
      match Decimal.Real.ofFloat number with
      | .undefined => .object site
      | real => (real.integer?.map GuestKey.number).getD (.text shown)
  | .list .. | .dict .. => .text shown
  | value => (value.site?.map GuestKey.object).getD (.text shown)

/-- What a value stands for in a union. -/
def asMember (facts : Facts) : Value → Except Fault TypeExpr
  | .type expr => .ok expr
  | .none => .ok (.guest ⟨"None", .nothing⟩)
  | .str name => (referenceOf name).map TypeExpr.guest
  | .tuple .. => .error (.badTypeArguments "Union")
  | .routine site made => .ok (.guest ⟨made.name.escaped, .object site⟩)
  | value =>
      match value.unhashable? with
      | some (.missingAttribute owner name) => .error (.missingAttribute owner name)
      | _ =>
          let shown := facts.display value
          .ok (.guest ⟨shown, value.guestKey shown⟩)

def isType : Value → Bool
  | .type _ => true
  | _ => false

/-- Whether a value takes another one beside it in a union. Types that a bar joins by itself take
types alone, and what stands for its own type. -/
def takes (value other : Value) : Bool :=
  match value with
  | .type expr => !expr.isBarred || other.isNone || other.isType
  | _ => true

end Value

namespace Session

/-- The union of two values. -/
def unite (facts : Facts) (site : Site) (left right : Value) : Evaluation Value := do
  let refuse : Evaluation Value :=
    throw (.fault site (.unsupportedOperands "|" left.typeName right.typeName))
  if left.takes right && right.takes left then
    let first ← attempt site (left.asMember facts)
    let second ← attempt site (right.asMember facts)
    match (← get).join? site first second with
    | some (type, subscripts) =>
        set subscripts
        pure (.type type)
    | none => refuse
  else refuse

/-- Types are united by a bar. -/
def isUnion (operator : Operator) (left right : Value) : Bool :=
  operator = .or && (left.isType || right.isType)

end Session

end GuardAlgebra
