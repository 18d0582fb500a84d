import GuardAlgebra.Decimal.Quantity
import GuardAlgebra.Value.Distinct

/-!
Hashes. What a value is hashed by is what it is compared by: numbers by what they denote, containers
and frozen records by the hashes of their contents, whatever their class, unions by their members in
any order, and everything else by its identity. How hashes are made of all this is left open.

A set looks for a value among those of the same hash only.
-/
namespace GuardAlgebra

structure Hashing where
  nothing : Int
  number : Decimal.Quantity → Int
  text : Text → Int
  octets : List UInt8 → Int
  object : Site → Int
  method : Method → Int
  /-- The hash of a function that was taken from an object. -/
  bound : Int → Option Site → Int
  anything : Int
  typeVariable : String → Int
  cls : ClassId → Int
  guest : GuestKey → Int
  /-- The hash of a class with arguments. -/
  parameterised : Int → Int → Int
  sequence : List Int → Int
  unordered : List Int → Int
  unordered_perm : ∀ {hashes others : List Int}, hashes.Perm others →
    unordered hashes = unordered others

mutual

def TypeExpr.hash (hashing : Hashing) : TypeExpr → Int
  | .any => hashing.anything
  | .variable name => hashing.typeVariable name
  | .named cls => hashing.cls cls
  | .container _ cls arguments =>
      hashing.parameterised (hashing.cls cls)
        (hashing.sequence (TypeExpr.hashes hashing arguments))
  | .listOf _ arguments =>
      hashing.sequence [hashing.cls (.known "list"),
        hashing.sequence (TypeExpr.hashes hashing arguments)]
  | .applied _ cls arguments =>
      hashing.sequence [hashing.cls cls, hashing.sequence (TypeExpr.hashes hashing arguments)]
  | .union _ _ members => hashing.unordered (TypeExpr.hashes hashing members)
  | .guest member => hashing.guest member.key
termination_by structural type => type

def TypeExpr.hashes (hashing : Hashing) : List TypeExpr → List Int
  | [] => []
  | type :: types => TypeExpr.hash hashing type :: TypeExpr.hashes hashing types
termination_by structural types => types

end

namespace Value

/-- What a number denotes; none for what is no number. -/
def quantity? : Value → Option Decimal.Quantity
  | .bool truth => some (.finite truth.toNat)
  | .int number => some (.finite number)
  | .float _ number => (Decimal.Real.ofFloat number).quantity?
  | _ => Option.none

end Value

mutual

/-- The hash of a value that can be put into a set. -/
def Value.hash (hashing : Hashing) : Value → Int
  | .none => hashing.nothing
  | .bool truth => hashing.number (.finite truth.toNat)
  | .int number => hashing.number (.finite number)
  | .float site number =>
      match (Decimal.Real.ofFloat number).quantity? with
      | some quantity => hashing.number quantity
      | none => hashing.object site
  | .str text => hashing.text text
  | .bytes octets => hashing.octets octets
  | .tuple _ items => hashing.sequence (Value.hashes hashing items)
  | .type expr => expr.hash hashing
  | .result _ allowed error =>
      hashing.sequence [Value.hash hashing allowed, Value.hash hashing error]
  | .context _ request user organization extra =>
      hashing.sequence [Value.hash hashing request, Value.hash hashing user,
        Value.hash hashing organization, Value.hash hashing extra]
  | .outcome _ field value error resolved stage =>
      hashing.sequence [Value.hash hashing field, Value.hash hashing value,
        Value.hash hashing error, Value.hash hashing resolved, Value.hash hashing stage]
  | .guard tree => Guard.hash hashing tree
  | .post tree => PostGuard.hash hashing tree
  | .bound function receiver => hashing.bound (Value.hash hashing function) receiver.site?
  | .method method => hashing.method method
  | .exception raised => hashing.object raised.site
  | .callable function => hashing.object function.site
  | .request received => hashing.object received.site
  | .list site _ | .dict site _ | .resolver site .. | .routine site _ | .instance site _
  | .pending site => hashing.object site
termination_by structural value => value

def Value.hashes (hashing : Hashing) : List Value → List Int
  | [] => []
  | item :: items => Value.hash hashing item :: Value.hashes hashing items
termination_by structural items => items

def Guard.hash (hashing : Hashing) : Guard → Int
  | .both _ left right | .either _ left right =>
      hashing.sequence [Guard.hash hashing left, Guard.hash hashing right]
  | .allowAll _ => hashing.sequence []
  | .denyAll _ error => hashing.sequence [Value.hash hashing error]
  | .function _ callable error _ =>
      hashing.sequence [Value.hash hashing callable, Value.hash hashing error]
  | .leaf site .. => hashing.object site
termination_by structural tree => tree

def PostGuard.hash (hashing : Hashing) : PostGuard → Int
  | .both _ _ left right _ =>
      hashing.sequence [PostGuard.hash hashing left, PostGuard.hash hashing right]
  | .function _ _ callable error resultType _ =>
      hashing.sequence [Value.hash hashing callable, Value.hash hashing error,
        Value.hash hashing resultType]
  | .leaf site .. => hashing.object site
termination_by structural tree => tree

end

namespace Hashing

/-- Whether a member of a set is found to be a value: of the same hash, and the same object or equal. -/
def finds (hashing : Hashing) (value member : Value) : Bool :=
  value.hash hashing = member.hash hashing && value.agrees member

/-- Puts values into a set, one after the other. -/
def members (hashing : Hashing) (values : List Value) : List Value :=
  values.foldl (fun kept value =>
    if kept.any (hashing.finds value) then kept else kept ++ [value]) []

end Hashing

end GuardAlgebra
