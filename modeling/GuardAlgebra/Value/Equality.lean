import GuardAlgebra.Decimal.Binary
import GuardAlgebra.Value.Kind

/-!
Equality of values. Numbers of all kinds compare by what they denote, containers and frozen records
by their contents, and everything else by identity. Contents agree when they are the same object or
equal, which matters for a number that is not equal to itself.

Names of function guards, pins and derived result types take no part in it. An application post
guard that descends from one of the library compares as that does, by contents that it lacks, so
comparing two of a class fails.
-/
namespace GuardAlgebra

namespace Value

/-- Equality of two numbers, truth values counting as zero and one; none unless both are numbers. -/
def sameNumber? : Value → Value → Option Bool
  | .float _ number, .float _ other => some (number == other)
  | .float _ number, .int other => some (matchesInt number other)
  | .float _ number, .bool other => some (matchesInt number other.toNat)
  | .int number, .float _ other => some (matchesInt other number)
  | .bool number, .float _ other => some (matchesInt other number.toNat)
  | .int number, .int other => some (number = other)
  | .int number, .bool other => some (number = other.toNat)
  | .bool number, .int other => some (other = number.toNat)
  | .bool number, .bool other => some (number = other)
  | _, _ => Option.none
where
  matchesInt (number : Float) (other : Int) : Bool :=
    (Decimal.Real.ofFloat number).compareInt other = some .eq

/-- A number equal to an integer. -/
def isNumber (value : Value) (number : Int) : Bool := value.sameNumber? (.int number) = some true

end Value

/-- The first attribute by which library post guards of a class compare. -/
def comparedAttribute : String → String
  | "PostAnd" => "left"
  | _ => "func"

/-- Whether both hold; the second is asked only if the first holds. -/
def bothHold (first second : Except Fault Bool) : Except Fault Bool :=
  match first with
  | .ok true => second
  | other => other

/-- Whether contents agree: the same object at once, or else equal. -/
def agreement (identical : Bool) (equal : Except Fault Bool) : Except Fault Bool :=
  if identical then .ok true else equal

mutual

def Value.same : Value → Value → Except Fault Bool
  | .none, other => .ok (other.identical .none)
  | .str text, .str other => .ok (text = other)
  | .bytes octets, .bytes other => .ok (octets = other)
  | .list _ items, .list _ others =>
      if items.length = others.length then Value.sameItems items others else .ok false
  | .tuple _ items, .tuple _ others => Value.sameItems items others
  | .dict _ entries, .dict _ others =>
      if entries.length = others.length then Value.sameEntries entries others else .ok false
  | .type expr, .type other => .ok (TypeExpr.same expr other)
  | .result _ allowed error, .result _ otherAllowed otherError =>
      bothHold (agreement (allowed.identical otherAllowed) (Value.same allowed otherAllowed))
        (agreement (error.identical otherError) (Value.same error otherError))
  | .context _ received user organization extra,
    .context _ otherReceived otherUser otherOrganization otherExtra =>
      bothHold (agreement (received.identical otherReceived) (Value.same received otherReceived))
        (bothHold (agreement (user.identical otherUser) (Value.same user otherUser))
          (bothHold
            (agreement (organization.identical otherOrganization)
              (Value.same organization otherOrganization))
            (agreement (extra.identical otherExtra) (Value.same extra otherExtra))))
  | .outcome _ field value error resolved stage,
    .outcome _ otherField otherValue otherError otherResolved otherStage =>
      bothHold (agreement (field.identical otherField) (Value.same field otherField))
        (bothHold (agreement (value.identical otherValue) (Value.same value otherValue))
          (bothHold (agreement (error.identical otherError) (Value.same error otherError))
            (bothHold
              (agreement (resolved.identical otherResolved) (Value.same resolved otherResolved))
              (agreement (stage.identical otherStage) (Value.same stage otherStage)))))
  | .guard tree, .guard other => Guard.same tree other
  | .post tree, .post other => PostGuard.same tree other
  | .bound function receiver, .bound otherFunction otherReceiver =>
      bothHold (Value.same function otherFunction) (.ok (receiver.identical otherReceiver))
  | value, other =>
      match value.sameNumber? other with
      | some same => .ok same
      | Option.none => .ok (value.identical other)
termination_by structural value => value

/-- Place by place, the contents agree. -/
def Value.sameItems : List Value → List Value → Except Fault Bool
  | [], [] => .ok true
  | item :: items, other :: others =>
      bothHold (agreement (item.identical other) (Value.same item other))
        (Value.sameItems items others)
  | _, _ => .ok false
termination_by structural items => items

/-- Every entry has an entry of the same key and value among the others. -/
def Value.sameEntries : List (Value × Value) → List (Value × Value) → Except Fault Bool
  | [], _ => .ok true
  | (key, value) :: entries, others =>
      bothHold
        (match others.find? fun other =>
            key.identical other.1 || (Value.same key other.1).toOption = some true with
          | some (_, found) => agreement (value.identical found) (Value.same value found)
          | none => .ok false)
        (Value.sameEntries entries others)
termination_by structural entries => entries

def Guard.same : Guard → Guard → Except Fault Bool
  | .both _ left right, .both _ otherLeft otherRight
  | .either _ left right, .either _ otherLeft otherRight =>
      bothHold
        (agreement ((Value.guard left).identical (.guard otherLeft)) (Guard.same left otherLeft))
        (agreement ((Value.guard right).identical (.guard otherRight)) (Guard.same right otherRight))
  | .allowAll _, .allowAll _ => .ok true
  | .denyAll _ error, .denyAll _ otherError =>
      agreement (error.identical otherError) (Value.same error otherError)
  | .function _ callable error _, .function _ otherCallable otherError _ =>
      bothHold (agreement (callable.identical otherCallable) (Value.same callable otherCallable))
        (agreement (error.identical otherError) (Value.same error otherError))
  | .leaf site .., .leaf place .. => .ok (site = place)
  | _, _ => .ok false
termination_by structural tree => tree

def PostGuard.same : PostGuard → PostGuard → Except Fault Bool
  | .both _ _ left right _, .both _ _ otherLeft otherRight _ =>
      bothHold
        (agreement ((Value.post left).identical (.post otherLeft)) (PostGuard.same left otherLeft))
        (agreement ((Value.post right).identical (.post otherRight))
          (PostGuard.same right otherRight))
  | .function _ _ callable error resultType _,
    .function _ _ otherCallable otherError otherResultType _ =>
      bothHold (agreement (callable.identical otherCallable) (Value.same callable otherCallable))
        (bothHold (agreement (error.identical otherError) (Value.same error otherError))
          (agreement (resultType.identical otherResultType)
            (Value.same resultType otherResultType)))
  | .leaf site cls kin .., .leaf place other .. =>
      match kin with
      | [] => .ok (site = place)
      | kind :: _ =>
          if cls = other then .error (.missingAttribute cls.name (comparedAttribute kind))
          else .ok false
  | _, _ => .ok false
termination_by structural tree => tree

end

namespace Value

/-- The same object, or an equal one; values that cannot be compared do not agree. -/
def agrees (value other : Value) : Bool :=
  value.identical other || (value.same other).toOption = some true

end Value

end GuardAlgebra
