import GuardAlgebra.Value.Equality

/-!
Sets of values. A value can be put into a set unless it is, or compares by, a list or a dictionary,
or compares by contents that it lacks.
-/
namespace GuardAlgebra

mutual

/-- Why a value cannot be put into a set. -/
def Value.unhashable? : Value → Option Fault
  | .list .. => some (.unhashable "list")
  | .dict .. => some (.unhashable "dict")
  | .tuple _ items => Value.unhashableItem? items
  | .result _ allowed error => (Value.unhashable? allowed).or (Value.unhashable? error)
  | .context _ received user organization extra =>
      ((Value.unhashable? received).or (Value.unhashable? user)).or
        ((Value.unhashable? organization).or (Value.unhashable? extra))
  | .outcome _ field value error resolved stage =>
      ((Value.unhashable? field).or (Value.unhashable? value)).or
        (((Value.unhashable? error).or (Value.unhashable? resolved)).or (Value.unhashable? stage))
  | .guard tree => Guard.unhashable? tree
  | .post tree => PostGuard.unhashable? tree
  | .bound function _ => Value.unhashable? function
  | _ => none
termination_by structural value => value

def Value.unhashableItem? : List Value → Option Fault
  | [] => none
  | item :: items => (Value.unhashable? item).or (Value.unhashableItem? items)
termination_by structural items => items

def Guard.unhashable? : Guard → Option Fault
  | .both _ left right | .either _ left right =>
      (Guard.unhashable? left).or (Guard.unhashable? right)
  | .denyAll _ error => Value.unhashable? error
  | .function _ callable error _ => (Value.unhashable? callable).or (Value.unhashable? error)
  | .allowAll _ | .leaf .. => none
termination_by structural tree => tree

def PostGuard.unhashable? : PostGuard → Option Fault
  | .both _ _ left right _ => (PostGuard.unhashable? left).or (PostGuard.unhashable? right)
  | .function _ _ callable error resultType _ =>
      ((Value.unhashable? callable).or (Value.unhashable? error)).or (Value.unhashable? resultType)
  | .leaf _ cls kin .. => kin.head?.map fun kind =>
      .missingAttribute cls.name (comparedAttribute kind)
termination_by structural tree => tree

end

namespace Value

/-- The values without those that agree with an earlier one. -/
def dedup (values : List Value) : List Value :=
  values.foldl (fun kept value => if kept.any (value.agrees ·) then kept else kept ++ [value]) []

/-- The members of the set of these values. -/
def distinct (values : List Value) : Except Fault (List Value) :=
  match unhashableItem? values with
  | some fault => .error fault
  | Option.none => .ok (dedup values)

end Value

end GuardAlgebra
