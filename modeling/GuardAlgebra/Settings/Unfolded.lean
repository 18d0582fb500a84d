import GuardAlgebra.Value

/-!
Settings as plain values. Where any value was put in the place of a setting, the records within it
are unfolded into dictionaries of their fields, also inside of lists, tuples and dictionaries. Other
objects stay as they are.
-/
namespace GuardAlgebra

/-- A record as a dictionary. -/
def Value.ofFields (site : Site) (fields : List (String × Value)) : Value :=
  .dict site (fields.map fun (name, value) => (.str name, value))

mutual

def Value.unfolded (site : Site) : Value → Value
  | .list place items => .list place (Value.unfoldedAll site items)
  | .tuple place items => .tuple place (Value.unfoldedAll site items)
  | .dict place entries => .dict place (Value.unfoldedEntries site entries)
  | .result _ allowed error =>
      .ofFields site
        [("allowed", Value.unfolded site allowed), ("error", Value.unfolded site error)]
  | .context _ received user organization extra =>
      .ofFields site
        [("request", Value.unfolded site received), ("user", Value.unfolded site user),
          ("organization_id", Value.unfolded site organization),
          ("extra_data", Value.unfolded site extra)]
  | .outcome _ field value error resolved stage =>
      .ofFields site
        [("field_name", Value.unfolded site field), ("value", Value.unfolded site value),
          ("error", Value.unfolded site error), ("resolved", Value.unfolded site resolved),
          ("stage", Value.unfolded site stage)]
  | .guard tree => Guard.unfolded site tree
  | .post tree => PostGuard.unfolded site tree
  | value => value
termination_by structural value => value

def Value.unfoldedAll (site : Site) : List Value → List Value
  | [] => []
  | item :: items => Value.unfolded site item :: Value.unfoldedAll site items
termination_by structural items => items

def Value.unfoldedEntries (site : Site) : List (Value × Value) → List (Value × Value)
  | [] => []
  | (key, value) :: entries =>
      (Value.unfolded site key, Value.unfolded site value) :: Value.unfoldedEntries site entries
termination_by structural entries => entries

def Guard.unfolded (site : Site) : Guard → Value
  | .both _ left right | .either _ left right =>
      .ofFields site [("left", Guard.unfolded site left), ("right", Guard.unfolded site right)]
  | .allowAll _ => .ofFields site []
  | .denyAll _ error => .ofFields site [("error", Value.unfolded site error)]
  | .function _ callable error name =>
      .ofFields site
        [("func", Value.unfolded site callable), ("error", Value.unfolded site error),
          ("name", Value.unfolded site name)]
  | .leaf place cls given => .guard (.leaf place cls given)
termination_by structural tree => tree

def PostGuard.unfolded (site : Site) : PostGuard → Value
  | .both _ _ left right resultType =>
      .ofFields site
        [("left", PostGuard.unfolded site left), ("right", PostGuard.unfolded site right),
          ("result_type", Value.unfolded site resultType)]
  | .function _ _ callable error resultType name =>
      .ofFields site
        [("func", Value.unfolded site callable), ("error", Value.unfolded site error),
          ("result_type", Value.unfolded site resultType), ("name", Value.unfolded site name)]
  | .leaf place cls kin pin given => .post (.leaf place cls kin pin given)
termination_by structural tree => tree

end

end GuardAlgebra
