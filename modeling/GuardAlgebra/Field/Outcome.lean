import GuardAlgebra.Guard.Check

/-!
The outcome of resolving a field: a value that was released, or the error of the stage that denied
it. The stage alone tells the two apart, since value and error may both be nothing.
-/
namespace GuardAlgebra

namespace Value

def released (site : Site) (field value : Value) : Value :=
  .outcome site field value .none (.bool true) .none

def deniedBefore (site : Site) (field error : Value) : Value :=
  .outcome site field .none error (.bool false) (.str "guard")

def deniedAfter (site : Site) (field error : Value) : Value :=
  .outcome site field .none error (.bool true) (.str "post_guard")

/-- What a denial is raised as: its error, wrapped unless that is an exception. -/
def denial (facts : Facts) (site : Site) : Value → Exception
  | .exception raised => raised
  | error => .denied facts site error

/-- Nothing for a result that allows; a denial is raised. -/
def raiseDenial (facts : Facts) (site : Site) (result : Value) : Attempt Value := do
  if ← result.allows facts site then pure .none
  else
    let error ← attempt site (result.denialError facts)
    throw (error.denial facts site)

/-- The value of an outcome that has one; a denial is raised. -/
def unwrap (facts : Facts) (site : Site) (outcome : Value) : Attempt Value := do
  match ← attempt site (facts.read outcome "stage") with
  | .none => attempt site (facts.read outcome "value")
  | _ =>
      let error ← attempt site (facts.read outcome "error")
      throw (error.denial facts site)

end Value

end GuardAlgebra
