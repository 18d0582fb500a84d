import GuardAlgebra.Exception.Construction

/-!
Guards over functions. One is named after its function, and without an error of its own it denies
with the usual one. Where functions are declared as guards, nothing stands for no error; where the
guard itself is made, nothing is an error like any other.
-/
namespace GuardAlgebra.Facts

/-- The name that a function gives to what is made from it. -/
def nameOf (facts : Facts) (function : Value) : Value :=
  (facts.read? function nameAttribute).getD (.str (facts.display function))

def givenName (facts : Facts) (function : Value) : Option Value → Value
  | none | some .none => facts.nameOf function
  | some name => name

def givenError (site : Site) : Option Value → Value
  | none => .exception (.accessDenied (site.child 0))
  | some error => error

def functionGuard (facts : Facts) (site : Site) (function : Value) (error name : Option Value) :
    Value :=
  .guard (.function site function (givenError site error) (facts.givenName function name))

def functionPost (facts : Facts) (site : Site) (pin function : Value) (error : Option Value)
    (resultType : Value) (name : Option Value) : Value :=
  .post (.function site pin function (givenError site error) resultType
    (facts.givenName function name))

/-- Without an error, where nothing stands for none. -/
def orNone : Value → Option Value
  | .none => none
  | error => some error

/-- The guard that a function is declared as. -/
def declareGuard (facts : Facts) (site : Site) (function error : Value) : Value :=
  facts.functionGuard site function (orNone error) none

def declarePost (facts : Facts) (site : Site) (function error resultType : Value) : Value :=
  facts.functionPost site .none function (orNone error) resultType none

end GuardAlgebra.Facts
