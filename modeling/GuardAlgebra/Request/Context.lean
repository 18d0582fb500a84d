import GuardAlgebra.Call.Answer
import GuardAlgebra.Request.Query
import GuardAlgebra.Text.Integer
import GuardAlgebra.Text.Quoted

/-!
The usual context of a request: its user, the organization that the path names or else the query,
and all path parameters as extra data. An organization that is no integer counts as none.
-/
namespace GuardAlgebra

namespace Request

def organizationName : String := "organization_id"

end Request

namespace Value

/-- The integer that a value is or denotes; none when it denotes no integer. An infinite number is
an error of its own. -/
def integer? : Value → Except Fault (Option Int)
  | .int number => .ok (some number)
  | .bool truth => .ok (some truth.toNat)
  | .str text => .ok (Text.integer? text.plain)
  | .bytes octets => .ok (Text.integerOfBytes? octets)
  | .float _ number =>
      match Decimal.Real.ofFloat number with
      | .infinite .. => .error .infiniteInteger
      | number => .ok number.truncate
  | _ => .ok Option.none

end Value

namespace Request

/-- The organization of a request, as it is written. -/
def organization (request : Request) : Value :=
  match Value.valueAt? request.parameters (.str organizationName) with
  | some .none | none =>
      match Query.find? request.query organizationName with
      | some text => .str text
      | none => .none
  | some value => value

def context (request : Request) (site : Site) : Attempt Value := do
  let number ← attempt site request.organization.integer?
  pure (.context site (.request request) (request.user.getD .none)
    ((number.map Value.int).getD .none) (.dict (site.child 0) request.parameters))

end Request

/-- The user that the state of a request names, if it names one. -/
def Facts.userOf (facts : Facts) (state : Value) : Except Fault Value :=
  match facts.read state "user" with
  | .error (.missingAttribute ..) => .ok .none
  | found => found

/-- The usual context of a value: of a request, or of an object that has what a request has. -/
def Surroundings.requestContext (around : Surroundings) (site : Site) : Value → Run Value
  | .request received => .ofAttempt (received.context site)
  | object => do
      let name := Value.str Request.organizationName
      let state ← .ofExcept site (around.facts.read object "state")
      let user ← .ofExcept site (around.facts.userOf state)
      let parameters ← .ofExcept site (around.facts.read object "path_params")
      let organization ← match ← around.demand parameters "get" [name] (site.child 1) with
        | .none => do
            let query ← .ofExcept site (around.facts.read object "query_params")
            around.demand query "get" [name] (site.child 2)
        | found => pure found
      let number ← .ofExcept site organization.integer?
      let extra ← .ofExcept site parameters.asEntries
      pure (.context site object user ((number.map Value.int).getD .none)
        (.dict (site.child 0) extra))

/-- What records tell of an object that is taken for a request. Each part is read where it is told of,
and reading it can fail. -/
structure RequestLine where
  method : Except Fault Value
  url : Except Fault Value
  path : Except Fault Value

/-- What records tell of any object that is taken for a request. -/
def Facts.requestLine (facts : Facts) : Value → RequestLine
  | .request received =>
      ⟨.ok (.str received.method), .ok (.str received.url), received.urlPath.map Value.str⟩
  | object =>
      let url := facts.read object "url"
      ⟨facts.read object "method", url, url >>= fun url => facts.read url "path"⟩

end GuardAlgebra
