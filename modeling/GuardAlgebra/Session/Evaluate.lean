import GuardAlgebra.Call.Routine
import GuardAlgebra.Class.Subscript
import GuardAlgebra.Session.Script

/-!
Evaluation of expressions. Every part of an expression has a site of its own, so objects made at
different places are different objects. Types that were made by subscripting are remembered, also
when the rest of an evaluation fails.
-/
namespace GuardAlgebra

/-- What a variable keeps. Texts, bytes and integers have no identity in themselves; the origin of
one that a step wrote out is the place where it did. -/
structure Variable where
  name : String
  value : Value
  origin : Option Site

/-- What a session remembers between steps. -/
structure Session where
  scene : Scene
  /-- The level of the log. -/
  level : Int
  /-- The latest first. -/
  bindings : List Variable
  /-- Declared classes by name, the latest first. -/
  classes : List (String × ClassId)
  /-- Types made by subscripting. -/
  subscripts : Subscripts
  /-- How many steps were made. -/
  turn : Nat

/-- An operation that can fail and remembers the types it makes, even if it fails. -/
abbrev Evaluation : Type → Type := ExceptT Exception (StateM Subscripts)

namespace Session

def facts (session : Session) : Facts := session.scene.facts

def hierarchy (session : Session) : Hierarchy := session.facts.hierarchy

/-- The class that a name stands for. -/
def class? (session : Session) (name : String) : Option ClassId :=
  ((session.classes.find? fun entry => entry.1 = name).map Prod.snd).or
    ((session.hierarchy.find? (.known name)).map ClassEntry.id)

def isVariableName (name : String) : Bool := ["T", "K", "V", "R"].contains name

def nameType (session : Session) (name : String) : Except Fault TypeExpr :=
  if name = "Any" then .ok .any
  else if isVariableName name then .ok (.variable name)
  else
    match session.class? name with
    | some cls => .ok (.named cls)
    | none => .error (.unbound name)

def variableName? : TypeExpr → Option String
  | .variable name => some name
  | _ => none

def subscript (site : Site) (head : Head) (arguments : List TypeExpr) : Evaluation TypeExpr :=
  modifyGet fun subscripts => subscripts.subscript site head arguments

/-- A type with type arguments. Containers take any, unions at least one, `Generic` different type
variables, and a class as many as it has type variables, which must be some. -/
def applyType (session : Session) (head : String) (arguments : List TypeExpr) (site : Site) :
    Evaluation TypeExpr :=
  let refuse : Evaluation TypeExpr := throw (.fault site (.badTypeArguments head))
  let typing (head : Head) (arguments : List TypeExpr) : Evaluation TypeExpr :=
    if arguments.all TypeExpr.isArgument then subscript site head arguments else refuse
  match head, arguments with
  | "list", arguments => pure (.container site (.known "list") arguments)
  | "dict", arguments => pure (.container site (.known "dict") arguments)
  | "List", [argument] => typing .list [argument]
  | "List", _ => refuse
  | "Optional", [argument] => typing .union [argument, .noneType]
  | "Optional", _ => refuse
  | "Union", [] => refuse
  | "Union", arguments => typing .union arguments
  | "Generic", arguments =>
      let names := arguments.filterMap variableName?
      if names.length = arguments.length ∧ names.Nodup ∧ names ≠ [] then
        subscript site (.cls Hierarchy.genericClass) arguments
      else refuse
  | head, arguments => do
      match ← attempt site (session.nameType head) with
      | .named cls =>
          let parameters := session.hierarchy.parameters cls
          if parameters ≠ [] ∧ parameters.length = arguments.length then
            subscript site (.cls cls) arguments
          else refuse
      | _ => refuse

mutual

def type (session : Session) : TypeText → Site → Evaluation TypeExpr
  | .name text, site => attempt site (session.nameType text)
  | .applied head arguments, site => do
      let arguments ← types session arguments site 0
      session.applyType head arguments site
termination_by structural text => text

def types (session : Session) : List TypeText → Site → Nat → Evaluation (List TypeExpr)
  | [], _, _ => pure []
  | text :: texts, site, place => do
      let first ← type session text (site.child place)
      let rest ← types session texts site (place + 1)
      pure (first :: rest)
termination_by structural texts => texts

end

def binding? (session : Session) (name : String) : Option Variable :=
  session.bindings.find? fun entry => entry.name = name

def lookup (session : Session) (site : Site) (name : String) : Attempt Value :=
  match session.binding? name with
  | some entry => .ok entry.value
  | none => .error (.fault site (.unbound name))

def guardClass : ClassId := .known "Guard"

/-- An application guard of a class that says how to check. -/
def newGuard (session : Session) (site : Site) (type : TypeExpr) (leaf : Leaf) : Attempt Value :=
  match type with
  | .named cls =>
      if session.hierarchy.checking cls = .required then
        .error (.fault site (.notInstantiable cls.name))
      else if cls.isApplication && session.hierarchy.descends cls guardClass then
        .ok (.guard (.leaf site cls leaf))
      else .error (.fault site (.badArguments cls.name))
  | type => .error (.fault site (.notCallable type.kind))

/-- An application post guard of a class that says how to check. -/
def newPost (session : Session) (site : Site) (type : TypeExpr) (leaf : Leaf) : Attempt Value :=
  let make (cls : ClassId) (pin : Value) : Attempt Value :=
    if session.hierarchy.checking cls = .required then
      .error (.fault site (.notInstantiable cls.name))
    else if cls.isApplication && !session.hierarchy.descends cls guardClass then
      .ok (.post (.leaf site cls (session.hierarchy.kin cls) pin leaf))
    else .error (.fault site (.badArguments cls.name))
  match type with
  | .named cls => make cls .none
  | .applied _ cls _ => make cls (.type type)
  | type => .error (.fault site (.notCallable type.kind))

mutual

def eval (session : Session) : Expr → Site → Evaluation Value
  | .none, _ => pure .none
  | .bool truth, _ => pure (.bool truth)
  | .int number, _ => pure (.int number)
  | .float text, site => pure (.float site (Decimal.read text))
  | .str text, _ => pure (.str text)
  | .bytes octets, _ => pure (.bytes octets)
  | .list items, site => do
      let items ← evalAll session items site 0
      pure (.list site items)
  | .tuple items, site => do
      let items ← evalAll session items site 0
      pure (.tuple site items)
  | .dict entries, site => do
      let entries ← evalEntries session entries site 0
      let entries ← attempt site (Value.collect entries)
      pure (.dict site entries)
  | .reference name, site => session.lookup site name
  | .type text, site => do
      let type ← session.type text site
      pure (.type type)
  | .instance text positional named, site => do
      let type ← session.type text (site.child 3)
      let positional ← evalAll session positional (site.child 0) 0
      let named ← evalNamed session named (site.child 1) 0
      session.facts.instantiate (site.child 2) type ⟨positional, named⟩
  | .leaf text leaf, site => do
      let leaf ← evalLeaf session leaf (site.child 0)
      let type ← session.type text (site.child 1)
      session.newGuard site type leaf
  | .post text leaf, site => do
      let leaf ← evalLeaf session leaf (site.child 0)
      let type ← session.type text (site.child 1)
      session.newPost site type leaf
  | .callable function, site => do
      let function ← evalCallable session function site
      pure (.callable function)
  | .request received, site => do
      let received ← evalRequest session received site
      pure (.request received)
termination_by structural expr => expr

/-- Evaluates expressions in order, each at the site of its place. -/
def evalAll (session : Session) : List Expr → Site → Nat → Evaluation (List Value)
  | [], _, _ => pure []
  | expr :: exprs, site, place => do
      let first ← eval session expr (site.child place)
      let rest ← evalAll session exprs site (place + 1)
      pure (first :: rest)
termination_by structural exprs => exprs

def evalNamed (session : Session) : List (String × Expr) → Site → Nat →
    Evaluation (List (String × Value))
  | [], _, _ => pure []
  | (name, expr) :: exprs, site, place => do
      let first ← eval session expr (site.child place)
      let rest ← evalNamed session exprs site (place + 1)
      pure ((name, first) :: rest)
termination_by structural exprs => exprs

def evalEntries (session : Session) : List (Expr × Expr) → Site → Nat →
    Evaluation (List (Value × Value))
  | [], _, _ => pure []
  | (key, value) :: entries, site, place => do
      let key ← eval session key (site.child (2 * place))
      let value ← eval session value (site.child (2 * place + 1))
      let rest ← evalEntries session entries site (place + 1)
      pure ((key, value) :: rest)
termination_by structural entries => entries

def evalLeaf (session : Session) : LeafExpr → Site → Evaluation Leaf
  | .mk name pauses reply, site => do
      let reply ← evalReply session reply site
      pure ⟨name, pauses, reply⟩
termination_by structural leaf => leaf

/-- A reply is made once, with its result. -/
def evalReply (session : Session) : ReplyExpr → Site → Evaluation Reply
  | .allow, site => pure (.gives (.result site (.bool true) .none))
  | .deny error, site => do
      let error ← eval session error (site.child 0)
      pure (.gives (.result site (.bool false) error))
  | .gives value, site => do
      let value ← eval session value (site.child 0)
      pure (.gives value)
  | .raises value, site => do
      let value ← eval session value (site.child 0)
      pure (.raises value)
termination_by structural reply => reply

def evalCallable (session : Session) : CallableExpr → Site → Evaluation Callable
  | .mk name label mode pauses body, site => do
      let body ← evalBody session body (site.child 0)
      pure ⟨site, name, label, mode, pauses, body⟩
termination_by structural function => function

def evalBody (session : Session) : BodyExpr → Site → Evaluation Body
  | .gives value, site => do
      let value ← eval session value (site.child 0)
      pure (.reply (.gives value))
  | .raises value, site => do
      let value ← eval session value (site.child 0)
      pure (.reply (.raises value))
  | .argument index, _ => pure (.argument index)
  | .echo, _ => pure .echo
  | .test test, site => do
      let test ← evalTest session test site
      pure (.test test)
termination_by structural body => body

def evalTest (session : Session) : TestExpr → Site → Evaluation Test
  | .authenticated, _ => pure .authenticated
  | .organization expected, site => do
      let expected ← eval session expected (site.child 0)
      pure (.organization expected)
  | .user key expected, site => do
      let key ← eval session key (site.child 0)
      let expected ← eval session expected (site.child 1)
      pure (.user key expected)
  | .extra key expected, site => do
      let key ← eval session key (site.child 0)
      let expected ← eval session expected (site.child 1)
      pure (.extra key expected)
  | .contextIs expected, site => do
      let expected ← eval session expected (site.child 0)
      pure (.contextIs expected)
  | .above bound, _ => pure (.above bound)
  | .shorter bound, _ => pure (.shorter bound)
  | .truthy, _ => pure .truthy
  | .owner, _ => pure .owner
termination_by structural test => test

def evalRequest (session : Session) : RequestExpr → Site → Evaluation Request
  | .mk method path query url urlPath parameters user, site => do
      let parameters ← evalEntries session parameters (site.child 0) 0
      let parameters ← attempt site (Value.collect parameters)
      let user ← evalOptional session user (site.child 1)
      pure ⟨site, method, path, query, url, urlPath, parameters, user⟩
termination_by structural received => received

def evalOptional (session : Session) : Option Expr → Site → Evaluation (Option Value)
  | none, _ => pure none
  | some expr, site => do
      let value ← eval session expr site
      pure (some value)
termination_by structural expr => expr

end

/-- Evaluates arguments, those by position first. -/
def evalArguments (session : Session) (arguments : ArgumentsExpr) (site : Site) :
    Evaluation Arguments := do
  let positional ← session.evalAll arguments.positional (site.child 0) 0
  let named ← session.evalNamed arguments.named (site.child 1) 0
  pure ⟨positional, named⟩

end Session

end GuardAlgebra
