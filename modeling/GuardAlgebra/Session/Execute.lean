import GuardAlgebra.Class.Membership
import GuardAlgebra.Response.Handlers
import GuardAlgebra.Schedule
import GuardAlgebra.Session.Union
import GuardAlgebra.Settings.Build
import GuardAlgebra.Settings.Level
import GuardAlgebra.Settings.Unfolded

/-!
Steps of a session. A step runs its operation to the end; if it succeeds the session goes on as the
operation left it, and if it fails only the variable that keeps the exception changes.
-/
namespace GuardAlgebra

/-- What an operation gives. -/
inductive Product where
  | value (value : Value)
  | response (response : Response)
  /-- How each of several checks ended, and what it did. -/
  | gathered (checks : List (Attempt Value × List Event))

/-- What became of a step: what it gave or failed with, and what it did. -/
structure Report where
  outcome : Attempt Product
  invoked : List String
  records : List Record

namespace Value

/-- Names of things as a list. -/
def ofNames (site : Site) (names : List String) : Value :=
  .list site (names.map fun name : String => .str name)

end Value

namespace Session

/-- The names that a module offers, in order. -/
def exports : String → Option (List String)
  | "fieldguard" =>
      some ["AllowAll", "And", "AuthorizationError", "DenyAll", "FieldGuardException",
        "FieldOutcome", "FieldResolver", "FunctionGuard", "FunctionPostGuard", "Guard",
        "GuardCompositionError", "GuardContext", "GuardDeniedError", "GuardResult", "Or",
        "PostAnd", "PostGuard", "all_of", "all_post", "any_of", "guard", "guarded", "post_guard"]
  | "fieldguard.utils" =>
      some ["AuthorizationError", "FieldGuardException", "GuardCompositionError",
        "GuardDeniedError"]
  | _ => none

/-- A session of an application that brings these classes along. -/
def opening (classes : List (ClassId × List TypeExpr × Checking)) : Session where
  scene := ⟨⟨Hierarchy.initial.declareAll classes, .empty⟩, Settings.standard.configuration⟩
  level := 20
  bindings := []
  classes := (classes.map fun declared => (declared.1.name, declared.1)).reverse
  subscripts := .empty
  turn := 0

/-- A session of the library alone. -/
def initial : Session := opening []

def withFacts (session : Session) (facts : Facts) : Session :=
  { session with scene := ⟨facts, session.scene.configuration⟩ }

def withConfiguration (session : Session) (configuration : Configuration) : Session :=
  { session with scene := ⟨session.scene.facts, configuration⟩ }

/-- The settings as a dictionary. -/
def settingsValue (site : Site) (configuration : Configuration) : Value :=
  .ofFields site (configuration.entries.map fun (name, value) => (name, value.unfolded site))

/-- Declares a class of post guards. -/
def declareClass (session : Session) (site : Site) (name : String) (bases : List TypeExpr)
    (attributes : List (String × Value)) (isAbstract : Bool) : Attempt (Value × Session) :=
  let id := ClassId.declared site name
  let checking := if isAbstract then Checking.inherited else .given
  match session.hierarchy.newClass? id bases checking attributes with
  | none => .error (.fault site (.badClass name))
  | some entry =>
      let session := session.withFacts ⟨session.hierarchy.add entry, session.facts.store⟩
      .ok (.type (.named id), { session with classes := (name, id) :: session.classes })

/-- Where a text, bytes or an integer were written out. The shortest texts and bytes and the smallest
integers exist once, and have no origin. -/
def originOf (session : Session) (site : Site) : Expr → Option Site
  | .str text =>
      match text.toList with
      | [] => none
      | [char] => if char.toNat < 256 then none else some site
      | _ => some site
  | .bytes octets => if octets.length < 2 then none else some site
  | .int number => if -5 ≤ number ∧ number ≤ 256 then none else some site
  | .reference name => (session.binding? name).bind Variable.origin
  | _ => none

/-- Whether two expressions give the very same object, by where they were written out, if they were,
or else by what they are. What this step writes out is no object that was there before. -/
def areIdentical (session : Session) (site : Site) (left right : Expr)
    (first second : Value) : Bool :=
  let origin (place : Nat) (expr : Expr) := session.originOf (site.child place) expr
  let isNew (place : Nat) (expr : Expr) := origin place expr = some (site.child place)
  if isNew 0 left || isNew 1 right then false
  else
    match origin 0 left, origin 1 right with
    | some one, some other => one = other
    | _, _ => first.identical second

def evalPair (session : Session) (site : Site) (left right : Expr) :
    Evaluation (Value × Value) := do
  let first ← session.eval left (site.child 0)
  let second ← session.eval right (site.child 1)
  pure (first, second)

def ask (session : Session) (site : Site) : Question → Evaluation Value
  | .give value => session.eval value (site.child 0)
  | .make cls arguments => do
      let type ← session.type cls (site.child 2)
      let arguments ← session.evalArguments arguments (site.child 0)
      session.facts.instantiate (site.child 1) type arguments
  | .read object name => do
      let object ← session.eval object (site.child 0)
      attempt site (session.facts.read object name)
  | .equal left right => do
      let (left, right) ← session.evalPair site left right
      let same ← attempt site (left.same right)
      pure (.bool same)
  | .identical left right => do
      let (first, second) ← session.evalPair site left right
      pure (.bool (session.areIdentical site left right first second))
  | .display object => do
      let object ← session.eval object (site.child 0)
      let shown ← attempt site (session.facts.depict object)
      pure (.str shown)
  | .text object => do
      let object ← session.eval object (site.child 0)
      let text ← attempt site (session.facts.say object)
      pure (.str text)
  | .truth object => do
      let object ← session.eval object (site.child 0)
      let truth ← attempt site object.truth
      pure (.bool truth)
  | .distinct members => do
      let members ← session.evalAll members (site.child 0) 0
      let members ← attempt site (Value.distinct members)
      pure (.int members.length)
  | .isInstance object cls => do
      let object ← session.eval object (site.child 0)
      let type ← session.type cls (site.child 1)
      let answer ← attempt site (session.hierarchy.isInstance object type)
      pure (.bool answer)
  | .isSubclass cls ancestor => do
      let cls ← session.type cls (site.child 0)
      let ancestor ← session.type ancestor (site.child 1)
      let answer ← attempt site (session.hierarchy.isSubclass cls ancestor)
      pure (.bool answer)
  | .registered =>
      pure (.list site (Handlers.registered.map fun (cls, handler) => .ofNames site [cls, handler]))
  | .buildSettings arguments environment file => do
      let arguments ← session.evalNamed arguments (site.child 0) 0
      match ← attempt site (Settings.gather arguments environment (file.getD "")) with
      | .ok settings => pure (settingsValue site settings.configuration)
      | .error problems => throw (.invalid site problems)
  | .settings => pure (settingsValue site session.scene.configuration)
  | .exported module =>
      match exports module with
      | some names => pure (.ofNames site names)
      | none => throw (.fault site (.unbound module))

/-- The check of a guard for a context, and for a value if there is one. -/
def checkArguments (context : Value) (value : Option Value) : List Value :=
  context :: value.toList

/-- Evaluates what an action is about, and gives what is to be done then. -/
def act (session : Session) (site : Site) : Action → Evaluation (Run Product)
  | .declare declaration arguments => do
      let arguments ← session.evalArguments arguments (site.child 0)
      pure (Product.value <$> around.declare (site.child 1) declaration arguments)
  | .apply function arguments => do
      let function ← session.eval function (site.child 0)
      let arguments ← session.evalArguments arguments (site.child 1)
      pure do
        let answer ← around.call function arguments (site.child 2)
        pure (.value (answer.unawaited (site.child 3)))
  | .method object name arguments => do
      let object ← session.eval object (site.child 0)
      let arguments ← session.evalArguments arguments (site.child 1)
      pure do
        let answer ← around.ask object name arguments (site.child 2)
        pure (.value (answer.unawaited (site.child 3)))
  | .operate operator left right => do
      let (left, right) ← session.evalPair site left right
      if isUnion operator left right then
        let type ← unite session.scene.facts (site.child 2) left right
        pure (.done (.value type))
      else pure (Product.value <$> around.operate operator left right (site.child 2))
  | .check guard context value => do
      let guard ← session.eval guard (site.child 0)
      let context ← session.eval context (site.child 1)
      let value ← session.evalOptional value (site.child 2)
      pure (Product.value <$> guard.check around (checkArguments context value) (site.child 3))
  | .gather guard contexts value => do
      let guard ← session.eval guard (site.child 0)
      let contexts ← session.evalAll contexts (site.child 1) 0
      let value ← session.evalOptional value (site.child 2)
      let checks := contexts.zipIdx.map fun (context, place) =>
        guard.check around (checkArguments context value) ((site.child 3).child place)
      pure (.done (.gathered (Task.gather checks)))
  | .resolve resolver context function arguments => do
      let resolver ← session.eval resolver (site.child 0)
      let context ← session.eval context (site.child 1)
      let function ← session.eval function (site.child 2)
      let arguments ← session.evalArguments arguments (site.child 3)
      let handed : Arguments := ⟨context :: function :: arguments.positional, arguments.named⟩
      pure do
        let answer ← around.ask resolver Method.resolve.name handed (site.child 4)
        let outcome ← answer.await (site.child 5)
        pure (.value outcome)
  | .invoke function arguments => do
      let function ← session.eval function (site.child 0)
      let arguments ← session.evalArguments arguments (site.child 1)
      pure do
        let answer ← around.call function arguments (site.child 2)
        let value ← answer.await (site.child 3)
        pure (.value value)
  | .handle handler cause request => do
      let (cause, request) ← session.evalPair site cause request
      pure do
        let response ← match handler with
          | .failure =>
              Handlers.handleFailure session.facts session.scene.configuration request cause site
          | .status => .ofExcept site (Handlers.handleStatus session.facts cause)
        pure (.response response)
where
  around := session.scene.surroundings

/-- Evaluates what a change is about, and gives the change: its value, and the session after it. -/
def change (session : Session) (site : Site) : Change → Evaluation (Run (Value × Session))
  | .declareClass name bases attributes isAbstract => do
      let bases ← session.types bases (site.child 0) 0
      let attributes ← session.evalNamed attributes (site.child 1) 0
      pure (.ofAttempt (session.declareClass site name bases attributes isAbstract))
  | .write object name value => do
      let (object, value) ← session.evalPair site object value
      pure do
        let facts ← .ofExcept site (session.facts.write object (site.child 2) name value)
        pure (.none, session.withFacts facts)
  | .erase object name => do
      let object ← session.eval object (site.child 0)
      pure do
        let facts ← .ofExcept site (session.facts.erase object name)
        pure (.none, session.withFacts facts)
  | .setSetting name value => do
      let value ← session.eval value (site.child 0)
      pure do
        let configuration ← .ofExcept site (session.scene.configuration.set name value)
        pure (.none, session.withConfiguration configuration)
  | .configureLogging arguments => do
      let arguments ← session.evalArguments arguments (site.child 0)
      pure (match arguments.bind? [.optional "level"] with
        | some [given] => do
            let level ← Level.choose session.scene.surroundings session.scene.configuration
              (given.getD .none) (site.child 1)
            pure (.int level, { session with level := level })
        | _ => .fail site (.badArguments "configure_logging"))

/-- Evaluates what an operation is about, and gives what is to be done: its product, and the session
after it. -/
def execute (session : Session) (site : Site) : Operation → Evaluation (Run (Product × Session))
  | .ask question => do
      let value ← session.ask site question
      pure (.done (.value value, session))
  | .act action => do
      let run ← session.act site action
      pure ((·, session) <$> run)
  | .change change => do
      let run ← session.change site change
      pure ((fun (value, next) => (.value value, next)) <$> run)

/-- Keeps a value in a variable, if there is one for it. -/
def keep (session : Session) (name : Option String) (value : Value) (origin : Option Site) :
    Session :=
  match name with
  | none => session
  | some name => { session with bindings := ⟨name, value, origin⟩ :: session.bindings }

/-- The records that the log admits. -/
def admitted (session : Session) (records : List Record) : List Record :=
  if Level.admitsWarnings session.level then records else []

/-- Where the value of an operation was written out. -/
def originOfProduct (session : Session) (site : Site) : Operation → Option Site
  | .ask (.give value) => session.originOf (site.child 0) value
  | _ => none

/-- Makes a step. -/
def step (session : Session) (step : Step) : Report × Session :=
  let site := Site.root.child session.turn
  let (evaluated, subscripts) := (session.execute site step.operation).run.run session.subscripts
  let run : Run (Product × Session) := match evaluated with
    | .ok run => run
    | .error cause => .raised cause
  let next := match run.result with
    | .ok (.value value, next) =>
        next.keep step.target value (session.originOfProduct site step.operation)
    | .ok (_, next) => next
    | .error cause => session.keep step.caught (.exception cause) none
  (⟨run.result.map Prod.fst, run.invocations.map Prod.fst, session.admitted run.records⟩,
    { next with turn := session.turn + 1, subscripts := subscripts })

/-- Makes all steps of a script: what became of each, and the session after it. -/
def perform (session : Session) : List Step → List (Report × Session)
  | [] => []
  | step :: steps =>
      let (report, next) := session.step step
      (report, next) :: next.perform steps

end Session

end GuardAlgebra
