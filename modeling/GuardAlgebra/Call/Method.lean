import GuardAlgebra.Field.Resolver

/-!
Calling methods. A method takes its object as the first argument, which can be any object that has
the attributes that the method reads. Checks and the resolving of fields are answered later, all
other methods at once.
-/
namespace GuardAlgebra

namespace Method

/-- What a method takes, its object among it. -/
def parameters : Method → List Parameter
  | .meetResults | .joinResults | .meetGuards | .joinGuards | .meetPosts =>
      [.mandatory "self", .mandatory "other"]
  | .raiseForDenial | .unwrap => [.mandatory "self"]
  | .allow => []
  | .deny => [.optional "error"]
  | .check _ => [.mandatory "self", .mandatory "context"]
  | .contextGet | .mappingGet _ =>
      [.mandatory "self", .mandatory "key", .optional "default"]
  | .resolve => [.mandatory "self", .mandatory "context", .mandatory "resolver"]
  | .logDenial => [.mandatory "self", .mandatory "stage", .mandatory "error"]

end Method

namespace Value

/-- A result that allows. -/
def allowing (site : Site) : Value := .result site (.bool true) .none

/-- A result that denies with an error, or else with the usual one. -/
def denying (site : Site) (error : Option Value) : Value :=
  .result site (.bool false) (error.getD (.exception (.accessDenied (site.child 0))))

/-- What a mapping has for a key, or a default. Dictionaries alone have the method of dictionaries. -/
def entryOr (cls : ClassId) (object key default : Value) : Except Fault Value :=
  if cls = .known "dict" ∧ object.cls ≠ cls then .error (.badArguments "get")
  else (object.find? key).map (·.getD default)

end Value

namespace Surroundings

/-- The check that a class brings along, of any object that has what that check reads. -/
def checkAs (around : Surroundings) (cls : ClassId) (object : Value) (subjects : List Value)
    (site : Site) : Run Value :=
  let read (name : String) : Run Value := .ofExcept site (around.facts.read object name)
  let junction (combine : Value → Value → Site → Run Value) : Run Value := do
    let left ← read "left"
    let first ← left.check around subjects (site.child 0)
    let right ← read "right"
    let second ← right.check around subjects (site.child 1)
    combine first second (site.child 2)
  match cls with
  | .known "AllowAll" => .done (.allowing site)
  | .known "DenyAll" => do return .denying site (← read "error")
  | .known "And" => junction around.meet
  | .known "Or" => junction around.join
  | .known "PostAnd" => do
      let left ← read "left"
      let first ← left.check around subjects (site.child 0)
      if ← .ofAttempt (first.allows around.facts (site.child 2)) then
        let right ← read "right"
        right.check around subjects (site.child 1)
      else pure first
  | .known "FunctionGuard" | .known "FunctionPostGuard" => do
      let function ← read "func"
      let answer ← around.call function ⟨subjects, []⟩ (site.child 0)
      let reply ← answer.settle
      let error ← read "error"
      .ofAttempt (reply.verdict site error)
  | cls =>
      if cls.isApplication then
        match object with
        | .guard (.leaf _ _ leaf) | .post (.leaf _ _ _ _ leaf) =>
            leaf.check around.facts subjects site
        | other => .fail site (.missingAttribute other.typeName "name")
      else .done .none

def misused (method : Method) (site : Site) : Run Answer := .fail site (.badArguments method.name)

def atOnce (attempt : Attempt Value) : Run Answer := do
  let value ← .ofAttempt attempt
  pure (.now value)

/-- Calls a check; that of a post guard takes a value too. -/
def callCheck (around : Surroundings) (cls : ClassId) (arguments : Arguments) (site : Site) :
    Run Answer :=
  let method := Method.check cls
  let parameters :=
    if around.facts.hierarchy.descends cls postGuardClass then
      method.parameters ++ [.mandatory "result"]
    else method.parameters
  match arguments.bind? parameters with
  | some (some object :: subjects) =>
      pure (.later (around.checkAs cls object (subjects.filterMap id) site))
  | _ => misused method site

/-- Calls the resolving of a field, which hands on all arguments behind its own. -/
def callResolve (around : Surroundings) (logDenials : Value) (arguments : Arguments) (site : Site) :
    Run Answer :=
  let parameters := Method.resolve.parameters
  let count := parameters.length
  match Arguments.bindOpen? parameters (arguments.positional.take count) arguments.named with
  | some ([some object, some context, some function], named) =>
      pure (.later (around.resolve logDenials (around.facts.resolver object) context function
        ⟨arguments.positional.drop count, named⟩ site))
  | _ => misused .resolve site

/-- Looks a key up in a context, which leaves that to its extra data, or in a mapping. -/
def callGet (around : Surroundings) (method : Method) (arguments : Arguments) (site : Site) :
    Run Answer :=
  match method, arguments.bind? method.parameters with
  | .contextGet, some [some object, some key, default] => do
      let extra ← .ofExcept site (around.facts.read object "extra_data")
      around.ask extra "get" ⟨[key, default.getD .none], []⟩ site
  | .mappingGet cls, some [some object, some key, default] =>
      if cls = .known "dict" && !arguments.named.isEmpty then misused method site
      else atOnce (attempt site (object.entryOr cls key (default.getD .none)))
  | method, _ => misused method site

/-- Calls a method. -/
def callMethod (around : Surroundings) (logDenials : Value) (method : Method)
    (arguments : Arguments) (site : Site) : Run Answer :=
  let facts := around.facts
  match method, arguments.bind? method.parameters with
  | .check cls, _ => around.callCheck cls arguments site
  | .resolve, _ => around.callResolve logDenials arguments site
  | .contextGet, _ | .mappingGet _, _ => around.callGet method arguments site
  | .meetResults, some [some object, some other] => atOnce (object.meet facts site other)
  | .joinResults, some [some object, some other] => atOnce (object.join facts site other)
  | .meetGuards, some [some object, some other] =>
      atOnce ((Guard.conjoin site object other).map Value.guard)
  | .joinGuards, some [some object, some other] =>
      atOnce ((Guard.disjoin site object other).map Value.guard)
  | .meetPosts, some [some object, some other] =>
      atOnce ((PostGuard.conjoin facts site .none object other).map Value.post)
  | .raiseForDenial, some [some object] => atOnce (object.raiseDenial facts site)
  | .unwrap, some [some object] => atOnce (object.unwrap facts site)
  | .allow, some _ => pure (.now (.allowing site))
  | .deny, some [error] => pure (.now (.denying site error))
  | .logDenial, some [some object, some stage, some error] => do
      around.noteDenial logDenials (facts.resolver object) stage error site
      pure (.now .none)
  | method, _ => misused method site

end Surroundings

end GuardAlgebra
