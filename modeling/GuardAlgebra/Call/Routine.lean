import GuardAlgebra.Construction.Declaration

/-!
Calling any value. Application callables and types answer for themselves. Makers wait for the
function that they make a guard or a guarded field of; a field behind guards and the admission of a
request go through checks, which call values in turn. A value can come to call itself that way, so
calls are nested to a depth.
-/
namespace GuardAlgebra

/-- What calls take place in. -/
structure Scene where
  facts : Facts
  configuration : Configuration

namespace Scene

def failed (site : Site) (callee : String) : Run Answer := .fail site (.badArguments callee)

def answered (attempt : Attempt Value) : Run Answer := do
  let value ← .ofAttempt attempt
  pure (.now value)

/-- Calls a function around which guards were put: its resolver is asked to resolve the field. -/
def callGuarded (around : Surroundings) (resolver function : Value) (name : Text)
    (arguments : Arguments) (site : Site) : Run Answer :=
  match Arguments.bindOpen? [.mandatory "context"] (arguments.positional.take 1)
      arguments.named with
  | some ([some context], named) =>
      let handed := context :: function :: context :: arguments.positional.drop 1
      pure (.later do
        let answer ← around.ask resolver Method.resolve.name ⟨handed, named⟩ (site.child 0)
        answer.await (site.child 1))
  | _ => failed site name.escaped

def callRoutine (scene : Scene) (call : Call) (routine : Routine) (arguments : Arguments)
    (site : Site) : Run Answer :=
  match routine with
  | .guardMaker error =>
      match arguments.bind? [.mandatory "fn"] with
      | some [some function] => pure (.now (scene.facts.declareGuard site function error))
      | _ => failed site "decorator"
  | .postMaker error resultType =>
      match arguments.bind? [.mandatory "fn"] with
      | some [some function] =>
          pure (.now (scene.facts.declarePost site function error resultType))
      | _ => failed site "decorator"
  | .fieldMaker before after field =>
      match arguments.bind? [.mandatory "func"] with
      | some [some function] => answered (scene.facts.guardField site before after field function)
      | _ => failed site "decorator"
  | .guardedField resolver function name _ =>
      callGuarded ⟨scene.facts, call⟩ resolver function name arguments site
  | .admission guard factory =>
      match arguments.bind? [.mandatory "request"] with
      | some [some received] =>
          pure (.later (Admission.admission ⟨scene.facts, call⟩ scene.configuration guard factory
            received site))
      | _ => failed site "dependency"

/-- Calls a value, and whatever it calls by `call`. -/
def callValue (scene : Scene) (call : Call) (value : Value) (arguments : Arguments) (site : Site) :
    Run Answer :=
  match value with
  | .callable function => function.call ⟨scene.facts, call⟩ arguments site
  | .type expr => answered (scene.facts.instantiate site expr arguments)
  | .routine _ routine => scene.callRoutine call routine arguments site
  | .method method =>
      Surroundings.callMethod ⟨scene.facts, call⟩ scene.configuration.logDenials method arguments
        site
  | .bound function receiver =>
      call function ⟨receiver :: arguments.positional, arguments.named⟩ site
  | value => .fail site (.notCallable value.typeName)

/-- Calls to a given depth. -/
def callWithin (scene : Scene) : Nat → Call
  | 0 => fun _ _ site => .fail site .tooDeep
  | depth + 1 => scene.callValue (callWithin scene depth)

/-- The depth to which calls are nested. -/
def depthBound : Nat := 480

def call (scene : Scene) : Call := scene.callWithin depthBound

def surroundings (scene : Scene) : Surroundings := ⟨scene.facts, scene.call⟩

end Scene

end GuardAlgebra
