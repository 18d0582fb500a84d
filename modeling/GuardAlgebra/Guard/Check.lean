import GuardAlgebra.Call.Reply
import GuardAlgebra.Guard.Composition

/-!
Checks. Both parts of a conjunction or a disjunction of guards are always checked, the left one
first; a conjunction of post guards stops at the first part that does not allow. Function guards
turn truth values into results; whatever an application leaf gives is passed on as it is.
-/
namespace GuardAlgebra

namespace Value

/-- What a value that a check gave says of being allowed. Results say so, and other values only by an
attribute that somebody wrote to them. -/
def allowance (facts : Facts) : Value → Except Fault Value
  | .result _ allowed _ => .ok allowed
  | value => facts.read value "allowed"

/-- Whether a value that a check gave allows. -/
def allows (facts : Facts) (site : Site) (value : Value) : Attempt Bool :=
  attempt site (value.allowance facts >>= truth)

/-- The error with which a value that a check gave denies. -/
def denialError (facts : Facts) : Value → Except Fault Value
  | .result _ _ error => .ok error
  | value => facts.read value "error"

/-- The result that the reply of a function stands for: a result itself, or an allowance, or a
denial with the given error. -/
def verdict (site : Site) (reply error : Value) : Attempt Value :=
  match reply with
  | .result place allowed carried => .ok (.result place allowed carried)
  | .bool true => .ok (.result site (.bool true) .none)
  | .bool false => .ok (.result site (.bool false) error)
  | value => .error (.fault site (.badReply value.typeName))

/-- The first of two results that does not allow, or else the second. -/
def meet (facts : Facts) (site : Site) (first second : Value) : Attempt Value := do
  if ← first.allows facts site then pure second else pure first

/-- The first of two results that allows, or else the second. -/
def join (facts : Facts) (site : Site) (first second : Value) : Attempt Value := do
  if ← first.allows facts site then pure first else pure second

end Value

namespace Surroundings

/-- Calls a function for a verdict. -/
def consult (around : Surroundings) (function error : Value) (arguments : List Value)
    (site : Site) : Run Value := do
  let answer ← around.call function ⟨arguments, []⟩ (site.child 0)
  let reply ← answer.settle
  .ofAttempt (reply.verdict site error)

/-- What two checks give together when both must allow: results meet, and any other value is asked
how it does. -/
def meet (around : Surroundings) (first second : Value) (site : Site) : Run Value :=
  match first with
  | .result place allowed error =>
      .ofAttempt ((Value.result place allowed error).meet around.facts site second)
  | other => around.demand other "and_" [second] site

/-- What two checks give together when either may allow. -/
def join (around : Surroundings) (first second : Value) (site : Site) : Run Value :=
  match first with
  | .result place allowed error =>
      .ofAttempt ((Value.result place allowed error).join around.facts site second)
  | other => around.demand other "or_" [second] site

/-- Asks any object for its check. -/
def checkBy (around : Surroundings) (object : Value) (arguments : List Value) (site : Site) :
    Run Value := do
  let answer ← around.ask object "check" ⟨arguments, []⟩ (site.child 0)
  answer.await (site.child 1)

/-- Checks an application guard: its leaf, unless something was put in the place of that. -/
def checkLeaf (around : Surroundings) (object : Value) (leaf : Leaf) (arguments : List Value)
    (site : Site) : Run Value :=
  if around.facts.checksItself object then leaf.check around.facts arguments site
  else around.checkBy object arguments site

end Surroundings

def Guard.check (around : Surroundings) (context : Value) : Guard → Site → Run Value
  | .both _ left right, site => do
      let first ← left.check around context (site.child 0)
      let second ← right.check around context (site.child 1)
      around.meet first second (site.child 2)
  | .either _ left right, site => do
      let first ← left.check around context (site.child 0)
      let second ← right.check around context (site.child 1)
      around.join first second (site.child 2)
  | .allowAll _, site => .done (.result site (.bool true) .none)
  | .denyAll _ error, site => .done (.result site (.bool false) error)
  | .function _ callable error _, site => around.consult callable error [context] site
  | .leaf place cls given, site =>
      around.checkLeaf (.guard (.leaf place cls given)) given [context] site
termination_by structural tree => tree

def PostGuard.check (around : Surroundings) (context value : Value) : PostGuard → Site → Run Value
  | .both _ _ left right _, site => do
      let first ← left.check around context value (site.child 0)
      if ← .ofAttempt (first.allows around.facts (site.child 2)) then
        right.check around context value (site.child 1)
      else pure first
  | .function _ _ callable error _ _, site => around.consult callable error [context, value] site
  | .leaf place cls kin pin given, site =>
      around.checkLeaf (.post (.leaf place cls kin pin given)) given [context, value] site
termination_by structural tree => tree

/-- Checks any value as if it were a guard, with a context and for a post guard a value. -/
def Value.check (around : Surroundings) (arguments : List Value) (site : Site) (guard : Value) :
    Run Value :=
  match guard, arguments with
  | .guard tree, [subject] => tree.check around subject site
  | .post tree, [subject, value] => tree.check around subject value site
  | object, arguments => around.checkBy object arguments site

end GuardAlgebra
