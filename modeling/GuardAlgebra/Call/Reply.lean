import GuardAlgebra.Call.Test
import GuardAlgebra.Exception.Construction

/-!
What application objects answer. A callable answers at once or with a computation; a leaf always
pauses first, so many times as it says, and then gives its reply.
-/
namespace GuardAlgebra

def Reply.outcome (facts : Facts) (site : Site) : Reply → Attempt Value
  | .gives value => .ok value
  | .raises value => .error (facts.raised value site)

def Leaf.check (facts : Facts) (leaf : Leaf) (arguments : List Value) (site : Site) : Run Value := do
  Run.invoke leaf.name ⟨arguments, []⟩
  Run.pauses leaf.pauses (.ofAttempt (leaf.reply.outcome facts site))

/-- What a callable was called with: a list of the arguments by position, and the named ones in the
order of their names. -/
def Arguments.echo (site : Site) (arguments : Arguments) : Value :=
  let named := arguments.named.mergeSort fun first second => !decide (second.1 < first.1)
  .list site
    [.list (site.child 0) arguments.positional,
      .dict (site.child 1) (named.map fun (name, value) => (.str name, value))]

namespace Callable

/-- What a callable does once it runs. A test takes a context, and a value if there is one. -/
def outcome (around : Surroundings) (function : Callable) (arguments : Arguments) (site : Site) :
    Run Value :=
  match function.body with
  | .reply reply => .ofAttempt (reply.outcome around.facts site)
  | .argument index =>
      match arguments.positional[index]? with
      | some value => .done value
      | none => .fail site .badIndex
  | .echo => .done (arguments.echo site)
  | .test test =>
      match arguments.positional with
      | [context] => test.holds around site context .none
      | [context, value] => test.holds around site context value
      | _ => .fail site (.badArguments function.label)

def call (around : Surroundings) (function : Callable) (arguments : Arguments) (site : Site) :
    Run Answer := do
  Run.invoke function.label arguments
  match function.mode with
  | .sync =>
      let value ← function.outcome around arguments site
      pure (.now value)
  | .async | .awaitable =>
      pure (.later (Run.pauses function.pauses (function.outcome around arguments site)))
  | .nested => pure (.later (Run.pauses function.pauses (.done (.pending site))))

end Callable

end GuardAlgebra
