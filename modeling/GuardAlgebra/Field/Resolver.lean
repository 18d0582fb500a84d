import GuardAlgebra.Field.Outcome
import GuardAlgebra.Guard.Check
import GuardAlgebra.Settings.Configuration

/-!
Resolving a field between a guard and a post guard. The function that computes the value runs only
if the guard allows, and the value is released only if the post guard allows. Either may be missing.
Denials are logged where the settings ask for it; logging changes nothing else.
-/
namespace GuardAlgebra

/-- The parts of a field resolver as they stand when it is used; a part may have been deleted, which
shows only where the part is needed. -/
structure Resolver where
  before : Except Fault Value
  after : Except Fault Value
  field : Except Fault Value
  /-- What is told of denials in the place of the log, if anything is. -/
  listener : Except Fault (Option Value)

namespace Resolver

/-- A resolver that has all its parts. -/
def whole (before after field : Value) : Resolver := ⟨.ok before, .ok after, .ok field, .ok none⟩

def loggerName : String := "fieldguard.services.field_resolver"

/-- The record of a denial, where all that it tells of can be put into words. -/
def denialRecord (facts : Facts) (field stage error : Value) : Except Fault Record := do
  let fieldText ← facts.say field
  let stageText ← facts.say stage
  let errorText ← facts.say error
  pure
    { logger := loggerName
      message := "Field '" ++ fieldText ++ "' denied by " ++ stageText ++ ": " ++ errorText
      extra := [("field", field), ("stage", stage), ("error_type", .str error.typeName)] }

/-- Only guards can stand before a field and only post guards after it. -/
def make (facts : Facts) (site : Site) (before after field : Value) : Attempt Value :=
  let refuse (kind : String) : Attempt Value := do
    let text ← attempt site (facts.say field)
    .error (.misfit site ("Expected a " ++ kind ++ " for field '" ++ text ++ "'") [])
  match before, after with
  | .none, .none | .none, .post _ | .guard _, .none | .guard _, .post _ =>
      .ok (.resolver site before after field)
  | .none, _ | .guard _, _ => refuse "PostGuard"
  | _, _ => refuse "Guard"

end Resolver

namespace Facts

/-- What a resolver tells of denials instead of the log. -/
def listener (facts : Facts) (resolver : Value) : Except Fault (Option Value) := do
  match ← facts.read resolver Method.logDenial.name with
  | .bound (.method .logDenial) receiver =>
      pure (if receiver.identical resolver then none
        else some (.bound (.method .logDenial) receiver))
  | other => pure (some other)

/-- The parts of a resolver as they stand. -/
def resolver (facts : Facts) (value : Value) : Resolver where
  before := facts.read value "guard"
  after := facts.read value "post_guard"
  field := facts.read value "field_name"
  listener := facts.listener value

end Facts

namespace Surroundings

/-- The error with which a stage denies, if it denies; a missing guard allows. -/
def denial? (around : Surroundings) (guard : Value) (arguments : List Value) (site : Site) :
    Run (Option Value) :=
  match guard with
  | .none => .done none
  | guard => do
      let result ← guard.check around arguments (site.child 0)
      if ← .ofAttempt (result.allows around.facts (site.child 1)) then pure none
      else
        let error ← .ofExcept (site.child 1) (result.denialError around.facts)
        pure (some error)

/-- Logs where the settings ask for it. -/
def note (logDenials : Value) (site : Site) (record : Run Record) : Run Unit := do
  if ← .ofExcept site logDenials.truth then
    let record ← record
    Run.record record
  else pure ()

/-- Logs the denial of a field. -/
def noteDenial (around : Surroundings) (logDenials : Value) (resolver : Resolver)
    (stage error : Value) (site : Site) : Run Unit :=
  note logDenials site do
    let field ← .ofExcept site resolver.field
    .ofExcept site (Resolver.denialRecord around.facts field stage error)

/-- Tells of a denial: to the log, or to what stands in its place. -/
def reportDenial (around : Surroundings) (logDenials : Value) (resolver : Resolver)
    (stage error : Value) (site : Site) : Run Unit := do
  match ← .ofExcept site resolver.listener with
  | none => around.noteDenial logDenials resolver stage error site
  | some listener =>
      let _ ← around.call listener ⟨[stage, error], []⟩ site

/-- Resolves a field for a context. -/
def resolve (around : Surroundings) (logDenials : Value) (resolver : Resolver)
    (context function : Value) (arguments : Arguments) (site : Site) : Run Value := do
  let field : Run Value := .ofExcept site resolver.field
  let report (stage : String) (error : Value) : Run Unit :=
    around.reportDenial logDenials resolver (.str stage) error (site.child 4)
  let before ← .ofExcept site resolver.before
  match ← around.denial? before [context] (site.child 0) with
  | some error =>
      report "guard" error
      return .deniedBefore site (← field) error
  | none =>
      let answer ← around.call function arguments (site.child 1)
      let value ← answer.await (site.child 2)
      let after ← .ofExcept site resolver.after
      match ← around.denial? after [context, value] (site.child 3) with
      | some error =>
          report "post_guard" error
          return .deniedAfter site (← field) error
      | none => return .released site (← field) value

end Surroundings

end GuardAlgebra
