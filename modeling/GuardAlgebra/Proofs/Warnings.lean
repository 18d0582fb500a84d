import GuardAlgebra.Proofs.Retelling
import GuardAlgebra.Proofs.Stages

namespace GuardAlgebra

/-! # Warnings

A field or a request that is denied makes one record, after everything else, and neither makes any
other by itself. The records that stand before it are those of what was called on the way. Where calls
log nothing, the check of a tree logs nothing either, however many of its leaves deny.
-/

/-- A run goes on with what it gives, or ends with what it raises; what it logs stands first. -/
theorem Run.bind_ends {α β : Type} (run : Run α) (next : α → Run β) :
    (∃ cause, run.result = .error cause ∧ (run >>= next).result = .error cause ∧
      (run >>= next).records = run.records) ∨
    ∃ value, run.result = .ok value ∧ (run >>= next).result = (next value).result ∧
      (run >>= next).records = run.records ++ (next value).records := by
  cases ended : run.result with
  | error cause =>
      refine .inl ⟨cause, rfl, Run.result_bind_of_error ended, ?_⟩
      rw [records, Run.events_bind_of_error ended]
      rfl
  | ok value =>
      refine .inr ⟨value, rfl, Run.result_bind_of_ok ended, ?_⟩
      rw [records, Run.events_bind_of_ok ended, List.filterMap_append]
      rfl

namespace Resolution

variable {field : Resolution}

/-- What the stages come to: an outcome, and the stage that denies with its error, if one does. -/
def deciding (field : Resolution) : Run (Value × Option (String × Value)) := do
  match ← field.around.denial? (field.guard.elim .none .guard) [field.context]
      (field.site.child 0) with
  | some error => pure (.deniedBefore field.site field.name error, some ("guard", error))
  | none =>
      let value ← field.resolving
      match ← field.around.denial? (field.post.elim .none .post) [field.context, value]
          (field.site.child 3) with
      | some error => pure (.deniedAfter field.site field.name error, some ("post_guard", error))
      | none => pure (.released field.site field.name value, none)

/-- What is told of the field and of the error. -/
def warning (field : Resolution) (stage : String) (error : Value) : Except Fault Record :=
  Resolver.denialRecord field.around.facts field.name (.str stage) error

/-- Gives the outcome, after the report of a denial. -/
def closing (field : Resolution) : Value × Option (String × Value) → Run Value
  | (outcome, none) => pure outcome
  | (outcome, some (stage, error)) => do
      Surroundings.note field.logDenials (field.site.child 4)
        (.ofExcept (field.site.child 4) (field.warning stage error))
      pure outcome

theorem run_eq_deciding : field.run = field.deciding >>= field.closing := by
  rw [run_eq_stages, ← denial?_before, deciding]
  simp only [bind_assoc]
  refine bind_congr fun denied => ?_
  cases denied with
  | some error => rfl
  | none =>
      simp only [bind_assoc]
      refine bind_congr fun value => bind_congr fun denied => ?_
      cases denied <;> rfl

/-- How a resolution ends with the log on, and what it logs by itself. -/
inductive Logs (field : Resolution) : Prop where
  | denied {outcome error : Value} {stage : String} {name text : Text}
      (denies : field.deciding.result = .ok (outcome, some (stage, error)))
      (named : field.around.facts.say field.name = .ok name)
      (worded : field.around.facts.say error = .ok text)
      (ended : field.run.result = .ok outcome)
      (log : field.run.records = field.deciding.records ++
        [{ logger := "fieldguard.services.field_resolver"
           message := "Field '" ++ name ++ "' denied by " ++ stage ++ ": " ++ text
           extra := [("field", field.name), ("stage", .str stage),
             ("error_type", .str error.typeName)] }])
  /-- The name of the field or the error of the denial cannot be said. -/
  | untold {outcome error : Value} {stage : String} {fault : Fault}
      (denies : field.deciding.result = .ok (outcome, some (stage, error)))
      (untold : field.warning stage error = .error fault)
      (ended : field.run.result = .error (.fault (field.site.child 4) fault))
      (log : field.run.records = field.deciding.records)
  | allowed {outcome : Value} (allows : field.deciding.result = .ok (outcome, none))
      (ended : field.run.result = .ok outcome)
      (log : field.run.records = field.deciding.records)
  | raised {cause : Exception} (raises : field.deciding.result = .error cause)
      (ended : field.run.result = .error cause)
      (log : field.run.records = field.deciding.records)

theorem logs (on : field.logDenials = .bool true) : field.Logs := by
  have ends := field.deciding.bind_ends field.closing
  rw [← run_eq_deciding] at ends
  obtain ⟨cause, raises, ended, log⟩ | ⟨⟨outcome, _ | ⟨stage, error⟩⟩, decided, ended, log⟩ := ends
  · exact .raised raises ended log
  · exact .allowed decided ended (log.trans (List.append_nil _))
  -- A denial is told of last: either its record is made, or what is in the way of it is raised.
  · simp only [closing, on, Surroundings.note] at ended log
    cases warned : field.warning stage error with
    | error fault =>
        rw [warned] at ended log
        exact .untold decided warned ended (log.trans (List.append_nil _))
    | ok record =>
        rw [warned] at ended log
        simp only [warning, Resolver.denialRecord, Attempt.bind_eq_ok] at warned
        obtain ⟨name, named, _, staged, text, worded, same⟩ := warned
        cases staged
        cases same
        exact .denied decided named worded ended log

end Resolution

/-- An admission of a request, with all it is given. -/
structure Admittance where
  around : Surroundings
  configuration : Configuration
  guard : Guard
  factory : Option Value
  request : Value
  site : Site

namespace Admittance

variable {entry : Admittance}

def run (entry : Admittance) : Run Value :=
  Admission.admission entry.around entry.configuration entry.guard entry.factory entry.request
    entry.site

/-- The context of the request, and the error with which the guard denies it, if it does. -/
def deciding (entry : Admittance) : Run (Value × Option Value) := do
  let context ← Admission.context entry.around entry.factory entry.request (entry.site.child 0)
  let denied ← entry.around.denial? (.guard entry.guard) [context] (entry.site.child 1)
  pure (context, denied)

def refusal (entry : Admittance) (error : Value) : Exception :=
  Admission.refusal entry.around.facts entry.configuration error entry.site

/-- What is told of the request and of the error. -/
def warning (entry : Admittance) (error : Value) : Except Fault Record :=
  Admission.denialRecord entry.around.facts (entry.around.facts.requestLine entry.request) error

/-- Gives the context, or raises after the report of a denial. -/
def closing (entry : Admittance) : Value × Option Value → Run Value
  | (context, none) => pure context
  | (_, some error) => do
      Surroundings.note entry.configuration.logDenials entry.site
        (.ofExcept entry.site (entry.warning error))
      .raised (entry.refusal error)

theorem run_eq_deciding : entry.run = entry.deciding >>= entry.closing := by
  rw [run, Admission.admission, deciding]
  simp only [bind_assoc]
  refine bind_congr fun context => bind_congr fun denied => ?_
  cases denied <;> rfl

/-- How an admission ends with the log on, and what it logs by itself. -/
inductive Logs (entry : Admittance) : Prop where
  | denied {context error given location : Value} {method path text : Text}
      (denies : entry.deciding.result = .ok (context, some error))
      (asked : (entry.around.facts.requestLine entry.request).method = .ok given)
      (methodSaid : entry.around.facts.say given = .ok method)
      (located : (entry.around.facts.requestLine entry.request).path = .ok location)
      (pathSaid : entry.around.facts.say location = .ok path)
      (worded : entry.around.facts.say error = .ok text)
      (ended : entry.run.result = .error (entry.refusal error))
      (log : entry.run.records = entry.deciding.records ++
        [{ logger := "fieldguard.dependencies.guards"
           message := "Guard denied " ++ method ++ " " ++ path ++ ": " ++ text
           extra := [("path", .str path), ("method", given),
             ("error_type", .str error.typeName)] }])
  /-- The request has no method or path, or one of these or the error of the denial cannot be said. -/
  | untold {context error : Value} {fault : Fault}
      (denies : entry.deciding.result = .ok (context, some error))
      (untold : entry.warning error = .error fault)
      (ended : entry.run.result = .error (.fault entry.site fault))
      (log : entry.run.records = entry.deciding.records)
  | admitted {context : Value} (allows : entry.deciding.result = .ok (context, none))
      (ended : entry.run.result = .ok context)
      (log : entry.run.records = entry.deciding.records)
  | raised {cause : Exception} (raises : entry.deciding.result = .error cause)
      (ended : entry.run.result = .error cause)
      (log : entry.run.records = entry.deciding.records)

theorem logs (on : entry.configuration.logDenials = .bool true) : entry.Logs := by
  have ends := entry.deciding.bind_ends entry.closing
  rw [← run_eq_deciding] at ends
  obtain ⟨cause, raises, ended, log⟩ | ⟨⟨context, _ | error⟩, decided, ended, log⟩ := ends
  · exact .raised raises ended log
  · exact .admitted decided ended (log.trans (List.append_nil _))
  · simp only [closing, on, Surroundings.note] at ended log
    cases warned : entry.warning error with
    | error fault =>
        rw [warned] at ended log
        exact .untold decided warned ended (log.trans (List.append_nil _))
    | ok record =>
        rw [warned] at ended log
        simp only [warning, Admission.denialRecord, Attempt.bind_eq_ok] at warned
        obtain ⟨given, asked, method, methodSaid, path, ⟨location, located, pathSaid⟩, text, worded,
          same⟩ := warned
        cases same
        exact .denied decided asked methodSaid located pathSaid worded ended log

end Admittance

/-- Calls that log nothing, neither at once nor when they are waited for. -/
def Call.Silent (call : Call) : Prop :=
  ∀ value arguments site, (call value arguments site).records = [] ∧
    ∀ rest, (call value arguments site).result = .ok (.later rest) → rest.records = []

section Silent

variable {facts : Facts} {logs : Bool} {call : Call}

/-- A run that logs nothing has no denials to tell of. -/
theorem Run.retells_of_silent {α : Type} {related : α → α → Prop} {run : Run α}
    (silent : run.records = []) (same : ∀ value, run.result = .ok value → related value value) :
    run.Retells facts logs related run := by
  induction run with
  | done value => exact .done (same value rfl)
  | raised cause => exact .raised cause
  | emit event rest ih =>
      cases event with
      | invoked name arguments => exact .invoked name arguments (ih silent same)
      | logged record => exact nomatch silent
  | pause rest ih => exact .pause (ih silent same)

theorem Call.Silent.retells (silent : call.Silent) : call.Retells facts logs call := by
  intro value arguments site
  obtain ⟨now, later⟩ := silent value arguments site
  refine Run.retells_of_silent now fun answer given => ?_
  cases answer with
  | now value => exact .now value
  | later rest => exact .later (Run.retells_of_silent (later rest given) fun _ _ => rfl)

variable (silent : call.Silent)
include silent

theorem Guard.records_check (tree : Guard) (context : Value) (site : Site) :
    (tree.check ⟨facts, call⟩ context site).records = [] :=
  (Surroundings.retells_guard silent.retells context tree site).hushed_eq.2.2

theorem PostGuard.records_check (tree : PostGuard) (context value : Value) (site : Site) :
    (tree.check ⟨facts, call⟩ context value site).records = [] :=
  (Surroundings.retells_post silent.retells context value tree site).hushed_eq.2.2

theorem Resolution.records_deciding {field : Resolution} (around : field.around = ⟨facts, call⟩) :
    field.deciding.records = [] := by
  have calls : call.Retells facts false call := silent.retells
  have resolving : Run.Retells facts false (· = ·) field.resolving field.resolving := by
    rw [Resolution.resolving, around]
    exact (calls _ _ _).bind fun _ _ answers => answers.await
  have retold : Run.Retells facts false (· = ·) field.deciding field.deciding := by
    rw [Resolution.deciding, around]
    refine (Surroundings.retells_denial? calls _ _ _).andThen fun denied => ?_
    cases denied with
    | some error => exact .done rfl
    | none =>
        refine resolving.andThen fun value =>
          (Surroundings.retells_denial? calls _ _ _).andThen fun denied => ?_
        cases denied <;> exact .done rfl
  exact retold.hushed_eq.2.2

theorem Admittance.records_deciding {entry : Admittance} (around : entry.around = ⟨facts, call⟩) :
    entry.deciding.records = [] := by
  have calls : call.Retells facts false call := silent.retells
  have retold : Run.Retells facts false (· = ·) entry.deciding entry.deciding := by
    rw [Admittance.deciding, around]
    exact (Surroundings.retells_context calls _ _ _).andThen fun context =>
      (Surroundings.retells_denial? calls _ _ _).andThen fun denied => .done rfl
  exact retold.hushed_eq.2.2

end Silent

end GuardAlgebra
