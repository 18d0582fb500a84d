import GuardAlgebra.Arguments

/-!
Runs: what an operation does, one visible step at a time, until it gives a value or raises an
exception. A run invokes application objects and emits log records, and it can pause, where other
runs may have their turn. Runs are finite: how an operation goes on depends on its inputs alone.
`result_bind` and `events_bind` say what a sequence of two runs gives and does.
-/
namespace GuardAlgebra

/-- A pure operation that gives a value or raises an exception. -/
abbrev Attempt (α : Type) : Type := Except Exception α

/-- A failure of the library as an exception that is raised at a site. -/
def attempt {α : Type} (site : Site) : Except Fault α → Attempt α
  | .ok value => .ok value
  | .error fault => .error (.fault site fault)

/-- A record for the log; all of them are warnings. -/
structure Record where
  logger : String
  message : Text
  extra : List (String × Value)

inductive Event where
  /-- An application object was invoked. -/
  | invoked (name : String) (arguments : Arguments)
  | logged (record : Record)

inductive Run (α : Type) where
  | done (value : α)
  | raised (cause : Exception)
  | emit (event : Event) (rest : Run α)
  | pause (rest : Run α)

namespace Run

variable {α β γ : Type}

def bind : Run α → (α → Run β) → Run β
  | .done value, next => next value
  | .raised cause, _ => .raised cause
  | .emit event rest, next => .emit event (rest.bind next)
  | .pause rest, next => .pause (rest.bind next)

instance : Monad Run where
  pure := .done
  bind := bind

theorem bind_done (run : Run α) : run.bind .done = run := by
  induction run with
  | done value => rfl
  | raised cause => rfl
  | emit event rest ih => simp [bind, ih]
  | pause rest ih => simp [bind, ih]

theorem bind_assoc (run : Run α) (next : α → Run β) (last : β → Run γ) :
    (run.bind next).bind last = run.bind fun value => (next value).bind last := by
  induction run with
  | done value => rfl
  | raised cause => rfl
  | emit event rest ih => simp [bind, ih]
  | pause rest ih => simp [bind, ih]

instance : LawfulMonad Run :=
  LawfulMonad.mk' Run bind_done (fun _ _ => rfl) bind_assoc

@[simp] theorem pure_bind_run (value : α) (next : α → Run β) :
    (pure value >>= next : Run β) = next value := rfl

@[simp] theorem raised_bind (cause : Exception) (next : α → Run β) :
    (raised cause >>= next) = raised cause := rfl

@[simp] theorem emit_bind (event : Event) (rest : Run α) (next : α → Run β) :
    (emit event rest >>= next) = emit event (rest >>= next) := rfl

@[simp] theorem pause_bind (rest : Run α) (next : α → Run β) :
    (pause rest >>= next) = pause (rest >>= next) := rfl

def ofAttempt : Attempt α → Run α
  | .ok value => .done value
  | .error cause => .raised cause

/-- Raises a failure of the library. -/
def fail (site : Site) (fault : Fault) : Run α := .raised (.fault site fault)

def ofExcept (site : Site) (outcome : Except Fault α) : Run α := ofAttempt (attempt site outcome)

def invoke (name : String) (arguments : Arguments) : Run Unit :=
  .emit (.invoked name arguments) (.done ())

def record (entry : Record) : Run Unit := .emit (.logged entry) (.done ())

/-- Pauses so many times, then goes on. -/
def pauses : Nat → Run α → Run α
  | 0, run => run
  | count + 1, run => .pause (pauses count run)

/-- How the run ends when nothing else has a turn. -/
def result : Run α → Attempt α
  | .done value => .ok value
  | .raised cause => .error cause
  | .emit _ rest | .pause rest => rest.result

/-- What the run does, in order. -/
def events : Run α → List Event
  | .done _ | .raised _ => []
  | .emit event rest => event :: rest.events
  | .pause rest => rest.events

theorem result_bind (run : Run α) (next : α → Run β) :
    (run >>= next).result = run.result >>= fun value => (next value).result := by
  induction run with
  | done value => rfl
  | raised cause => rfl
  | emit event rest ih => simpa [result] using ih
  | pause rest ih => simpa [result] using ih

/-- What comes after a run that raises is not done. -/
theorem events_bind (run : Run α) (next : α → Run β) :
    (run >>= next).events = run.events ++ (match run.result with
      | .ok value => (next value).events
      | .error _ => []) := by
  induction run with
  | done value => rfl
  | raised cause => rfl
  | emit event rest ih => simpa [events, result] using ih
  | pause rest ih => simpa [events, result] using ih

@[simp] theorem result_pauses (count : Nat) (run : Run α) :
    (pauses count run).result = run.result := by
  induction count with
  | zero => rfl
  | succ count ih => simpa [pauses, result] using ih

@[simp] theorem events_pauses (count : Nat) (run : Run α) :
    (pauses count run).events = run.events := by
  induction count with
  | zero => rfl
  | succ count ih => simpa [pauses, events] using ih

@[simp] theorem result_ofAttempt (attempt : Attempt α) : (ofAttempt attempt).result = attempt := by
  cases attempt <;> rfl

@[simp] theorem events_ofAttempt (attempt : Attempt α) : (ofAttempt attempt).events = [] := by
  cases attempt <;> rfl

end Run

namespace Event

def invocation? : Event → Option (String × Arguments)
  | .invoked name arguments => some (name, arguments)
  | .logged _ => none

def record? : Event → Option Record
  | .invoked .. => none
  | .logged record => some record

end Event

namespace Run

variable {α : Type}

/-- The application objects that a run invokes, with their arguments. -/
def invocations (run : Run α) : List (String × Arguments) :=
  run.events.filterMap Event.invocation?

def records (run : Run α) : List Record := run.events.filterMap Event.record?

end Run

end GuardAlgebra
