import GuardAlgebra.Run

/-!
Runs side by side. A schedule names the run whose turn it is; a turn lasts until that run pauses or
ends. Every run keeps a log of its own.
-/
namespace GuardAlgebra

/-- A run under way: what it did so far, and the rest. -/
structure Task (α : Type) where
  log : List Event
  rest : Run α

namespace Run

variable {α : Type}

/-- What a run does up to its next pause, and how it goes on. -/
def turn : Run α → List Event × Run α
  | .done value => ([], .done value)
  | .raised cause => ([], .raised cause)
  | .emit event rest =>
      let (events, next) := rest.turn
      (event :: events, next)
  | .pause rest => ([], rest)

def pauseCount : Run α → Nat
  | .done _ | .raised _ => 0
  | .emit _ rest => rest.pauseCount
  | .pause rest => rest.pauseCount + 1

/-- How a run ended, if it has. -/
def ended? : Run α → Option (Attempt α)
  | .done value => some (.ok value)
  | .raised cause => some (.error cause)
  | .emit .. | .pause _ => none

end Run

namespace Task

variable {α : Type}

def start (run : Run α) : Task α := ⟨[], run⟩

def step (task : Task α) : Task α :=
  let (events, next) := task.rest.turn
  ⟨task.log ++ events, next⟩

/-- Gives every task named by the schedule its turn, in that order. -/
def interleave (tasks : List (Task α)) (schedule : List Nat) : List (Task α) :=
  schedule.foldl (fun tasks index => tasks.modify index step) tasks

/-- A schedule that gives every run a turn in each of enough rounds for all of them to end. -/
def rounds (runs : List (Run α)) : List Nat :=
  let enough := (runs.map Run.pauseCount).foldl max 0 + 1
  (List.replicate enough (List.range runs.length)).flatten

/-- Runs all side by side to the end. -/
def gather (runs : List (Run α)) : List (Attempt α × List Event) :=
  (interleave (runs.map start) (rounds runs)).map fun task => (task.rest.result, task.log)

end Task

end GuardAlgebra
