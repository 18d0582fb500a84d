import GuardAlgebra.Schedule
import Mathlib.Data.List.Nodup
import Mathlib.Logic.Function.Iterate

namespace GuardAlgebra

/-! # Runs side by side

Runs take turns in any order. What a run has become by some time depends on how many turns it had
itself and on nothing else, so each goes on as it would alone.
-/

namespace Run

variable {α : Type}

theorem events_turn (run : Run α) : run.turn.1 ++ run.turn.2.events = run.events := by
  induction run with
  | done value => rfl
  | raised cause => rfl
  | emit event rest ih => exact congrArg (event :: ·) ih
  | pause rest ih => rfl

theorem result_turn (run : Run α) : run.turn.2.result = run.result := by
  induction run with
  | done value => rfl
  | raised cause => rfl
  | emit event rest ih => exact ih
  | pause rest ih => rfl

theorem pauseCount_turn (run : Run α) : run.turn.2.pauseCount = run.pauseCount - 1 := by
  induction run with
  | done value => rfl
  | raised cause => rfl
  | emit event rest ih => exact ih
  | pause rest ih => rfl

/-- A turn is the last one where no pause is left. -/
theorem ended_turn {run : Run α} (pauseless : run.pauseCount = 0) :
    ∃ ending, run.turn.2.ended? = some ending := by
  induction run with
  | done value => exact ⟨_, rfl⟩
  | raised cause => exact ⟨_, rfl⟩
  | emit event rest ih => exact ih pauseless
  | pause rest ih => exact nomatch pauseless

theorem ended_spec {run : Run α} {ending : Attempt α} (ended : run.ended? = some ending) :
    run.result = ending ∧ run.events = [] ∧ run.turn = ([], run) := by
  cases run with
  | done value => exact ⟨Option.some.inj ended, rfl, rfl⟩
  | raised cause => exact ⟨Option.some.inj ended, rfl, rfl⟩
  | emit event rest => exact nomatch ended
  | pause rest => exact nomatch ended

end Run

namespace Task

variable {α : Type} {task : Task α} {tasks : List (Task α)} {run : Run α} {place : Nat}

/-- A task is the run under way: what it did and what is left to do make up the run. -/
structure Continues (task : Task α) (run : Run α) : Prop where
  log : task.log ++ task.rest.events = run.events
  result : task.rest.result = run.result

theorem Continues.start (run : Run α) : (Task.start run).Continues run := ⟨rfl, rfl⟩

theorem Continues.next (continues : task.Continues run) : task.step.Continues run := by
  constructor
  · change (task.log ++ task.rest.turn.1) ++ task.rest.turn.2.events = run.events
    rw [List.append_assoc, Run.events_turn, continues.log]
  · exact (Run.result_turn task.rest).trans continues.result

theorem Continues.iterate (continues : task.Continues run) (turns : Nat) :
    (step^[turns] task).Continues run := by
  induction turns generalizing task with
  | zero => exact continues
  | succ turns ih => exact ih continues.next

/-- A task that has ended did all that its run does, and ended as that does. -/
theorem Continues.ended {ending : Attempt α} (continues : task.Continues run)
    (ended : task.rest.ended? = some ending) : ending = run.result ∧ task.log = run.events := by
  obtain ⟨result, silent, -⟩ := Run.ended_spec ended
  constructor
  · rw [← continues.result, result]
  · rw [← continues.log, silent, List.append_nil]

theorem ended_step {ending : Attempt α} (ended : task.rest.ended? = some ending) :
    task.step.rest.ended? = some ending := by
  obtain ⟨-, -, still⟩ := Run.ended_spec ended
  change task.rest.turn.2.ended? = some ending
  rw [still, ended]

theorem ended_iterate {ending : Attempt α} (ended : task.rest.ended? = some ending) (turns : Nat) :
    (step^[turns] task).rest.ended? = some ending := by
  induction turns generalizing task with
  | zero => exact ended
  | succ turns ih => exact ih (ended_step ended)

/-- A task ends within one turn more than it has pauses. -/
theorem ended_of_turns {turns : Nat} (enough : task.rest.pauseCount < turns) :
    ∃ ending, (step^[turns] task).rest.ended? = some ending := by
  induction turns generalizing task with
  | zero => exact absurd enough (Nat.not_lt_zero _)
  | succ turns ih =>
      have left : task.step.rest.pauseCount = task.rest.pauseCount - 1 :=
        Run.pauseCount_turn task.rest
      by_cases pauseless : task.rest.pauseCount = 0
      · obtain ⟨ending, ended⟩ := Run.ended_turn pauseless
        exact ⟨ending, ended_iterate ended turns⟩
      · have fewer : task.step.rest.pauseCount < turns := by omega
        exact ih fewer

/-- A turn of the task at one place leaves all others as they are. -/
theorem getElem?_turn (tasks : List (Task α)) (index place : Nat) :
    (tasks.modify index step)[place]? =
      tasks[place]?.map step^[if index = place then 1 else 0] := by
  by_cases own : index = place
  · rw [if_pos own, own]
    exact List.getElem?_modify_eq step place tasks
  · rw [if_neg own, List.getElem?_modify_ne step tasks own]
    exact Option.map_id'.symm

/-- What became of a task is told by the number of its own turns, whoever else had turns between. -/
theorem getElem?_interleave (tasks : List (Task α)) (schedule : List Nat) (place : Nat) :
    (interleave tasks schedule)[place]? = tasks[place]?.map step^[schedule.count place] := by
  induction schedule generalizing tasks with
  | nil => exact Option.map_id'.symm
  | cons index schedule ih =>
      change (interleave (tasks.modify index step) schedule)[place]? = _
      rw [ih, getElem?_turn, Option.map_map, ← Function.iterate_add, List.count_cons]
      by_cases own : index = place <;> simp [own]

/-- Whenever one looks, every run is under way in its task. -/
theorem interleave_continues {runs : List (Run α)} (schedule : List Nat)
    (given : runs[place]? = some run) :
    ∃ task, (interleave (runs.map start) schedule)[place]? = some task ∧ task.Continues run ∧
      (run.pauseCount < schedule.count place → ∃ ending, task.rest.ended? = some ending) := by
  refine ⟨step^[schedule.count place] (start run), ?_, (Continues.start run).iterate _, ?_⟩
  · rw [getElem?_interleave, List.getElem?_map, given]
    rfl
  · intro enough
    exact ended_of_turns enough

theorem le_foldl_max (bounds : List Nat) (floor : Nat) :
    floor ≤ bounds.foldl max floor ∧ ∀ bound ∈ bounds, bound ≤ bounds.foldl max floor := by
  induction bounds generalizing floor with
  | nil => simp
  | cons bound bounds ih =>
      obtain ⟨above, all⟩ := ih (max floor bound)
      have here : floor ≤ bounds.foldl max (max floor bound) ∧
          bound ≤ bounds.foldl max (max floor bound) := by omega
      simpa using ⟨here.1, here.2, all⟩

/-- Rounds give every run more turns than it has pauses. -/
theorem pauseCount_lt_count_rounds {runs : List (Run α)} {place : Nat} {run : Run α}
    (given : runs[place]? = some run) : run.pauseCount < (rounds runs).count place := by
  have inside : place < runs.length := (List.getElem?_eq_some_iff.mp given).1
  have listed : run.pauseCount ∈ runs.map Run.pauseCount :=
    List.mem_map_of_mem (List.mem_of_getElem? given)
  have bounded := (le_foldl_max (runs.map Run.pauseCount) 0).2 _ listed
  have once : (List.range runs.length).count place = 1 :=
    List.count_eq_one_of_mem List.nodup_range (List.mem_range.mpr inside)
  simp only [rounds, List.count_flatten, List.map_replicate, once, List.sum_replicate_nat]
  omega

/-- Side by side, every run ends as it does alone, and has done the same. -/
theorem gather_eq (runs : List (Run α)) :
    gather runs = runs.map fun run => (run.result, run.events) := by
  apply List.ext_getElem?
  intro place
  rw [gather, List.getElem?_map, List.getElem?_map]
  cases given : runs[place]? with
  | none =>
      rw [getElem?_interleave, List.getElem?_map, given]
      rfl
  | some run =>
      obtain ⟨task, present, continues, ends⟩ := interleave_continues (rounds runs) given
      obtain ⟨ending, ended⟩ := ends (pauseCount_lt_count_rounds given)
      obtain ⟨-, log⟩ := continues.ended ended
      rw [present]
      exact congrArg some (Prod.ext continues.result log)

end Task

end GuardAlgebra
