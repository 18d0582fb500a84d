import GuardAlgebra.Proofs.Interleaving
import GuardAlgebra.Proofs.Leaves
import GuardAlgebra.Session.Execute

namespace GuardAlgebra

/-! # Checks that share a world

The leaves of a guard may look at a world that all checks share, and change it: they may count their
calls, or wait for each other. Here the checks of one guard run in a loop that gives them their turns
in any order. As long as no leaf lets its answer depend on the world, no check can tell that it is not
alone: connectives keep what they know of a check in the check itself.
-/

/-- A computation among others. Beside what a run does, it can look at the world and change it. -/
inductive Process (World α : Type) where
  | done (value : α)
  | raised (cause : Exception)
  | emit (event : Event) (rest : Process World α)
  | pause (rest : Process World α)
  | touch (change : World → World) (next : World → Process World α)

namespace Process

variable {World α β : Type}

def bind : Process World α → (α → Process World β) → Process World β
  | .done value, next => next value
  | .raised cause, _ => .raised cause
  | .emit event rest, next => .emit event (rest.bind next)
  | .pause rest, next => .pause (rest.bind next)
  | .touch change seen, next => .touch change fun world => (seen world).bind next

def ofRun : Run α → Process World α
  | .done value => .done value
  | .raised cause => .raised cause
  | .emit event rest => .emit event (ofRun rest)
  | .pause rest => .pause (ofRun rest)

/-- What a process does up to its next pause, the world it leaves behind, and how it goes on. -/
def turn : Process World α → World → List Event × World × Process World α
  | .done value, world => ([], world, .done value)
  | .raised cause, world => ([], world, .raised cause)
  | .emit event rest, world =>
      let (events, world, next) := rest.turn world
      (event :: events, world, next)
  | .pause rest, world => ([], world, rest)
  | .touch change next, world => (next world).turn (change world)

/-- What a process does and how it ends when the world is left to it. -/
def alone : Process World α → World → List Event × Attempt α
  | .done value, _ => ([], .ok value)
  | .raised cause, _ => ([], .error cause)
  | .emit event rest, world => ((rest.alone world).map (event :: ·) id)
  | .pause rest, world => rest.alone world
  | .touch change next, world => (next world).alone (change world)

def ended? : Process World α → Option (Attempt α)
  | .done value => some (.ok value)
  | .raised cause => some (.error cause)
  | .emit .. | .pause _ | .touch .. => none

/-- Whatever the world is like each time the process looks, it does this and ends like that. -/
inductive Does : Process World α → List Event → Attempt α → Prop where
  | done (value : α) : Does (.done value) [] (.ok value)
  | raised (cause : Exception) : Does (.raised cause) [] (.error cause)
  | emit {rest : Process World α} {log : List Event} {ending : Attempt α} (event : Event)
      (does : Does rest log ending) : Does (.emit event rest) (event :: log) ending
  | pause {rest : Process World α} {log : List Event} {ending : Attempt α}
      (does : Does rest log ending) : Does (.pause rest) log ending
  | touch {next : World → Process World α} {log : List Event} {ending : Attempt α}
      (change : World → World) (does : ∀ world, Does (next world) log ending) :
      Does (.touch change next) log ending

/-- What the process does does not depend on the world. -/
def Steady (process : Process World α) : Prop := ∃ log ending, process.Does log ending

/-- The process does what a run does and ends as that does, however often either pauses. -/
def Imitates (process : Process World α) (run : Run α) : Prop :=
  process.Does run.events run.result

variable {process : Process World α} {log rest : List Event} {ending : Attempt α}

theorem imitates_ofRun (run : Run α) : (ofRun run : Process World α).Imitates run := by
  induction run with
  | done value => exact .done value
  | raised cause => exact .raised cause
  | emit event rest ih => exact .emit event ih
  | pause rest ih => exact .pause ih

def waiting : Nat → Process World α → Process World α
  | 0, process => process
  | count + 1, process => .pause (process.waiting count)

theorem Does.waiting (does : process.Does log ending) (count : Nat) :
    (process.waiting count).Does log ending := by
  induction count with
  | zero => exact does
  | succ count ih => exact .pause ih

theorem Does.bind_ok {value : α} {next : α → Process World β} {last : Attempt β}
    (does : process.Does log ending) (given : ending = .ok value)
    (goesOn : (next value).Does rest last) : (process.bind next).Does (log ++ rest) last := by
  induction does with
  | done first =>
      cases given
      exact goesOn
  | raised cause => exact nomatch given
  | emit event _ ih => exact .emit event (ih given)
  | pause _ ih => exact .pause (ih given)
  | touch change _ ih => exact .touch change fun world => ih world given

theorem Does.bind_error {cause : Exception} {next : α → Process World β}
    (does : process.Does log ending) (failed : ending = .error cause) :
    (process.bind next).Does log (.error cause) := by
  induction does with
  | done value => exact nomatch failed
  | raised other =>
      cases failed
      exact .raised cause
  | emit event _ ih => exact .emit event (ih failed)
  | pause _ ih => exact .pause (ih failed)
  | touch change _ ih => exact .touch change fun world => ih world failed

theorem Steady.bind {next : α → Process World β} (steady : process.Steady)
    (goesOn : ∀ value, (next value).Steady) : (process.bind next).Steady := by
  obtain ⟨log, ending, does⟩ := steady
  cases ending with
  | ok value =>
      obtain ⟨rest, last, goes⟩ := goesOn value
      exact ⟨log ++ rest, last, does.bind_ok rfl goes⟩
  | error cause => exact ⟨log, .error cause, does.bind_error rfl⟩

theorem Imitates.steady {run : Run α} (imitates : process.Imitates run) : process.Steady :=
  ⟨run.events, run.result, imitates⟩

theorem steady_ofRun (run : Run α) : (ofRun run : Process World α).Steady :=
  (imitates_ofRun run).steady

theorem Imitates.bind {run : Run α} {next : α → Process World β} {last : α → Run β}
    (imitates : process.Imitates run) (goesOn : ∀ value, (next value).Imitates (last value)) :
    (process.bind next).Imitates (run >>= last) := by
  cases ended : run.result with
  | ok value =>
      rw [Imitates, Run.events_bind_of_ok ended, Run.result_bind_of_ok ended]
      exact imitates.bind_ok ended (goesOn value)
  | error cause =>
      rw [Imitates, Run.events_bind_of_error ended, Run.result_bind_of_error ended]
      exact imitates.bind_error ended

/-- A turn does the beginning of what the process does, in any world. -/
theorem Does.turn (does : process.Does log ending) (world : World) :
    ∃ rest, (process.turn world).1 ++ rest = log ∧ (process.turn world).2.2.Does rest ending := by
  induction does generalizing world with
  | done value => exact ⟨[], rfl, .done value⟩
  | raised cause => exact ⟨[], rfl, .raised cause⟩
  | emit event _ ih =>
      obtain ⟨rest, whole, does⟩ := ih world
      exact ⟨rest, congrArg (event :: ·) whole, does⟩
  | @pause rest log ending does _ => exact ⟨log, rfl, does⟩
  | touch change _ ih => exact ih world (change world)

theorem Does.alone (does : process.Does log ending) (world : World) :
    process.alone world = (log, ending) := by
  induction does generalizing world with
  | done value => rfl
  | raised cause => rfl
  | emit event _ ih => exact congrArg (Prod.map (event :: ·) id) (ih world)
  | pause _ ih => exact ih world
  | touch change _ ih => exact ih world (change world)

theorem Does.ended {last : Attempt α} (does : process.Does log ending)
    (ended : process.ended? = some last) : last = ending ∧ log = [] := by
  cases does with
  | done value => exact ⟨(Option.some.inj ended).symm, rfl⟩
  | raised cause => exact ⟨(Option.some.inj ended).symm, rfl⟩
  | emit event _ => exact nomatch ended
  | pause _ => exact nomatch ended
  | touch change _ => exact nomatch ended

end Process

/-- How leaves check where they share a world. -/
structure Behaviour (World : Type) where
  guard : Guard → Value → Site → Process World Value
  post : PostGuard → Value → Value → Site → Process World Value

variable {World : Type}

/-- The answers of leaves depend on the context and the value they are given, and not on the world. -/
structure Behaviour.Steady (behaviour : Behaviour World) : Prop where
  guard : ∀ leaf : Guard, leaf.isLeaf = true → ∀ context site,
    (behaviour.guard leaf context site).Steady
  post : ∀ leaf : PostGuard, leaf.isLeaf = true → ∀ context value site,
    (behaviour.post leaf context value site).Steady

/-- Leaves answer as their own checks do. -/
structure Behaviour.Follows (behaviour : Behaviour World) (around : Surroundings) : Prop where
  guard : ∀ leaf : Guard, leaf.isLeaf = true → ∀ context site,
    (behaviour.guard leaf context site).Imitates (leaf.check around context site)
  post : ∀ leaf : PostGuard, leaf.isLeaf = true → ∀ context value site,
    (behaviour.post leaf context value site).Imitates (leaf.check around context value site)

theorem Behaviour.Follows.steady {behaviour : Behaviour World} {around : Surroundings}
    (follows : behaviour.Follows around) : behaviour.Steady where
  guard leaf isLeaf context site := (follows.guard leaf isLeaf context site).steady
  post leaf isLeaf context value site := (follows.post leaf isLeaf context value site).steady

/-- Leaves that count their checks, and wait the longer the more there were. -/
def Behaviour.queueing (around : Surroundings) : Behaviour Nat where
  guard leaf context site :=
    .touch (· + 1) fun count => (Process.ofRun (leaf.check around context site)).waiting count
  post leaf context value site :=
    .touch (· + 1) fun count => (Process.ofRun (leaf.check around context value site)).waiting count

theorem Behaviour.queueing_follows (around : Surroundings) :
    (Behaviour.queueing around).Follows around where
  guard leaf _ context site :=
    .touch _ fun count => (Process.imitates_ofRun (leaf.check around context site)).waiting count
  post leaf _ context value site :=
    .touch _ fun count => (Process.imitates_ofRun (leaf.check around context value site)).waiting count

/-- The check of a guard whose leaves behave in a certain way. -/
def Guard.process (behaviour : Behaviour World) (around : Surroundings) (context : Value) :
    Guard → Site → Process World Value
  | .both _ left right, site =>
      (left.process behaviour around context (site.child 0)).bind fun first =>
        (right.process behaviour around context (site.child 1)).bind fun second =>
          .ofRun (around.meet first second (site.child 2))
  | .either _ left right, site =>
      (left.process behaviour around context (site.child 0)).bind fun first =>
        (right.process behaviour around context (site.child 1)).bind fun second =>
          .ofRun (around.join first second (site.child 2))
  | tree, site => behaviour.guard tree context site
termination_by structural tree => tree

def PostGuard.process (behaviour : Behaviour World) (around : Surroundings)
    (context value : Value) : PostGuard → Site → Process World Value
  | .both _ _ left right _, site =>
      (left.process behaviour around context value (site.child 0)).bind fun first =>
        (Process.ofRun (.ofAttempt (first.allows around.facts (site.child 2)))).bind fun allows =>
          if allows then right.process behaviour around context value (site.child 1)
          else .done first
  | tree, site => behaviour.post tree context value site
termination_by structural tree => tree

/-- The check of any value as if it were a guard. -/
def Value.process (behaviour : Behaviour World) (around : Surroundings) (arguments : List Value)
    (site : Site) (guard : Value) : Process World Value :=
  match guard, arguments with
  | .guard tree, [subject] => tree.process behaviour around subject site
  | .post tree, [subject, value] => tree.process behaviour around subject value site
  | object, arguments => .ofRun (around.checkBy object arguments site)

namespace Guard

variable {behaviour : Behaviour World} {around : Surroundings}

theorem process_of_leaf {leaf : Guard} (isLeaf : leaf.isLeaf = true) (context : Value) (site : Site) :
    leaf.process behaviour around context site = behaviour.guard leaf context site := by
  cases leaf with
  | both place left right => exact nomatch isLeaf
  | either place left right => exact nomatch isLeaf
  | allowAll place => rfl
  | denyAll place error => rfl
  | function place callable error name => rfl
  | leaf place given => rfl

theorem process_steady (steady : behaviour.Steady) (context : Value) (tree : Guard) (site : Site) :
    (tree.process behaviour around context site).Steady := by
  induction tree using treeInduction generalizing site with
  | both place left right leftIH rightIH =>
      exact (leftIH _).bind fun first => (rightIH _).bind fun second => Process.steady_ofRun _
  | either place left right leftIH rightIH =>
      exact (leftIH _).bind fun first => (rightIH _).bind fun second => Process.steady_ofRun _
  | leaf leaf isLeaf =>
      rw [process_of_leaf isLeaf]
      exact steady.guard leaf isLeaf context site

theorem process_imitates (follows : behaviour.Follows around) (context : Value) (tree : Guard)
    (site : Site) :
    (tree.process behaviour around context site).Imitates (tree.check around context site) := by
  induction tree using treeInduction generalizing site with
  | both place left right leftIH rightIH =>
      exact (leftIH _).bind fun first => (rightIH _).bind fun second => Process.imitates_ofRun _
  | either place left right leftIH rightIH =>
      exact (leftIH _).bind fun first => (rightIH _).bind fun second => Process.imitates_ofRun _
  | leaf leaf isLeaf =>
      rw [process_of_leaf isLeaf]
      exact follows.guard leaf isLeaf context site

end Guard

namespace PostGuard

variable {behaviour : Behaviour World} {around : Surroundings}

theorem process_of_leaf {leaf : PostGuard} (isLeaf : leaf.isLeaf = true) (context value : Value)
    (site : Site) :
    leaf.process behaviour around context value site =
      behaviour.post leaf context value site := by
  cases leaf with
  | both place pin left right resultType => exact nomatch isLeaf
  | function place pin callable error resultType name => rfl
  | leaf place cls kin pin given => rfl

theorem process_steady (steady : behaviour.Steady) (context value : Value) (tree : PostGuard)
    (site : Site) : (tree.process behaviour around context value site).Steady := by
  induction tree using treeInduction generalizing site with
  | both place pin left right resultType leftIH rightIH =>
      refine (leftIH _).bind fun first => (Process.steady_ofRun _).bind fun allows => ?_
      cases allows with
      | true => exact rightIH _
      | false => exact ⟨_, _, .done first⟩
  | leaf leaf isLeaf =>
      rw [process_of_leaf isLeaf]
      exact steady.post leaf isLeaf context value site

theorem process_imitates (follows : behaviour.Follows around) (context value : Value)
    (tree : PostGuard) (site : Site) :
    (tree.process behaviour around context value site).Imitates
      (tree.check around context value site) := by
  induction tree using treeInduction generalizing site with
  | both place pin left right resultType leftIH rightIH =>
      refine (leftIH _).bind fun first => (Process.imitates_ofRun _).bind fun allows => ?_
      cases allows with
      | true => exact rightIH _
      | false => exact .done first
  | leaf leaf isLeaf =>
      rw [process_of_leaf isLeaf]
      exact follows.post leaf isLeaf context value site

end PostGuard

namespace Value

variable {behaviour : Behaviour World} {around : Surroundings}

theorem process_steady (steady : behaviour.Steady) (arguments : List Value) (site : Site)
    (guard : Value) : (guard.process behaviour around arguments site).Steady := by
  unfold process
  split
  · exact Guard.process_steady steady _ _ site
  · exact PostGuard.process_steady steady _ _ _ site
  · exact Process.steady_ofRun _

/-- Where leaves do what their checks do, so do trees of them. -/
theorem process_imitates (follows : behaviour.Follows around) (arguments : List Value)
    (site : Site) (guard : Value) :
    (guard.process behaviour around arguments site).Imitates
      (guard.check around arguments site) := by
  unfold process
  split
  · exact Guard.process_imitates follows _ _ site
  · exact PostGuard.process_imitates follows _ _ _ site
  next noGuard noPost =>
    rw [check]
    · exact Process.imitates_ofRun _
    · exact noGuard
    · exact noPost

end Value

/-- Checks under way: the world they share, what they all did so far, each event with the place of its
check, and what is left of each. -/
structure Loop (World : Type) where
  world : World
  log : List (Nat × Event)
  threads : List (Process World Value)

namespace Loop

def logOf (place : Nat) (log : List (Nat × Event)) : List Event :=
  (log.filter fun entry => entry.1 = place).map Prod.snd

def turn (loop : Loop World) (place : Nat) : Loop World :=
  match loop.threads[place]? with
  | none => loop
  | some thread =>
      let (events, world, next) := thread.turn loop.world
      ⟨world, loop.log ++ events.map fun event => (place, event), loop.threads.set place next⟩

def run (loop : Loop World) (schedule : List Nat) : Loop World := schedule.foldl turn loop

/-- What each check did so far and what is left of it make up what it does in any world. -/
def Continues (loop : Loop World) (checks : List (Process World Value)) : Prop :=
  ∀ place check log ending, checks[place]? = some check → check.Does log ending → ∃ thread rest,
    loop.threads[place]? = some thread ∧ thread.Does rest ending ∧
      logOf place loop.log ++ rest = log

variable {loop : Loop World} {checks : List (Process World Value)}

theorem Continues.start (world : World) (checks : List (Process World Value)) :
    (Loop.mk world [] checks).Continues checks := by
  intro place check log ending given does
  exact ⟨check, log, given, does, rfl⟩

theorem logOf_append (place : Nat) (first second : List (Nat × Event)) :
    logOf place (first ++ second) = logOf place first ++ logOf place second := by
  rw [logOf, List.filter_append, List.map_append]
  rfl

theorem logOf_turn (place index : Nat) (events : List Event) :
    logOf place (events.map fun event => (index, event)) = if index = place then events else [] := by
  by_cases own : index = place <;> simp [logOf, own, List.filter_map, Function.comp_def]

theorem Continues.turn (continues : loop.Continues checks) (index : Nat) :
    (loop.turn index).Continues checks := by
  intro place check log ending given does
  obtain ⟨thread, rest, present, does, whole⟩ := continues place check log ending given does
  unfold Loop.turn
  cases moved : loop.threads[index]? with
  | none => exact ⟨thread, rest, present, does, whole⟩
  | some other =>
      by_cases own : index = place
      · -- Its own turn moves events from what is left to what it did.
        subst own
        rw [moved, Option.some.injEq] at present
        subst present
        obtain ⟨left, split, doesLeft⟩ := does.turn loop.world
        refine ⟨(other.turn loop.world).2.2, left, ?_, doesLeft, ?_⟩
        · have inside := (List.getElem?_eq_some_iff.mp moved).1
          exact List.getElem?_set_self inside
        · change logOf index (loop.log ++ _) ++ left = _
          rw [logOf_append, logOf_turn, if_pos rfl, List.append_assoc, split, whole]
      · refine ⟨thread, rest, ?_, does, ?_⟩
        · exact (List.getElem?_set_ne own).trans present
        · change logOf place (loop.log ++ _) ++ rest = _
          rw [logOf_append, logOf_turn, if_neg own, List.append_nil, whole]

theorem Continues.run (continues : loop.Continues checks) (schedule : List Nat) :
    (loop.run schedule).Continues checks := by
  induction schedule generalizing loop with
  | nil => exact continues
  | cons index schedule ih => exact ih (continues.turn index)

end Loop

/-- The checks of a guard for several subjects, each at a site of its own. A subject is a context, and
for a post guard a value behind it. -/
def Value.checkEach (around : Surroundings) (guard : Value) (subjects : List (List Value))
    (site : Site) : List (Run Value) :=
  subjects.zipIdx.map fun (subject, place) => guard.check around subject (site.child place)

def Value.loop (behaviour : Behaviour World) (around : Surroundings) (guard : Value)
    (subjects : List (List Value)) (site : Site) (world : World) : Loop World :=
  ⟨world, [], subjects.zipIdx.map fun (subject, place) =>
    guard.process behaviour around subject (site.child place)⟩

namespace Value

theorem getElem?_checkEach (around : Surroundings) (guard : Value) {subjects : List (List Value)}
    (site : Site) {place : Nat} {subject : List Value} (given : subjects[place]? = some subject) :
    (guard.checkEach around subjects site)[place]? =
      some (guard.check around subject (site.child place)) := by
  simp [checkEach, given]

theorem getElem?_loop (behaviour : Behaviour World) (around : Surroundings) (guard : Value)
    {subjects : List (List Value)} (site : Site) (world : World) {place : Nat} {subject : List Value}
    (given : subjects[place]? = some subject) :
    (guard.loop behaviour around subjects site world).threads[place]? =
      some (guard.process behaviour around subject (site.child place)) := by
  simp [loop, given]

/-- Concurrent checks do not interfere. Checks of one guard for any number of subjects take their
turns in any order, each a task with a log of its own, or all of them in one world with one log. Each
does what it does alone as far as it has come, and when it has ended it has done all of that, and
ended as it does alone. A task ends when it had more turns than the check has pauses, so where all are
waited for, each gives what it gives alone. -/
theorem check_undisturbed_by_others {behaviour : Behaviour World} (steady : behaviour.Steady)
    (around : Surroundings) (guard : Value) (subjects : List (List Value)) (site : Site)
    (world : World) (schedule : List Nat) {place : Nat} {subject : List Value}
    (given : subjects[place]? = some subject) :
    let check := guard.check around subject (site.child place)
    let process := guard.process behaviour around subject (site.child place)
    let tasks := Task.interleave ((guard.checkEach around subjects site).map Task.start) schedule
    let loop := (guard.loop behaviour around subjects site world).run schedule
    (∃ task, tasks[place]? = some task ∧ task.log <+: check.events ∧
      (∀ ending, task.rest.ended? = some ending →
        (task.log, ending) = (check.events, check.result)) ∧
      (check.pauseCount < schedule.count place → ∃ ending, task.rest.ended? = some ending)) ∧
    (∃ thread, loop.threads[place]? = some thread ∧ ∀ start,
      Loop.logOf place loop.log <+: (process.alone start).1 ∧ ∀ ending,
        thread.ended? = some ending → (Loop.logOf place loop.log, ending) = process.alone start) ∧
    (behaviour.Follows around → ∀ start, process.alone start = (check.events, check.result)) ∧
    (Task.gather (guard.checkEach around subjects site))[place]? =
      some (check.result, check.events) := by
  intro check process tasks loop
  refine ⟨?_, ?_, fun follows => (process_imitates follows subject (site.child place) guard).alone, ?_⟩
  · obtain ⟨task, present, continues, ends⟩ :=
      Task.interleave_continues schedule (getElem?_checkEach around guard site given)
    refine ⟨task, present, ⟨_, continues.log⟩, fun ending ended => ?_, ends⟩
    obtain ⟨result, log⟩ := continues.ended ended
    rw [result, log]
  · obtain ⟨log, ending, does⟩ : process.Steady := process_steady steady subject _ guard
    obtain ⟨thread, rest, present, left, whole⟩ := (Loop.Continues.start world _).run schedule
      place process log ending (getElem?_loop behaviour around guard site world given) does
    refine ⟨thread, present, fun start => ?_⟩
    rw [does.alone start]
    refine ⟨⟨rest, whole⟩, fun last ended => ?_⟩
    obtain ⟨result, silent⟩ := left.ended ended
    rw [silent, List.append_nil] at whole
    exact Prod.ext whole result
  · rw [Task.gather_eq, List.getElem?_map, getElem?_checkEach around guard site given]
    rfl

/-- Two checks of a conjunction in a world that counts them: the second has its turns before, between
and after those of the first, and denies as it would alone. -/
theorem check_undisturbed_of_member_and_outsider :
    let around := Session.furnished.scene.surroundings
    let first := Guard.leaf ⟨[0]⟩ Session.leafClass ⟨"first", 2, .gives (.result ⟨[1]⟩ (.bool true) .none)⟩
    let member := Value.callable ⟨⟨[2]⟩, Option.none, "member", .async, 1, .test (.contextIs (.int 7))⟩
    let tree := Guard.both ⟨[3]⟩ first (.function ⟨[4]⟩ member (.str "outsider") .none)
    let subjects := [[.int 7], [.int 8]]
    let schedule := [1, 0, 1, 1, 0, 1]
    let tasks := Task.interleave (((Value.guard tree).checkEach around subjects .root).map Task.start)
      schedule
    let loop := ((Value.guard tree).loop (.queueing around) around subjects .root 0).run schedule
    let denial := Value.result ((Site.root.child 1).child 1) (.bool false) (.str "outsider")
    let log := [.invoked "first" ⟨[.int 8], []⟩, .invoked "member" ⟨[.int 8], []⟩]
    (∃ task, tasks[1]? = some task ∧ task.rest.ended? = some (.ok denial) ∧ task.log = log) ∧
      Loop.logOf 1 loop.log <+: log := by
  intro around first member tree subjects schedule tasks loop denial log
  have itself : around.facts.checksItself (.guard first) = true := by decide +kernel
  have alone : (Value.guard tree).check around [.int 8] (Site.root.child 1) =
      .emit (.invoked "first" ⟨[.int 8], []⟩) (.pause (.pause
        (.emit (.invoked "member" ⟨[.int 8], []⟩) (.pause (.done denial))))) := by
    change tree.check around (.int 8) (Site.root.child 1) = _
    simp only [tree, first, Guard.check, Surroundings.checkLeaf]
    rw [if_pos itself]
    rfl
  have follows := Behaviour.queueing_follows around
  obtain ⟨⟨task, present, -, finished, ends⟩, ⟨thread, -, begun⟩, itsCheck, -⟩ :=
    check_undisturbed_by_others follows.steady around (.guard tree) subjects .root 0 schedule
      (show subjects[1]? = some [.int 8] from rfl)
  obtain ⟨prefixed, -⟩ := begun 0
  rw [itsCheck follows 0] at prefixed
  rw [alone] at finished ends prefixed
  obtain ⟨ending, ended⟩ := ends (by decide)
  obtain ⟨whole, rfl⟩ := Prod.mk.inj (finished ending ended)
  exact ⟨⟨task, present, ended, whole⟩, prefixed⟩

end Value

end GuardAlgebra
