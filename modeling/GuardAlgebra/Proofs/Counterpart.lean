import GuardAlgebra.Proofs.Eagerness
import GuardAlgebra.Proofs.Stopping

namespace GuardAlgebra

/-! # Eager counterparts

A conjunction of post guards stops where a conjunction of guards goes on. `Mirrors` sets the two side
by side: trees of conjunctions of one shape, over leaves of which the eager ones give what the others
give. An eager tree that gives a result has asked all its leaves, and the other gives the same result
after asking the first few.
-/

/-- The names of the application objects that a run invokes, in order. -/
def Run.called {α : Type} (run : Run α) : List String := run.invocations.map Prod.fst

theorem Run.called_of_events {run : Run Value} {runs : List (Run Value)}
    (log : run.events = runs.flatMap Run.events) : run.called = runs.flatMap Run.called := by
  simp only [called, invocations, log, List.filterMap_flatMap, List.map_flatMap]
  rfl

/-- A leaf asks with the context and the value it is checked with: an application leaf invokes its
object and nothing else, and a function leaf invokes its function before anything else. -/
structure Placed.Presents (around : Surroundings) (context value : Value) (leaf : Placed PostGuard) :
    Prop where
  object : ∀ place cls kin pin given, leaf.item = .leaf place cls kin pin given →
    around.facts.checksItself (.post leaf.item) = true →
    (leaf.inspect around context value).events = [.invoked given.name ⟨[context, value], []⟩]
  function : ∀ place pin function error resultType name,
    leaf.item = .function place pin (.callable function) error resultType name →
    ∃ rest, (leaf.inspect around context value).events =
      .invoked function.label ⟨[context, value], []⟩ :: rest

theorem Placed.presents (scene : Scene) (depth : Nat) (context value : Value)
    (leaf : Placed PostGuard) :
    leaf.Presents ⟨scene.facts, scene.callWithin (depth + 1)⟩ context value := by
  obtain ⟨item, site⟩ := leaf
  constructor
  · rintro place cls kin pin given rfl itself
    exact PostGuard.events_leaf_check context value site itself
  · rintro place pin function error resultType name rfl
    exact ⟨_, rfl⟩

namespace PostGuard

/-- A tree of guards is made of conjunctions where a tree of post guards is, and where a leaf of it
gives a result, so does the leaf of the other that stands in its place. -/
inductive Mirrors (around : Surroundings) (context value : Value) : PostGuard → Guard → Site → Prop where
  | both {place other site : Site} {pin resultType : Value} {left right : PostGuard}
      {first second : Guard} (before : Mirrors around context value left first (site.child 0))
      (after : Mirrors around context value right second (site.child 1)) :
      Mirrors around context value (.both place pin left right resultType)
        (.both other first second) site
  | leaf {post : PostGuard} {guard : Guard} {site : Site} (isPost : post.isLeaf = true)
      (isGuard : guard.isLeaf = true)
      (gives : ∀ result, (guard.check around context site).result = .ok result →
        (post.check around context value site).result = .ok result) :
      Mirrors around context value post guard site

variable {around : Surroundings} {context value : Value} {tree : PostGuard} {eager : Guard}
  {site : Site}

theorem Mirrors.leavesAnswer (mirrors : Mirrors around context value tree eager site)
    (answers : ∀ run ∈ tree.leafChecks around context value site, run.Answers) :
    eager.LeavesAnswer around context site := by
  induction mirrors with
  | both before after leftIH rightIH =>
      rw [leafChecks_both, List.forall_mem_append] at answers
      exact Guard.leavesAnswer_both.mpr ⟨leftIH answers.1, rightIH answers.2⟩
  | leaf isPost isGuard gives =>
      rw [leafChecks_of_leaf isPost, List.forall_mem_singleton] at answers
      rw [Guard.LeavesAnswer, Guard.leafChecks_of_leaf isGuard, List.forall_mem_singleton]
      intro result given
      exact answers result (gives result given)

/-- A check that stops gives what the lazy check of its counterpart gives. -/
theorem Mirrors.result_of_lazily (mirrors : Mirrors around context value tree eager site)
    {result : Value} (gives : (eager.checkLazily around context site).result = .ok result) :
    (tree.check around context value site).result = .ok result := by
  induction mirrors generalizing result with
  | both before after leftIH rightIH =>
      rw [Guard.checkLazily] at gives
      obtain ⟨first, firstGiven, gives⟩ := Run.result_bind_eq_ok.mp gives
      obtain ⟨truth, decides, gives⟩ := Run.result_bind_eq_ok.mp gives
      have firstGives := leftIH firstGiven
      rw [check, Run.result_bind_of_ok firstGives, Run.result_bind_of_ok decides]
      cases truth with
      | true => exact rightIH gives
      | false => exact gives
  | leaf isPost isGuard leafGives =>
      rw [Guard.checkLazily_of_leaf isGuard] at gives
      exact leafGives result gives

/-- An eager tree that gives a result has its counterpart give it too. -/
theorem Mirrors.result_of_check (mirrors : Mirrors around context value tree eager site)
    (answers : ∀ run ∈ tree.leafChecks around context value site, run.Answers) {result : Value}
    (gives : (eager.check around context site).result = .ok result) :
    (tree.check around context value site).result = .ok result := by
  cases (Guard.check_follows_leaves (mirrors.leavesAnswer answers)).ending with
  | raises first failed =>
      rw [gives] at failed
      exact nomatch failed
  | decides quiet decided given agrees =>
      have same := given.symm.trans gives
      exact mirrors.result_of_lazily (agrees.trans same)

/-- The leaves that a check asks: all before the last one allow, and unless that allows too, no later
one is asked. -/
theorem exists_asked (answers : ∀ run ∈ tree.leafChecks around context value site, run.Answers) :
    ∃ before last after, tree.leaves site = before ++ last :: after ∧
      (∀ leaf ∈ before, (leaf.inspect around context value).Allows) ∧
      ((last.inspect around context value).Allows → after = []) ∧
      (tree.check around context value site).events =
        (before ++ [last]).flatMap (fun leaf => (leaf.inspect around context value).events) ∧
      (tree.check around context value site).result =
        (last.inspect around context value).result := by
  obtain ⟨runsBefore, run, runsAfter, stops⟩ := check_stops answers
  have split : (tree.leaves site).map (Placed.inspect around context value) =
      runsBefore ++ run :: runsAfter := stops.split
  obtain ⟨before, rest, leaves, rfl, others⟩ := List.map_eq_append_iff.mp split
  obtain ⟨last, after, rfl, rfl, rfl⟩ := List.map_eq_cons_iff.mp others
  refine ⟨before, last, after, leaves, ?_, ?_, ?_, stops.ended⟩
  · intro leaf member
    exact stops.allowed _ (List.mem_map_of_mem member)
  · intro allows
    exact List.map_eq_nil_iff.mp (stops.complete allows)
  · have log := stops.log
    simp only [List.flatMap_append, List.flatMap_map] at log ⊢
    exact log

/-- A check asks the leaves up to the first that denies or raises, each with the same context and
value, and ends as the last one asked. The eager counterpart of the tree gives no result but that of
the tree; and where none of its leaves raises it gives that result, having asked all leaves, of which
the tree asked the first ones.

Each leaf must give a result whose `allowed` has a truth value, if it gives anything: so `Answers` asks of
every leaf. -/
theorem check_agrees_with_eager_check (scene : Scene) (depth : Nat) (context value : Value)
    (tree : PostGuard) (site : Site) :
    let around : Surroundings := ⟨scene.facts, scene.callWithin (depth + 1)⟩
    (answers : ∀ leaf ∈ tree.leaves site, (leaf.inspect around context value).Answers) →
    (∃ before last after, tree.leaves site = before ++ last :: after ∧
      (∀ leaf ∈ before, (leaf.inspect around context value).Allows) ∧
      ((last.inspect around context value).Allows → after = []) ∧
      (tree.check around context value site).events =
        (before ++ [last]).flatMap (fun leaf => (leaf.inspect around context value).events) ∧
      (tree.check around context value site).result =
        (last.inspect around context value).result) ∧
    (∀ leaf ∈ tree.leaves site, leaf.Presents around context value) ∧
    ∀ eager, Mirrors around context value tree eager site →
      (∀ result, (eager.check around context site).result = .ok result →
        (tree.check around context value site).result = .ok result) ∧
      ((∀ leaf ∈ eager.leaves site, ∃ result, (leaf.check around context).result = .ok result) →
        (tree.check around context value site).result = (eager.check around context site).result ∧
        (eager.check around context site).events =
          (eager.leaves site).flatMap (fun leaf => (leaf.check around context).events) ∧
        ((tree.leafChecks around context value site).map Run.called =
            (eager.leafChecks around context site).map Run.called →
          (tree.check around context value site).called <+:
            (eager.check around context site).called)) := by
  intro around answers
  have runsAnswer : ∀ run ∈ tree.leafChecks around context value site, run.Answers :=
    List.forall_mem_map.mpr answers
  have asked := exists_asked runsAnswer
  refine ⟨asked, fun leaf _ => leaf.presents scene depth context value, fun eager mirrors => ?_⟩
  refine ⟨fun result gives => mirrors.result_of_check runsAnswer gives, fun given => ?_⟩
  have quiet : Run.firstRaise? (eager.leafChecks around context site) = none :=
    Run.firstRaise?_eq_none_iff.mpr (List.forall_mem_map.mpr given)
  have follows := Guard.check_follows_leaves (mirrors.leavesAnswer runsAnswer)
  have eagerLog : (eager.check around context site).events =
      (eager.leafChecks around context site).flatMap Run.events := by
    rw [follows.log, Run.throughRaise_of_none quiet]
  refine ⟨?_, ?_, fun calls => ?_⟩
  · cases follows.ending with
    | raises first failed =>
        rw [quiet] at first
        exact nomatch first
    | decides _ decided gives agrees =>
        rw [gives, mirrors.result_of_check runsAnswer gives]
  · rw [eagerLog, Guard.leafChecks, List.flatMap_map]
  · obtain ⟨before, last, after, leaves, -, -, log, -⟩ := asked
    have called : (tree.check around context value site).called =
        ((before ++ [last]).map (Placed.inspect around context value)).flatMap Run.called := by
      apply Run.called_of_events
      rw [log, List.flatMap_map]
    have all : (eager.check around context site).called =
        (tree.leafChecks around context value site).flatMap Run.called := by
      rw [Run.called_of_events eagerLog, List.flatMap_def, List.flatMap_def, calls]
    refine ⟨(after.map (Placed.inspect around context value)).flatMap Run.called, ?_⟩
    rw [called, all, leafChecks, leaves, ← List.flatMap_append, ← List.map_append,
      List.append_assoc, List.singleton_append]

/-- A denial deep on the left: the tree asks two of its leaves, its counterpart asks all three, and
both give the denial. -/
theorem check_agrees_on_nested_denial :
    let scene := Session.initial.scene
    let around : Surroundings := ⟨scene.facts, scene.callWithin 1⟩
    let function (turn : Nat) (label : String) (truth : Bool) : Value :=
      .callable ⟨⟨[turn]⟩, none, label, .async, turn, .reply (.gives (.result ⟨[turn, 0]⟩ (.bool truth)
        (.str label)))⟩
    let post (turn : Nat) (label : String) (truth : Bool) : PostGuard :=
      .function ⟨[turn, 1]⟩ .none (function turn label truth) .none .none .none
    let guard (turn : Nat) (label : String) (truth : Bool) : Guard :=
      .function ⟨[turn, 2]⟩ (function turn label truth) .none .none
    let tree := PostGuard.both ⟨[3]⟩ .none
      (.both ⟨[4]⟩ .none (post 0 "first" true) (post 1 "second" false) .none)
      (post 2 "third" true) .none
    let eager := Guard.both ⟨[5]⟩
      (.both ⟨[6]⟩ (guard 0 "first" true) (guard 1 "second" false)) (guard 2 "third" true)
    (∀ leaf ∈ tree.leaves .root, (leaf.inspect around .none (.int 7)).Answers) ∧
      Mirrors around .none (.int 7) tree eager .root ∧
      (∀ leaf ∈ eager.leaves .root, ∃ result, (leaf.check around .none).result = .ok result) ∧
      (tree.check around .none (.int 7) .root).result =
        (eager.check around .none .root).result ∧
      (tree.check around .none (.int 7) .root).called = ["first", "second"] ∧
      (tree.check around .none (.int 7) .root).called <+:
        (eager.check around .none .root).called := by
  intro scene around function post guard tree eager
  clear_value scene
  have answers : ∀ leaf ∈ tree.leaves .root, (leaf.inspect around .none (.int 7)).Answers := by
    have leaves : tree.leaves .root = [⟨post 0 "first" true, (Site.root.child 0).child 0⟩,
        ⟨post 1 "second" false, (Site.root.child 0).child 1⟩,
        ⟨post 2 "third" true, Site.root.child 1⟩] := rfl
    rw [leaves]
    simp only [List.forall_mem_cons, List.not_mem_nil, false_implies, implies_true, and_true]
    refine ⟨?_, ?_, ?_⟩
    · exact Run.answers_of_ok rfl (.result rfl)
    · exact Run.answers_of_ok rfl (.result rfl)
    · exact Run.answers_of_ok rfl (.result rfl)
  have given : ∀ leaf ∈ eager.leaves .root, ∃ result,
      (leaf.check around .none).result = .ok result := by
    have leaves : eager.leaves .root = [⟨guard 0 "first" true, (Site.root.child 0).child 0⟩,
        ⟨guard 1 "second" false, (Site.root.child 0).child 1⟩,
        ⟨guard 2 "third" true, Site.root.child 1⟩] := rfl
    rw [leaves]
    simp only [List.forall_mem_cons, List.not_mem_nil, false_implies, implies_true, and_true]
    exact ⟨⟨_, rfl⟩, ⟨_, rfl⟩, ⟨_, rfl⟩⟩
  have mirrors : Mirrors around .none (.int 7) tree eager .root := by
    refine .both (.both (.leaf rfl rfl ?_) (.leaf rfl rfl ?_)) (.leaf rfl rfl ?_)
    · exact fun result gives => gives
    · exact fun result gives => gives
    · exact fun result gives => gives
  obtain ⟨-, -, agrees⟩ :=
    check_agrees_with_eager_check scene 0 .none (.int 7) tree .root answers
  obtain ⟨same, -, shorter⟩ := (agrees eager mirrors).2 given
  exact ⟨answers, mirrors, given, same, rfl, shorter rfl⟩

end PostGuard

end GuardAlgebra
