import GuardAlgebra.Proofs.Connective
import GuardAlgebra.Session.Execute

namespace GuardAlgebra

/-! # Eager checks

A check of a tree asks every leaf, and still decides as a check would that stops as soon as the
outcome is known. `checkLazily` is that other check; both give the very same result.
-/

namespace Guard

/-- A check that asks no more leaves than it needs: a conjunction stops at a left part that denies,
a disjunction at one that allows. -/
def checkLazily (around : Surroundings) (context : Value) : Guard → Site → Run Value
  | .both _ left right, site => do
      let first ← left.checkLazily around context (site.child 0)
      if ← .ofAttempt (first.allows around.facts (site.child 2)) then
        right.checkLazily around context (site.child 1)
      else pure first
  | .either _ left right, site => do
      let first ← left.checkLazily around context (site.child 0)
      if ← .ofAttempt (first.allows around.facts (site.child 2)) then pure first
      else right.checkLazily around context (site.child 1)
  | tree, site => tree.check around context site
termination_by structural tree => tree

variable {around : Surroundings} {context : Value}

theorem checkLazily_of_leaf {leaf : Guard} (isLeaf : leaf.isLeaf = true) (site : Site) :
    leaf.checkLazily around context site = leaf.check around context site := by
  cases leaf with
  | both site left right => simp [Guard.isLeaf] at isLeaf
  | either site left right => simp [Guard.isLeaf] at isLeaf
  | allowAll site => rfl
  | denyAll site error => rfl
  | function site callable error name => rfl
  | leaf site given => rfl

/-- All leaves of the tree that give a value give a result that allows or denies. -/
def LeavesAnswer (around : Surroundings) (context : Value) (tree : Guard) (site : Site) : Prop :=
  ∀ run ∈ tree.leafChecks around context site, run.Answers

theorem leavesAnswer_both {place site : Site} {left right : Guard} :
    (Guard.both place left right).LeavesAnswer around context site ↔
      left.LeavesAnswer around context (site.child 0) ∧
        right.LeavesAnswer around context (site.child 1) := by
  simp only [LeavesAnswer, leafChecks_both, List.forall_mem_append]

theorem leavesAnswer_either {place site : Site} {left right : Guard} :
    (Guard.either place left right).LeavesAnswer around context site ↔
      left.LeavesAnswer around context (site.child 0) ∧
        right.LeavesAnswer around context (site.child 1) := by
  simp only [LeavesAnswer, leafChecks_either, List.forall_mem_append]

/-- How a check of these leaves ends: as the first leaf that raises, or else in a result that allows
or denies and that the lazy check gives too. -/
inductive Ends (leaves : List (Run Value)) (lazily check : Run Value) : Prop where
  | raises {cause : Exception} (first : Run.firstRaise? leaves = some cause)
      (ended : check.result = .error cause)
  | decides {result : Value} {truth : Bool} (quiet : Run.firstRaise? leaves = none)
      (decided : result.Decides truth) (ended : check.result = .ok result)
      (agrees : lazily.result = .ok result)

/-- A check that does what these leaves do, up to the first that raises, and ends as they say. -/
structure Follows (leaves : List (Run Value)) (lazily check : Run Value) : Prop where
  log : check.events = (Run.throughRaise leaves).flatMap Run.events
  ending : Ends leaves lazily check

theorem follows_leaf {run : Run Value} (answers : run.Answers) : Follows [run] run run := by
  cases ended : run.result with
  | ok value =>
      obtain ⟨truth, decided⟩ := answers value ended
      refine ⟨?_, .decides ?_ decided ended ended⟩
      · simp [Run.throughRaise, ended]
      · simp [Run.firstRaise?, ended]
  | error cause =>
      refine ⟨?_, .raises ?_ ended⟩
      · simp [Run.throughRaise, ended]
      · simp [Run.firstRaise?, ended]

section Connective

variable {site : Site} {leftLeaves rightLeaves : List (Run Value)}
  {leftLazily rightLazily lazily left right : Run Value} {combine : Value → Value → Run Value}
  {name : String} {goesOn : Bool → Bool}

/-- A connective asks its left part, then its right part, and takes the result of the right part
where the lazy check goes on to it. -/
theorem Follows.connect (connects : Connects around site combine name goesOn)
    (followsLeft : Follows leftLeaves leftLazily left)
    (followsRight : Follows rightLeaves rightLazily right)
    (lazyResult : ∀ first truth, leftLazily.result = .ok first → first.Decides truth →
      lazily.result = if goesOn truth then rightLazily.result else .ok first) :
    Follows (leftLeaves ++ rightLeaves) lazily
      (left >>= fun first => right >>= fun second => combine first second) := by
  cases followsLeft.ending with
  | raises raised ended =>
      constructor
      · rw [Run.events_bind_of_error ended, Run.throughRaise_append_of_some raised]
        exact followsLeft.log
      · refine .raises ?_ (Run.result_bind_of_error ended)
        rw [Run.firstRaise?_append, raised, Option.some_or]
  | @decides first truth quiet decided ended agrees =>
      have leftLog : left.events = leftLeaves.flatMap Run.events := by
        rw [followsLeft.log, Run.throughRaise_of_none quiet]
      cases followsRight.ending with
      | raises raised rightEnded =>
          constructor
          · rw [Run.events_bind_of_ok ended, Run.events_bind_of_error rightEnded, leftLog,
              followsRight.log, Run.throughRaise_append_of_none quiet, List.flatMap_append]
          · have raisedLater := Run.firstRaise?_append leftLeaves rightLeaves
            rw [quiet, raised, Option.none_or] at raisedLater
            refine .raises raisedLater ?_
            rw [Run.result_bind_of_ok ended]
            exact Run.result_bind_of_error rightEnded
      | @decides second _ rightQuiet rightDecided rightEnded rightAgrees =>
          have combined : combine first second = .done (if goesOn truth then second else first) :=
            connects.decides decided
          constructor
          · rw [Run.events_bind_of_ok ended, Run.events_bind_of_ok rightEnded, combined, leftLog,
              followsRight.log, Run.throughRaise_append_of_none quiet, List.flatMap_append,
              Run.events_done, List.append_nil]
          · have given : (left >>= fun first => right >>= fun second => combine first second).result =
                .ok (if goesOn truth then second else first) := by
              rw [Run.result_bind_of_ok ended, Run.result_bind_of_ok rightEnded, combined]
              rfl
            have lazyGiven := lazyResult first truth agrees decided
            have allQuiet : Run.firstRaise? (leftLeaves ++ rightLeaves) = none := by
              rw [Run.firstRaise?_append, quiet, Option.none_or]
              exact rightQuiet
            cases choice : goesOn truth with
            | true =>
                simp only [choice, ↓reduceIte] at given lazyGiven
                exact .decides allQuiet rightDecided given (lazyGiven.trans rightAgrees)
            | false =>
                simp only [choice, Bool.false_eq_true, ↓reduceIte] at given lazyGiven
                exact .decides allQuiet decided given lazyGiven

end Connective

section Lazily

variable {site : Site} {left : Guard} {first : Value} {truth : Bool}

/-- The lazy check of a connective goes on to the right part where the left result says so. -/
theorem lazily_both (place : Site) (right : Guard)
    (ended : (left.checkLazily around context (site.child 0)).result = .ok first)
    (decided : first.Decides truth) :
    ((Guard.both place left right).checkLazily around context site).result =
        (if truth then (right.checkLazily around context (site.child 1)).result else .ok first) ∧
      ((Guard.both place left right).checkLazily around context site).events =
        (left.checkLazily around context (site.child 0)).events ++
          if truth then (right.checkLazily around context (site.child 1)).events else [] := by
  have allows := Value.allows_of_decides around.facts (site.child 2) decided
  rw [checkLazily, Run.result_bind_of_ok ended, Run.events_bind_of_ok ended, allows]
  cases truth <;> exact ⟨rfl, rfl⟩

theorem lazily_either (place : Site) (right : Guard)
    (ended : (left.checkLazily around context (site.child 0)).result = .ok first)
    (decided : first.Decides truth) :
    ((Guard.either place left right).checkLazily around context site).result =
        (if !truth then (right.checkLazily around context (site.child 1)).result else .ok first) ∧
      ((Guard.either place left right).checkLazily around context site).events =
        (left.checkLazily around context (site.child 0)).events ++
          if !truth then (right.checkLazily around context (site.child 1)).events else [] := by
  have allows := Value.allows_of_decides around.facts (site.child 2) decided
  rw [checkLazily, Run.result_bind_of_ok ended, Run.events_bind_of_ok ended, allows]
  cases truth <;> exact ⟨rfl, rfl⟩

end Lazily

theorem check_follows_leaves {tree : Guard} {site : Site}
    (answers : tree.LeavesAnswer around context site) :
    Follows (tree.leafChecks around context site) (tree.checkLazily around context site)
      (tree.check around context site) := by
  induction tree using treeInduction generalizing site with
  | both place left right leftIH rightIH =>
      obtain ⟨leftAnswers, rightAnswers⟩ := leavesAnswer_both.mp answers
      rw [leafChecks_both]
      apply Follows.connect (around.connects_meet (site.child 2)) (leftIH leftAnswers)
        (rightIH rightAnswers)
      intro first truth ended decided
      exact (lazily_both place right ended decided).1
  | either place left right leftIH rightIH =>
      obtain ⟨leftAnswers, rightAnswers⟩ := leavesAnswer_either.mp answers
      rw [leafChecks_either]
      apply Follows.connect (around.connects_join (site.child 2)) (leftIH leftAnswers)
        (rightIH rightAnswers)
      intro first truth ended decided
      exact (lazily_either place right ended decided).1
  | leaf tree isLeaf =>
      rw [leafChecks_of_leaf isLeaf, checkLazily_of_leaf isLeaf]
      apply follows_leaf
      apply answers
      rw [leafChecks_of_leaf isLeaf]
      exact List.mem_singleton_self _

/-- The lazy check asks some of these leaves, in their order, and ends as the last one it asks. -/
def Asks (around : Surroundings) (context : Value) (leaves : List (Placed Guard))
    (lazily : Run Value) : Prop :=
  ∃ asked last, (asked ++ [last]).Sublist leaves ∧
    lazily.events = (asked ++ [last]).flatMap (fun leaf => (leaf.check around context).events) ∧
    lazily.result = (last.check around context).result

theorem Asks.connect {leftLeaves rightLeaves : List (Placed Guard)}
    {leftLazily rightLazily lazily : Run Value} {goesOn : Bool}
    (leftAsks : Asks around context leftLeaves leftLazily)
    (rightAsks : Asks around context rightLeaves rightLazily)
    (result : lazily.result = if goesOn then rightLazily.result else leftLazily.result)
    (events : lazily.events = leftLazily.events ++ if goesOn then rightLazily.events else []) :
    Asks around context (leftLeaves ++ rightLeaves) lazily := by
  obtain ⟨asked, last, within, log, ended⟩ := leftAsks
  cases goesOn with
  | true =>
      obtain ⟨further, final, rightWithin, rightLog, rightEnded⟩ := rightAsks
      refine ⟨asked ++ [last] ++ further, final, ?_, ?_, result.trans rightEnded⟩
      · rw [List.append_assoc]
        exact within.append rightWithin
      · rw [events, log]
        simp only [↓reduceIte, rightLog, List.flatMap_append, List.append_assoc]
  | false =>
      refine ⟨asked, last, within.trans (List.sublist_append_left _ _), ?_, result.trans ended⟩
      rw [events, log]
      exact List.append_nil _

theorem lazily_asks {tree : Guard} {site : Site}
    (answers : tree.LeavesAnswer around context site)
    (quiet : Run.firstRaise? (tree.leafChecks around context site) = none) :
    Asks around context (tree.leaves site) (tree.checkLazily around context site) := by
  induction tree using treeInduction generalizing site with
  | both place left right leftIH rightIH =>
      obtain ⟨leftAnswers, rightAnswers⟩ := leavesAnswer_both.mp answers
      rw [leafChecks_both, Run.firstRaise?_append, Option.or_eq_none_iff] at quiet
      cases (check_follows_leaves leftAnswers).ending with
      | raises raised ended => simp [quiet.1] at raised
      | decides leftQuiet decided ended agrees =>
          obtain ⟨result, events⟩ := lazily_both place right agrees decided
          rw [← agrees] at result
          exact (leftIH leftAnswers quiet.1).connect (rightIH rightAnswers quiet.2) result events
  | either place left right leftIH rightIH =>
      obtain ⟨leftAnswers, rightAnswers⟩ := leavesAnswer_either.mp answers
      rw [leafChecks_either, Run.firstRaise?_append, Option.or_eq_none_iff] at quiet
      cases (check_follows_leaves leftAnswers).ending with
      | raises raised ended => simp [quiet.1] at raised
      | decides leftQuiet decided ended agrees =>
          obtain ⟨result, events⟩ := lazily_either place right agrees decided
          rw [← agrees] at result
          exact (leftIH leftAnswers quiet.1).connect (rightIH rightAnswers quiet.2) result events
  | leaf tree isLeaf =>
      rw [leaves_of_leaf isLeaf, checkLazily_of_leaf isLeaf]
      exact ⟨[], ⟨tree, site⟩, List.Sublist.refl _, by simp [Placed.check], rfl⟩

/-- An application leaf that checks itself is invoked once, with the context and nothing else. -/
theorem events_leaf_check {place : Site} {cls : ClassId} {given : Leaf} (context : Value) (site : Site)
    (itself : around.facts.checksItself (.guard (.leaf place cls given)) = true) :
    ((Guard.leaf place cls given).check around context site).events =
      [.invoked given.name ⟨[context], []⟩] := by
  rw [Guard.check, Surroundings.checkLeaf, if_pos itself]
  change _ :: (Run.pauses given.pauses _).events = _
  rw [Run.events_pauses, Run.events_ofAttempt]

theorem result_leaf_check {place : Site} {cls : ClassId} {given : Leaf} (context : Value) (site : Site)
    (itself : around.facts.checksItself (.guard (.leaf place cls given)) = true) :
    ((Guard.leaf place cls given).check around context site).result =
      given.reply.outcome around.facts site := by
  rw [Guard.check, Surroundings.checkLeaf, if_pos itself]
  change (Run.pauses given.pauses _).result = _
  rw [Run.result_pauses, Run.result_ofAttempt]

/-- A function leaf invokes its function with the context and nothing else, and does so first. -/
theorem events_function_check (scene : Scene) (depth : Nat) {place site : Site} {function : Callable}
    {error name : Value} :
    ∃ rest,
      ((Guard.function place (.callable function) error name).check
        ⟨scene.facts, scene.callWithin (depth + 1)⟩ context site).events =
          .invoked function.label ⟨[context], []⟩ :: rest :=
  ⟨_, rfl⟩

/-- A check asks all leaves from left to right, each with the context it was given. If none raises it
gives the result at which the lazy check stops; otherwise the first to raise is the last to be asked,
and what it raises comes through.

Each leaf must give a result whose `allowed` has a truth value, if it gives anything: so `Answers` asks of
every leaf. -/
theorem check_agrees_with_lazy_check (around : Surroundings) (context : Value) (tree : Guard)
    (site : Site) (answers : ∀ leaf ∈ tree.leaves site, (leaf.check around context).Answers) :
    ((∀ leaf ∈ tree.leaves site, ∃ value, (leaf.check around context).result = .ok value) →
      (tree.check around context site).events =
          (tree.leaves site).flatMap (fun leaf => (leaf.check around context).events) ∧
        ∃ asked last result, (asked ++ [last]).Sublist (tree.leaves site) ∧
          (tree.checkLazily around context site).events =
            (asked ++ [last]).flatMap (fun leaf => (leaf.check around context).events) ∧
          (last.check around context).result = .ok result ∧
          (tree.checkLazily around context site).result = .ok result ∧
          (tree.check around context site).result = .ok result) ∧
    (∀ before leaf after cause, tree.leaves site = before ++ leaf :: after →
      (∀ earlier ∈ before, ∃ value, (earlier.check around context).result = .ok value) →
      (leaf.check around context).result = .error cause →
      (tree.check around context site).events =
          (before ++ [leaf]).flatMap (fun leaf => (leaf.check around context).events) ∧
        (tree.check around context site).result = .error cause) ∧
    (∀ leaf ∈ tree.leaves site, ∀ place cls given, leaf.item = .leaf place cls given →
      around.facts.checksItself (.guard leaf.item) = true →
      (leaf.check around context).events = [.invoked given.name ⟨[context], []⟩]) ∧
    (∀ scene depth, around = ⟨scene.facts, Scene.callWithin scene (depth + 1)⟩ →
      ∀ leaf ∈ tree.leaves site, ∀ place function error name,
        leaf.item = .function place (.callable function) error name →
        ∃ rest, (leaf.check around context).events =
          .invoked function.label ⟨[context], []⟩ :: rest) := by
  have leafAnswers : tree.LeavesAnswer around context site := List.forall_mem_map.mpr answers
  have follows := check_follows_leaves leafAnswers
  refine ⟨?_, ?_, ?_, ?_⟩
  · intro given
    have quiet : Run.firstRaise? (tree.leafChecks around context site) = none :=
      Run.firstRaise?_eq_none_iff.mpr (List.forall_mem_map.mpr given)
    constructor
    · rw [follows.log, Run.throughRaise_of_none quiet, leafChecks, List.flatMap_map]
    · obtain ⟨asked, last, within, log, ended⟩ := lazily_asks leafAnswers quiet
      cases follows.ending with
      | raises raised failed => simp [quiet] at raised
      | decides quiet decided given agrees =>
          exact ⟨asked, last, _, within, log, ended.symm.trans agrees, agrees, given⟩
  · intro before leaf after cause split earlier failed
    have checks : tree.leafChecks around context site =
        before.map (Placed.check around context) ++ leaf.check around context ::
          after.map (Placed.check around context) := by
      rw [leafChecks, split, List.map_append, List.map_cons]
    obtain ⟨raises, through⟩ := Run.first_raise_of_split (after.map (Placed.check around context))
      (List.forall_mem_map.mpr earlier) failed
    rw [← checks] at raises through
    constructor
    · rw [follows.log, through, List.flatMap_append, List.flatMap_append, List.flatMap_map]
      rfl
    · cases follows.ending with
      | raises first ended =>
          rw [raises, Option.some.injEq] at first
          rw [ended, first]
      | decides quiet decided given agrees => simp [quiet] at raises
  · rintro ⟨leaf, place⟩ member origin cls given rfl itself
    exact events_leaf_check context place itself
  · rintro scene depth rfl ⟨leaf, place⟩ member origin function error name rfl
    exact events_function_check scene depth

/-- A conjunction whose left leaf denies after a pause: the right leaf is asked all the same, and the
denial of the left one is given. -/
theorem check_of_denied_conjunction :
    let around := Session.furnished.scene.surroundings
    let denial := Value.result ⟨[0]⟩ (.bool false) (.str "no")
    let first := Guard.leaf ⟨[1]⟩ Session.leafClass ⟨"first", 1, .gives denial⟩
    let second := Guard.leaf ⟨[2]⟩ Session.leafClass ⟨"second", 0, .gives (.result ⟨[3]⟩ (.bool true) .none)⟩
    let tree := Guard.both ⟨[4]⟩ first second
    (∀ leaf ∈ tree.leaves .root, (leaf.check around .none).Answers) ∧
      (tree.check around .none .root).result = .ok denial ∧
      (tree.check around .none .root).events =
        [.invoked "first" ⟨[.none], []⟩, .invoked "second" ⟨[.none], []⟩] := by
  intro around denial first second tree
  have firstItself : around.facts.checksItself (.guard first) = true := by decide +kernel
  have secondItself : around.facts.checksItself (.guard second) = true := by decide +kernel
  clear_value around
  have firstGives := result_leaf_check .none (Site.root.child 0) firstItself
  have secondGives := result_leaf_check .none (Site.root.child 1) secondItself
  have leaves : tree.leaves .root = [⟨first, Site.root.child 0⟩, ⟨second, Site.root.child 1⟩] := rfl
  have answers : ∀ leaf ∈ tree.leaves .root, (leaf.check around .none).Answers := by
    simp only [leaves, List.forall_mem_cons, List.not_mem_nil, false_implies, implies_true, and_true]
    constructor
    · intro value ended
      cases firstGives.symm.trans ended
      exact ⟨false, .result rfl⟩
    · intro value ended
      cases secondGives.symm.trans ended
      exact ⟨true, .result rfl⟩
  have given : ∀ leaf ∈ tree.leaves .root, ∃ value, (leaf.check around .none).result = .ok value := by
    simp only [leaves, List.forall_mem_cons, List.not_mem_nil, false_implies, implies_true, and_true]
    exact ⟨⟨_, firstGives⟩, ⟨_, secondGives⟩⟩
  obtain ⟨log, asked, last, result, -, -, -, lazily, eagerly⟩ :=
    (check_agrees_with_lazy_check around .none tree .root answers).1 given
  refine ⟨answers, ?_, ?_⟩
  · have lazilyFirst : (first.checkLazily around .none (Site.root.child 0)).result = .ok denial := by
      rw [checkLazily_of_leaf rfl]
      exact firstGives
    have denies : denial.Decides false := .result rfl
    have stops := (lazily_both ⟨[4]⟩ second lazilyFirst denies).1
    rw [eagerly, ← lazily]
    exact stops
  · rw [log, leaves]
    have firstLog : (first.check around .none (Site.root.child 0)).events =
        [.invoked "first" ⟨[.none], []⟩] := events_leaf_check .none _ firstItself
    have secondLog : (second.check around .none (Site.root.child 1)).events =
        [.invoked "second" ⟨[.none], []⟩] := events_leaf_check .none _ secondItself
    simp only [List.flatMap_cons, List.flatMap_nil, Placed.check, firstLog, secondLog]
    rfl

end Guard

end GuardAlgebra
