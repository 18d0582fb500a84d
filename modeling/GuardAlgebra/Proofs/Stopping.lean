import GuardAlgebra.Proofs.Leaves

namespace GuardAlgebra.PostGuard

/-! # Checks that stop

A conjunction of post guards asks its leaves from left to right and stops at the first that does not
allow: its check does what the leaves up to that one do, and ends as that one ends.
-/

variable {around : Surroundings} {context value : Value}

/-- A check ends as one of its leaves does: all leaves before it allow, and no later leaf is asked
unless it allows, in which case there is none. -/
structure StopsAt (leaves : List (Run Value)) (check : Run Value) (before : List (Run Value))
    (last : Run Value) (after : List (Run Value)) : Prop where
  split : leaves = before ++ last :: after
  allowed : ∀ run ∈ before, run.Allows
  log : check.events = (before ++ [last]).flatMap Run.events
  ended : check.result = last.result
  complete : last.Allows → after = []

/-- The left part of a conjunction stops it, unless all leaves there allow. -/
theorem StopsAt.left {leaves rightLeaves before after : List (Run Value)} {left last : Run Value}
    {next : Value → Run Value} (stops : StopsAt leaves left before last after)
    (refused : ¬ last.Allows)
    (stays : ∀ result, left.result = .ok result → next result = .done result) :
    StopsAt (leaves ++ rightLeaves) (left >>= next) before last (after ++ rightLeaves) := by
  refine ⟨?_, stops.allowed, ?_, ?_, fun allows => absurd allows refused⟩
  · rw [stops.split, List.append_assoc, List.cons_append]
  · cases ended : left.result with
    | ok result =>
        rw [Run.events_bind_of_ok ended, stays result ended, Run.events_done, List.append_nil]
        exact stops.log
    | error cause =>
        rw [Run.events_bind_of_error ended]
        exact stops.log
  · cases ended : left.result with
    | ok result =>
        rw [Run.result_bind_of_ok ended, stays result ended, ← stops.ended, ended]
        rfl
    | error cause => rw [Run.result_bind_of_error ended, ← stops.ended, ended]

/-- Where all leaves of the left part allow, the right part stops the conjunction. -/
theorem StopsAt.right {leftLeaves leaves before after : List (Run Value)}
    {left right last leftLast : Run Value} {leftBefore leftAfter : List (Run Value)}
    {next : Value → Run Value} {result : Value}
    (leftStops : StopsAt leftLeaves left leftBefore leftLast leftAfter)
    (allows : leftLast.Allows) (ended : left.result = .ok result)
    (stops : StopsAt leaves right before last after) (goesOn : next result = right) :
    StopsAt (leftLeaves ++ leaves) (left >>= next) (leftLeaves ++ before) last after := by
  have leftAll : leftLeaves = leftBefore ++ [leftLast] := by
    rw [leftStops.split, leftStops.complete allows]
  refine ⟨?_, ?_, ?_, ?_, stops.complete⟩
  · rw [stops.split, List.append_assoc]
  · intro run member
    rcases List.mem_append.mp member with member | member
    · rw [leftAll] at member
      rcases List.mem_append.mp member with member | member
      · exact leftStops.allowed run member
      · rw [List.mem_singleton.mp member]
        exact allows
    · exact stops.allowed run member
  · rw [Run.events_bind_of_ok ended, goesOn, leftStops.log, stops.log, ← leftAll, List.append_assoc,
      ← List.flatMap_append]
  · rw [Run.result_bind_of_ok ended, goesOn, stops.ended]

theorem not_allows_of_denied {run : Run Value} {result : Value} (ended : run.result = .ok result)
    (denied : result.Decides false) : ¬ run.Allows := by
  rintro ⟨other, given, allowed⟩
  rw [ended, Except.ok.injEq] at given
  rw [given] at denied
  exact Bool.noConfusion (denied.unique allowed)

theorem not_allows_of_raised {run : Run Value} {cause : Exception}
    (failed : run.result = .error cause) : ¬ run.Allows := by
  rintro ⟨result, given, allowed⟩
  rw [failed] at given
  exact nomatch given

/-- A conjunction of two parts, each of which stops at one of its own leaves. -/
theorem stopsAt_both {place site : Site} {pin resultType : Value} {left right : PostGuard}
    {leftLeaves rightLeaves : List (Run Value)} (answers : ∀ run ∈ leftLeaves, run.Answers)
    (leftStops : ∃ before last after, StopsAt leftLeaves
      (left.check around context value (site.child 0)) before last after)
    (rightStops : ∃ before last after, StopsAt rightLeaves
      (right.check around context value (site.child 1)) before last after) :
    ∃ before last after, StopsAt (leftLeaves ++ rightLeaves)
      ((PostGuard.both place pin left right resultType).check around context value site)
      before last after := by
  obtain ⟨leftBefore, leftLast, leftAfter, leftStops⟩ := leftStops
  obtain ⟨before, last, after, stops⟩ := rightStops
  rw [check]
  have leftAnswers : leftLast.Answers := by
    apply answers
    rw [leftStops.split]
    exact List.mem_append_right _ List.mem_cons_self
  cases ended : (left.check around context value (site.child 0)).result with
  | error cause =>
      have refused : ¬ leftLast.Allows := not_allows_of_raised (leftStops.ended ▸ ended)
      refine ⟨leftBefore, leftLast, _, leftStops.left refused ?_⟩
      intro result given
      rw [ended] at given
      exact nomatch given
  | ok result =>
      obtain ⟨truth, decided⟩ := leftAnswers result (leftStops.ended ▸ ended)
      have allows := Value.allows_of_decides around.facts (site.child 2) decided
      cases truth with
      | true =>
          refine ⟨_, last, after,
            leftStops.right ⟨result, leftStops.ended ▸ ended, decided⟩ ended stops ?_⟩
          rw [allows]
          rfl
      | false =>
          have refused : ¬ leftLast.Allows :=
            not_allows_of_denied (leftStops.ended ▸ ended) decided
          refine ⟨leftBefore, leftLast, _, leftStops.left refused ?_⟩
          intro other given
          rw [ended, Except.ok.injEq] at given
          rw [← given, allows]
          rfl

/-- A single check stops at itself. -/
theorem stopsAt_self (run : Run Value) : StopsAt [run] run [] run [] where
  split := rfl
  allowed := List.forall_mem_nil _
  log := (List.append_nil _).symm
  ended := rfl
  complete _ := rfl

/-- The check of a conjunction asks its leaves up to the first that does not allow. -/
theorem check_stops {tree : PostGuard} {site : Site}
    (answers : ∀ run ∈ tree.leafChecks around context value site, run.Answers) :
    ∃ before last after, StopsAt (tree.leafChecks around context value site)
      (tree.check around context value site) before last after := by
  induction tree using treeInduction generalizing site with
  | both place pin left right resultType leftIH rightIH =>
      rw [leafChecks_both, List.forall_mem_append] at answers
      rw [leafChecks_both]
      exact stopsAt_both answers.1 (leftIH answers.1) (rightIH answers.2)
  | leaf tree isLeaf =>
      rw [leafChecks_of_leaf isLeaf]
      exact ⟨[], _, [], stopsAt_self _⟩

/-- An application leaf that checks itself is invoked once, with the context and the value. -/
theorem events_leaf_check {place : Site} {cls : ClassId} {kin : List String} {pin : Value}
    {given : Leaf} (context value : Value) (site : Site)
    (itself : around.facts.checksItself (.post (.leaf place cls kin pin given)) = true) :
    ((PostGuard.leaf place cls kin pin given).check around context value site).events =
      [.invoked given.name ⟨[context, value], []⟩] := by
  rw [check, Surroundings.checkLeaf, if_pos itself]
  change _ :: (Run.pauses given.pauses _).events = _
  rw [Run.events_pauses, Run.events_ofAttempt]

theorem result_leaf_check {place : Site} {cls : ClassId} {kin : List String} {pin : Value}
    {given : Leaf} (context value : Value) (site : Site)
    (itself : around.facts.checksItself (.post (.leaf place cls kin pin given)) = true) :
    ((PostGuard.leaf place cls kin pin given).check around context value site).result =
      given.reply.outcome around.facts site := by
  rw [check, Surroundings.checkLeaf, if_pos itself]
  change (Run.pauses given.pauses _).result = _
  rw [Run.result_pauses, Run.result_ofAttempt]

end GuardAlgebra.PostGuard
