import GuardAlgebra.Proofs.Grouping

namespace GuardAlgebra

/-! # Pairs

Both connectives check their left part, then their right part, and differ only in what they make of the
two results. What is said here of the pair that an operator makes is said of both. Trees that are
paired have one shape, and are compared leaf by leaf.
-/

namespace Run

/-- The run gives a result that allows or denies, as told. -/
def Decides (run : Run Value) (truth : Bool) : Prop :=
  ∃ result, run.result = .ok result ∧ result.Decides truth

theorem Decides.unique {run : Run Value} {first second : Bool} (one : run.Decides first)
    (other : run.Decides second) : first = second := by
  obtain ⟨result, given, decided⟩ := one
  obtain ⟨again, regiven, decides⟩ := other
  rw [given, Except.ok.injEq] at regiven
  subst regiven
  exact decided.unique decides

/-- Both runs do the same and end the same, however often they pause. -/
structure Agrees {α : Type} (one other : Run α) : Prop where
  events : one.events = other.events
  result : one.result = other.result

namespace Agrees

variable {α β : Type} {one other another : Run α}

theorem refl (run : Run α) : run.Agrees run := ⟨rfl, rfl⟩

theorem symm (agrees : one.Agrees other) : other.Agrees one := ⟨agrees.events.symm, agrees.result.symm⟩

theorem trans (first : one.Agrees other) (second : other.Agrees another) : one.Agrees another :=
  ⟨first.events.trans second.events, first.result.trans second.result⟩

theorem pauses (first second : Nat) (agrees : one.Agrees other) :
    (Run.pauses first one).Agrees (Run.pauses second other) := by
  constructor
  · simp [agrees.events]
  · simp [agrees.result]

theorem bind {next last : α → Run β} (agrees : one.Agrees other)
    (goesOn : ∀ value, one.result = .ok value → (next value).Agrees (last value)) :
    (one >>= next).Agrees (other >>= last) := by
  cases ended : one.result with
  | error cause =>
      have failed : other.result = .error cause := agrees.result ▸ ended
      constructor
      · rw [events_bind_of_error ended, events_bind_of_error failed, agrees.events]
      · rw [result_bind_of_error ended, result_bind_of_error failed]
  | ok value =>
      have given : other.result = .ok value := agrees.result ▸ ended
      have rest := goesOn value ended
      constructor
      · rw [events_bind_of_ok ended, events_bind_of_ok given, agrees.events, rest.events]
      · rw [result_bind_of_ok ended, result_bind_of_ok given, rest.result]

end Agrees

end Run

namespace Surroundings

/-- What an operator makes of the results of two checks. -/
def combine (around : Surroundings) : Operator → Value → Value → Site → Run Value
  | .and => around.meet
  | .or => around.join

theorem connects_combine (around : Surroundings) (operator : Operator) (site : Site) :
    Connects around site (fun first second => around.combine operator first second site)
      operator.method operator.goesOn := by
  cases operator with
  | and => exact around.connects_meet site
  | or => exact around.connects_join site

/-- What is no result is asked how it combines. -/
theorem combine_of_foreign {around : Surroundings} {operator : Operator} {first second : Value}
    {site : Site} (foreign : ∀ place allowed error, first ≠ .result place allowed error) :
    around.combine operator first second site =
      around.demand first operator.method [second] site := by
  cases operator <;> cases first <;> first | rfl | exact absurd rfl (foreign _ _ _)

end Surroundings

namespace Guard

variable {around : Surroundings} {context : Value} {operator : Operator} {place site : Site}
  {left right : Guard}

@[elab_as_elim]
theorem pairInduction {motive : Guard → Prop}
    (pair : ∀ operator place left right, motive left → motive right →
      motive (Operator.pair operator place left right))
    (leaf : ∀ leaf : Guard, leaf.isLeaf = true → motive leaf) (tree : Guard) : motive tree :=
  treeInduction (pair .and) (pair .or) leaf tree

@[simp] theorem leaves_pair :
    (operator.pair place left right).leaves site =
      left.leaves (site.child 0) ++ right.leaves (site.child 1) := by
  cases operator <;> rfl

theorem check_pair :
    (operator.pair place left right).check around context site =
      (left.check around context (site.child 0) >>= fun first =>
        right.check around context (site.child 1) >>= fun second =>
          around.combine operator first second (site.child 2)) := by
  cases operator <;> rfl

section Results

variable {first second : Value} {truth : Bool}

/-- A pair gives the result of its right part where the left one does not settle it. -/
theorem result_pair (ended : (left.check around context (site.child 0)).result = .ok first)
    (decided : first.Decides truth)
    (rightEnded : (right.check around context (site.child 1)).result = .ok second) :
    ((operator.pair place left right).check around context site).result =
      .ok (if operator.goesOn truth then second else first) := by
  have connects := around.connects_combine operator (site.child 2)
  rw [check_pair, Run.result_bind_of_ok ended, Run.result_bind_of_ok rightEnded,
    connects.decides decided, Run.result_done]

theorem decides_pair {other : Bool}
    (leftDecides : (left.check around context (site.child 0)).Decides truth)
    (rightDecides : (right.check around context (site.child 1)).Decides other) :
    ((operator.pair place left right).check around context site).Decides
      (operator.truths truth other) := by
  obtain ⟨first, ended, decided⟩ := leftDecides
  obtain ⟨second, rightEnded, rightDecided⟩ := rightDecides
  refine ⟨_, result_pair ended decided rightEnded, ?_⟩
  cases operator <;> cases truth <;> assumption

end Results

/-- Trees of one shape, of which the leaves that stand in the same place are related. -/
inductive Paired (relates : Placed Guard → Placed Guard → Prop) : Placed Guard → Placed Guard → Prop where
  | pair (operator : Operator) (place other : Site) {site away : Site} {left right first second : Guard}
      (before : Paired relates ⟨left, site.child 0⟩ ⟨first, away.child 0⟩)
      (after : Paired relates ⟨right, site.child 1⟩ ⟨second, away.child 1⟩) :
      Paired relates ⟨operator.pair place left right, site⟩ ⟨operator.pair other first second, away⟩
  | leaf {one other : Placed Guard} (isLeaf : one.item.isLeaf = true)
      (isOther : other.item.isLeaf = true) (related : relates one other) : Paired relates one other

end Guard

/-- Conjunctions of one shape, whatever they are pinned to. -/
inductive PostGuard.Paired (relates : Placed PostGuard → Placed PostGuard → Prop) :
    Placed PostGuard → Placed PostGuard → Prop where
  | both {place other site away : Site} {pin tag resultType kind : Value}
      {left right first second : PostGuard}
      (before : Paired relates ⟨left, site.child 0⟩ ⟨first, away.child 0⟩)
      (after : Paired relates ⟨right, site.child 1⟩ ⟨second, away.child 1⟩) :
      Paired relates ⟨.both place pin left right resultType, site⟩
        ⟨.both other tag first second kind, away⟩
  | leaf {one other : Placed PostGuard} (isLeaf : one.item.isLeaf = true)
      (isOther : other.item.isLeaf = true) (related : relates one other) : Paired relates one other

end GuardAlgebra
