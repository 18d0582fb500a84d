import GuardAlgebra.Proofs.Pairs

namespace GuardAlgebra

/-! # Rewriting trees

Guards that give one result each time make trees that do. Of the laws of lattices, idempotence,
absorption and distribution from the left keep the result itself, in any tree around them. Distribution
from the right keeps the decision, and the result but for one case, in which another part has the word.
-/

/-- A result that is given each time, and how it decides. -/
structure Ruling where
  result : Value
  truth : Bool
  decided : result.Decides truth

namespace Operator

def dual : Operator → Operator
  | .and => .or
  | .or => .and

/-- Which of two rulings an operator gives. -/
def rule (operator : Operator) (first second : Ruling) : Ruling :=
  if operator.goesOn first.truth then second else first

variable {operator : Operator} {first second third : Ruling}

theorem goesOn_dual (truth : Bool) : operator.dual.goesOn truth = !operator.goesOn truth := by
  cases operator <;> cases truth <;> rfl

theorem truth_rule :
    (operator.rule first second).truth = operator.truths first.truth second.truth := by
  cases operator <;> cases truth : first.truth <;> simp [rule, goesOn, truths, truth]

theorem rule_self (operator : Operator) (first : Ruling) : operator.rule first first = first := ite_self _

theorem rule_absorbs (operator : Operator) (first second : Ruling) :
    operator.rule first (operator.dual.rule first second) = first := by
  cases goesOn : operator.goesOn first.truth <;> simp [rule, goesOn_dual, goesOn]

theorem rule_distributes :
    operator.rule first (operator.dual.rule second third) =
      operator.dual.rule (operator.rule first second) (operator.rule first third) := by
  cases goesOn : operator.goesOn first.truth <;> simp [rule, goesOn_dual, goesOn]

/-- Distributing from the right keeps the decision. -/
theorem truth_rule_distributed :
    (operator.dual.rule (operator.rule first second) third).truth =
      (operator.rule (operator.dual.rule first third) (operator.dual.rule second third)).truth := by
  simp only [truth_rule]
  cases operator with
  | and => exact Bool.or_and_distrib_right _ _ _
  | or => exact Bool.and_or_distrib_right _ _ _

/-- The one case in which distributing from the right gives another ruling: only the first part is
settled. -/
theorem rule_distributed_of_settled (settled : first.truth = operator.halting)
    (secondOpen : second.truth ≠ operator.halting) (thirdOpen : third.truth ≠ operator.halting) :
    operator.dual.rule (operator.rule first second) third = third ∧
      operator.rule (operator.dual.rule first third) (operator.dual.rule second third) = second := by
  rw [← goesOn_eq_false_iff] at settled
  rw [Ne, ← goesOn_eq_false_iff, Bool.not_eq_false] at secondOpen thirdOpen
  simp [rule, goesOn_dual, settled, secondOpen, thirdOpen]

theorem rule_distributed_of_not_settled
    (unsettled : ¬ (first.truth = operator.halting ∧ second.truth ≠ operator.halting ∧
      third.truth ≠ operator.halting)) :
    operator.dual.rule (operator.rule first second) third =
      operator.rule (operator.dual.rule first third) (operator.dual.rule second third) := by
  simp only [Ne, ← goesOn_eq_false_iff] at unsettled
  cases one : operator.goesOn first.truth <;> cases two : operator.goesOn second.truth <;>
    cases three : operator.goesOn third.truth <;> simp_all [rule, goesOn_dual]

end Operator

namespace Guard

/-- The tree gives this ruling each time it is checked. -/
def Gives (around : Surroundings) (context : Value) (tree : Guard) (ruling : Ruling) : Prop :=
  ∀ site, (tree.check around context site).result = .ok ruling.result

variable {around : Surroundings} {context : Value} {a b c : Guard} {one other third : Ruling}

theorem gives_pair {operator : Operator} {left right : Guard} (place : Site)
    (before : left.Gives around context one) (after : right.Gives around context other) :
    (operator.pair place left right).Gives around context (operator.rule one other) := by
  intro site
  rw [result_pair (before _) one.decided (after _), Operator.rule, apply_ite Ruling.result]

/-- A tree with holes. -/
inductive Frame where
  | hole
  | guard (tree : Guard)
  | pair (operator : Operator) (place : Site) (left right : Frame)

namespace Frame

def fill (tree : Guard) : Frame → Guard
  | .hole => tree
  | .guard other => other
  | .pair operator place left right => operator.pair place (left.fill tree) (right.fill tree)

/-- What stands around the holes gives one ruling each time. -/
def Steady (around : Surroundings) (context : Value) : Frame → Prop
  | .hole => True
  | .guard tree => ∃ ruling, tree.Gives around context ruling
  | .pair _ _ left right => left.Steady around context ∧ right.Steady around context

/-- What gives one ruling gives it in any tree. -/
theorem exists_gives_fill {frame : Frame} (steady : frame.Steady around context)
    (first : a.Gives around context one) (second : b.Gives around context one) :
    ∃ ruling, (frame.fill a).Gives around context ruling ∧ (frame.fill b).Gives around context ruling := by
  induction frame with
  | hole => exact ⟨one, first, second⟩
  | guard tree =>
      obtain ⟨ruling, gives⟩ := steady
      exact ⟨ruling, gives, gives⟩
  | pair operator place left right leftIH rightIH =>
      obtain ⟨leftRuling, left, leftAgain⟩ := leftIH steady.1
      obtain ⟨rightRuling, right, rightAgain⟩ := rightIH steady.2
      exact ⟨_, gives_pair place left right, gives_pair place leftAgain rightAgain⟩

end Frame

/-- The laws of lattices that keep the result, wherever the pairs were made. -/
inductive Rewrites (a b c : Guard) : Guard → Guard → Prop where
  | idempotence (operator : Operator) (place : Site) : Rewrites a b c (operator.pair place a a) a
  | absorption (operator : Operator) (place inner : Site) :
      Rewrites a b c (operator.pair place a (operator.dual.pair inner a b)) a
  | distribution (operator : Operator) (place inner outer left right : Site) :
      Rewrites a b c (operator.pair place a (operator.dual.pair inner b c))
        (operator.dual.pair outer (operator.pair left a b) (operator.pair right a c))

theorem Rewrites.exists_gives {left right : Guard} (rewrites : Rewrites a b c left right)
    (first : a.Gives around context one) (second : b.Gives around context other)
    (last : c.Gives around context third) :
    ∃ ruling, left.Gives around context ruling ∧ right.Gives around context ruling := by
  cases rewrites with
  | idempotence operator place =>
      refine ⟨one, ?_, first⟩
      rw [← operator.rule_self one]
      exact gives_pair place first first
  | absorption operator place inner =>
      refine ⟨one, ?_, first⟩
      rw [← operator.rule_absorbs one other]
      exact gives_pair place first (gives_pair inner first second)
  | distribution operator place inner outer left right =>
      refine ⟨_, gives_pair place first (gives_pair inner second last), ?_⟩
      rw [Operator.rule_distributes]
      exact gives_pair outer (gives_pair left first second) (gives_pair right first last)

theorem gives_distributed (operator : Operator) (first : a.Gives around context one)
    (second : b.Gives around context other) (last : c.Gives around context third)
    (place inner outer left right : Site) :
    (operator.dual.pair place (operator.pair inner a b) c).Gives around context
        (operator.dual.rule (operator.rule one other) third) ∧
      (operator.pair outer (operator.dual.pair left a c) (operator.dual.pair right b c)).Gives around
        context (operator.rule (operator.dual.rule one third) (operator.dual.rule other third)) :=
  ⟨gives_pair place (gives_pair inner first second) last,
    gives_pair outer (gives_pair left first last) (gives_pair right second last)⟩

/-- Idempotence, absorption and distribution from the left keep the result in any tree around them.
Distribution of a disjunction from the right keeps the decision, and what a denial carries; that of a
conjunction keeps the decision, and the result unless only the first part allows.

The parts give the same result each time, and its `allowed` has a truth value: that is a `Ruling`. -/
theorem rewriting_keeps_the_result (first : a.Gives around context one)
    (second : b.Gives around context other) (last : c.Gives around context third)
    (place inner outer left right : Site) :
    (∀ frame : Frame, frame.Steady around context → ∀ before after, Rewrites a b c before after →
      ∃ result, ∀ site,
        ((frame.fill before).check around context site).result = .ok result ∧
        ((frame.fill after).check around context site).result = .ok result) ∧
    (∃ whole distributed : Ruling,
      (Guard.either place (.both inner a b) c).Gives around context whole ∧
      (Guard.both outer (.either left a c) (.either right b c)).Gives around context distributed ∧
      whole.truth = distributed.truth ∧ (whole.truth = false → whole = distributed)) ∧
    ∃ whole distributed : Ruling,
      (Guard.both place (.either inner a b) c).Gives around context whole ∧
      (Guard.either outer (.both left a c) (.both right b c)).Gives around context distributed ∧
      whole.truth = distributed.truth ∧
      if one.truth = true ∧ other.truth = false ∧ third.truth = false then
        whole = third ∧ distributed = other
      else whole = distributed := by
  refine ⟨?_, ?_, ?_⟩
  · intro frame steady before after rewrites
    obtain ⟨ruling, gives, givesAfter⟩ := rewrites.exists_gives first second last
    obtain ⟨whole, filled, refilled⟩ := frame.exists_gives_fill steady gives givesAfter
    exact ⟨whole.result, fun site => ⟨filled site, refilled site⟩⟩
  · obtain ⟨whole, distributed⟩ :=
      gives_distributed .and first second last place inner outer left right
    refine ⟨_, _, whole, distributed, Operator.truth_rule_distributed, fun denied => ?_⟩
    -- Where the two differ, both allow.
    apply Operator.rule_distributed_of_not_settled
    rintro ⟨settled, secondOpen, thirdOpen⟩
    rw [(Operator.rule_distributed_of_settled settled secondOpen thirdOpen).1] at denied
    exact thirdOpen denied
  · obtain ⟨whole, distributed⟩ :=
      gives_distributed .or first second last place inner outer left right
    refine ⟨_, _, whole, distributed, Operator.truth_rule_distributed, ?_⟩
    simp only [← Bool.not_eq_true]
    split_ifs with settled
    · exact Operator.rule_distributed_of_settled settled.1 settled.2.1 settled.2.2
    · exact Operator.rule_distributed_of_not_settled settled

/-- Where the first guard allows and the other two deny: absorption behind an audit that allows, and
both distributions from the right. -/
theorem rewriting_of_two_denials :
    let scene := Session.initial.scene
    let around : Surroundings := ⟨scene.facts, scene.callWithin 1⟩
    let answering (turn : Nat) (result : Value) : Guard := .function ⟨[turn]⟩ (.callable
      ⟨⟨[turn, 0]⟩, none, "answering", .sync, 0, .reply (.gives result)⟩) .none .none
    let allowed : Value := .result ⟨[10]⟩ (.bool true) .none
    let absent : Value := .result ⟨[11]⟩ (.bool false) (.str "absent")
    let expired : Value := .result ⟨[12]⟩ (.bool false) (.str "expired")
    let a := answering 0 allowed
    let b := answering 1 absent
    let c := answering 2 expired
    let tree (inner : Guard) : Guard := .both ⟨[3]⟩ a inner
    ((tree (.both ⟨[4]⟩ b (.either ⟨[5]⟩ b c))).check around .none .root).result = .ok absent ∧
      ((tree b).check around .none .root).result = .ok absent ∧
      ((Guard.both ⟨[4]⟩ (.either ⟨[5]⟩ a b) c).check around .none .root).result = .ok expired ∧
      ((Guard.either ⟨[4]⟩ (.both ⟨[5]⟩ a c) (.both ⟨[6]⟩ b c)).check around .none .root).result =
        .ok absent := by
  intro scene around answering allowed absent expired a b c tree
  clear_value scene
  have first : a.Gives around .none ⟨allowed, true, .result rfl⟩ := fun site => rfl
  have second : b.Gives around .none ⟨absent, false, .result rfl⟩ := fun site => rfl
  have last : c.Gives around .none ⟨expired, false, .result rfl⟩ := fun site => rfl
  obtain ⟨-, -, whole, distributed, gives, givesDistributed, -, differ⟩ :=
    rewriting_keeps_the_result first second last ⟨[4]⟩ ⟨[5]⟩ ⟨[4]⟩ ⟨[5]⟩ ⟨[6]⟩
  obtain ⟨keeps, -⟩ :=
    rewriting_keeps_the_result second last first .root .root .root .root .root
  let frame : Frame := .pair .and ⟨[3]⟩ (.guard a) .hole
  have steady : frame.Steady around .none := ⟨⟨_, first⟩, trivial⟩
  obtain ⟨result, same⟩ := keeps frame steady _ _ (.absorption .and ⟨[4]⟩ ⟨[5]⟩)
  rw [if_pos ⟨rfl, rfl, rfl⟩] at differ
  obtain ⟨rfl, rfl⟩ := differ
  have given : ((tree b).check around .none .root).result = .ok absent := rfl
  have absorbed := (same .root).1.trans (same .root).2.symm
  exact ⟨absorbed.trans given, given, gives .root, givesDistributed .root⟩

end Guard

end GuardAlgebra
