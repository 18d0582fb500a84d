import GuardAlgebra.Proofs.Pairs

namespace GuardAlgebra

/-! # The formula of a tree

A tree whose leaves all give results decides as its formula does when each leaf is read as true where
it allows. So it cannot lose by a leaf that comes to allow, and trees of equivalent formulas decide
alike. The result it gives is that of one of its leaves.
-/

theorem Operator.truths_mono {operator : Operator} {left right first second : Bool}
    (leftGrows : left = true → first = true) (rightGrows : right = true → second = true)
    (holds : operator.truths left right = true) : operator.truths first second = true := by
  cases operator with
  | and =>
      simp only [truths, Bool.and_eq_true] at holds ⊢
      exact ⟨leftGrows holds.1, rightGrows holds.2⟩
  | or =>
      simp only [truths, Bool.or_eq_true] at holds ⊢
      exact holds.imp leftGrows rightGrows

namespace Guard

/-- What the formula of a tree comes to, by the truths of its leaves. -/
def evaluate (truths : Guard → Bool) : Guard → Bool
  | .both _ left right => left.evaluate truths && right.evaluate truths
  | .either _ left right => left.evaluate truths || right.evaluate truths
  | tree => truths tree
termination_by structural tree => tree

variable {around later : Surroundings} {context subject : Value} {tree : Guard} {site : Site}

theorem evaluate_pair (truths : Guard → Bool) (operator : Operator) (place : Site) (left right : Guard) :
    (operator.pair place left right).evaluate truths =
      operator.truths (left.evaluate truths) (right.evaluate truths) := by
  cases operator <;> rfl

theorem evaluate_of_leaf (truths : Guard → Bool) {leaf : Guard} (isLeaf : leaf.isLeaf = true) :
    leaf.evaluate truths = truths leaf := by
  cases leaf with
  | both place left right => exact nomatch isLeaf
  | either place left right => exact nomatch isLeaf
  | _ => rfl

theorem check_decides (answers : Guard → Bool)
    (answer : ∀ leaf ∈ tree.leaves site, (leaf.check around context).Decides (answers leaf.item)) :
    (tree.check around context site).Decides (tree.evaluate answers) := by
  induction tree using pairInduction generalizing site with
  | pair operator place left right leftIH rightIH =>
      rw [leaves_pair, List.forall_mem_append] at answer
      rw [evaluate_pair]
      exact decides_pair (leftIH answer.1) (rightIH answer.2)
  | leaf leaf isLeaf =>
      rw [leaves_of_leaf isLeaf, List.forall_mem_singleton] at answer
      rw [evaluate_of_leaf answers isLeaf]
      exact answer

/-- The result of a tree is that of a leaf which decides as the tree does. -/
theorem exists_speaking_leaf
    (decide : ∀ leaf ∈ tree.leaves site, ∃ truth, (leaf.check around context).Decides truth) :
    ∃ leaf ∈ tree.leaves site, ∃ result truth, (leaf.check around context).result = .ok result ∧
      result.Decides truth ∧ (tree.check around context site).result = .ok result := by
  induction tree using pairInduction generalizing site with
  | pair operator place left right leftIH rightIH =>
      rw [leaves_pair, List.forall_mem_append] at decide
      obtain ⟨leaf, member, first, truth, given, decided, ended⟩ := leftIH decide.1
      obtain ⟨other, isMember, second, verdict, regiven, decides, rightEnded⟩ := rightIH decide.2
      have paired : ((operator.pair place left right).check around context site).result =
          .ok (if operator.goesOn truth then second else first) := result_pair ended decided rightEnded
      rw [leaves_pair]
      -- The part that has the word for the pair has a leaf that has it already.
      cases goesOn : operator.goesOn truth with
      | true =>
          rw [goesOn, if_pos rfl] at paired
          exact ⟨other, List.mem_append_right _ isMember, second, verdict, regiven, decides, paired⟩
      | false =>
          rw [goesOn, if_neg Bool.false_ne_true] at paired
          exact ⟨leaf, List.mem_append_left _ member, first, truth, given, decided, paired⟩
  | leaf leaf isLeaf =>
      rw [leaves_of_leaf isLeaf, List.forall_mem_singleton] at decide
      obtain ⟨truth, result, given, decided⟩ := decide
      rw [leaves_of_leaf isLeaf]
      exact ⟨_, List.mem_singleton_self _, result, truth, given, decided, given⟩

theorem exists_decides
    (decide : ∀ leaf ∈ tree.leaves site, ∃ truth, (leaf.check around context).Decides truth) :
    ∃ truth, (tree.check around context site).Decides truth := by
  obtain ⟨leaf, -, result, truth, -, decided, ended⟩ := exists_speaking_leaf decide
  exact ⟨truth, result, ended, decided⟩

/-- Where every leaf that allows has a leaf that allows in its place, so has the tree. -/
theorem Paired.allows {one other : Placed Guard}
    (paired : Paired (fun leaf another =>
      (leaf.check around context).Allows → (another.check later subject).Allows) one other)
    (decide : ∀ leaf ∈ one.item.leaves one.site, ∃ truth, (leaf.check around context).Decides truth)
    (decideLater : ∀ leaf ∈ other.item.leaves other.site,
      ∃ truth, (leaf.check later subject).Decides truth)
    (allows : (one.check around context).Allows) : (other.check later subject).Allows := by
  induction paired with
  | leaf isLeaf isOther related => exact related allows
  | pair operator place away before after leftIH rightIH =>
      rw [leaves_pair, List.forall_mem_append] at decide decideLater
      obtain ⟨left, leftDecides⟩ := exists_decides decide.1
      obtain ⟨right, rightDecides⟩ := exists_decides decide.2
      obtain ⟨first, firstDecides⟩ := exists_decides decideLater.1
      obtain ⟨second, secondDecides⟩ := exists_decides decideLater.2
      have leftGrows : left = true → first = true := by
        rintro rfl
        exact firstDecides.unique (leftIH decide.1 decideLater.1 leftDecides)
      have rightGrows : right = true → second = true := by
        rintro rfl
        exact secondDecides.unique (rightIH decide.2 decideLater.2 rightDecides)
      have allowed : operator.truths left right = true :=
        (decides_pair leftDecides rightDecides).unique allows
      have grown : operator.truths first second = true :=
        Operator.truths_mono leftGrows rightGrows allowed
      change Run.Decides _ true
      rw [← grown]
      exact decides_pair firstDecides secondDecides

/-- Granting more never revokes: where all leaves decide, and each leaf that allows has one that allows
in its place of another run, so has the tree. Trees of equivalent formulas decide alike where every leaf
has one answer wherever it stands. A tree gives the result of one of its leaves, so a denial carries the
error of a leaf that denied.

Leaves decide where they give a result whose `allowed` has a truth value. -/
theorem granting_more_never_revokes (around later : Surroundings) (context subject : Value)
    (tree other : Guard) (site away : Site)
    (decide : ∀ leaf ∈ tree.leaves site, ∃ truth, (leaf.check around context).Decides truth)
    (decideLater : ∀ leaf ∈ other.leaves away, ∃ truth, (leaf.check later subject).Decides truth) :
    let first := tree.check around context site
    let second := other.check later subject away
    (Paired (fun leaf another =>
        (leaf.check around context).Allows → (another.check later subject).Allows)
      ⟨tree, site⟩ ⟨other, away⟩ → first.Allows → second.Allows) ∧
    ((∀ truths, tree.evaluate truths = other.evaluate truths) → ∀ answers : Guard → Bool,
      (∀ leaf ∈ tree.leaves site, (leaf.check around context).Decides (answers leaf.item)) →
      (∀ leaf ∈ other.leaves away, (leaf.check later subject).Decides (answers leaf.item)) →
      ∃ truth, first.Decides truth ∧ second.Decides truth) ∧
    (∃ leaf ∈ tree.leaves site, ∃ result truth, (leaf.check around context).result = .ok result ∧
      result.Decides truth ∧ first.result = .ok result) ∧
    ∀ error, first.DeniesWith error →
      ∃ leaf ∈ tree.leaves site, (leaf.check around context).DeniesWith error := by
  intro first second
  have speaks := exists_speaking_leaf decide
  refine ⟨fun paired allows => paired.allows decide decideLater allows, ?_, speaks, ?_⟩
  · intro equivalent answers answer answerLater
    refine ⟨_, check_decides answers answer, ?_⟩
    rw [equivalent]
    exact check_decides answers answerLater
  · rintro error ⟨place, allowed, denied, valued⟩
    obtain ⟨leaf, member, result, truth, given, -, ended⟩ := speaks
    have same := ended.symm.trans denied
    exact ⟨leaf, member, place, allowed, given.trans same, valued⟩

/-- A user who is not known passes by an audit that answers with a number, and once known still does;
whichever of the two guards is asked first. -/
theorem granting_to_insider :
    let scene := Session.initial.scene
    let around : Surroundings := ⟨scene.facts, scene.callWithin 1⟩
    let member := Guard.function ⟨[0]⟩ (.callable ⟨⟨[1]⟩, none, "member", .async, 1,
      .test .authenticated⟩) (.str "unknown") .none
    let audit := Guard.function ⟨[2]⟩ (.callable ⟨⟨[3]⟩, none, "audit", .sync, 0,
      .reply (.gives (.result ⟨[4]⟩ (.int 1) .none))⟩) .none .none
    let outsider := Value.context ⟨[5]⟩ .none .none .none (.dict ⟨[6]⟩ [])
    let insider := Value.context ⟨[7]⟩ .none (.str "user") .none (.dict ⟨[8]⟩ [])
    let tree := Guard.either ⟨[9]⟩ member audit
    let other := Guard.either ⟨[10]⟩ audit member
    (tree.check around outsider .root).Allows ∧ (tree.check around insider .root).Allows ∧
      ∃ truth, (tree.check around outsider .root).Decides truth ∧
        (other.check around outsider .root).Decides truth := by
  intro scene around member audit outsider insider tree other
  clear_value scene
  have denies (site : Site) : (member.check around outsider site).Decides false :=
    ⟨_, rfl, .result rfl⟩
  have allows (site : Site) : (member.check around insider site).Decides true :=
    ⟨_, rfl, .result rfl⟩
  have audits (context : Value) (site : Site) : (audit.check around context site).Decides true :=
    ⟨_, rfl, .result rfl⟩
  have leaves : tree.leaves .root = [⟨member, Site.root.child 0⟩, ⟨audit, Site.root.child 1⟩] := rfl
  have otherLeaves : other.leaves .root = [⟨audit, Site.root.child 0⟩, ⟨member, Site.root.child 1⟩] :=
    rfl
  have outside : ∀ leaf ∈ tree.leaves .root, ∃ truth, (leaf.check around outsider).Decides truth := by
    rw [leaves, List.forall_mem_cons, List.forall_mem_singleton]
    exact ⟨⟨_, denies _⟩, ⟨_, audits _ _⟩⟩
  have inside : ∀ leaf ∈ tree.leaves .root, ∃ truth, (leaf.check around insider).Decides truth := by
    rw [leaves, List.forall_mem_cons, List.forall_mem_singleton]
    exact ⟨⟨_, allows _⟩, ⟨_, audits _ _⟩⟩
  have otherwise : ∀ leaf ∈ other.leaves .root,
      ∃ truth, (leaf.check around outsider).Decides truth := by
    rw [otherLeaves, List.forall_mem_cons, List.forall_mem_singleton]
    exact ⟨⟨_, audits _ _⟩, ⟨_, denies _⟩⟩
  have passes : (tree.check around outsider .root).Allows := ⟨_, rfl, .result rfl⟩
  obtain ⟨grows, -⟩ :=
    granting_more_never_revokes around around outsider insider tree tree .root .root outside inside
  obtain ⟨-, same, -⟩ :=
    granting_more_never_revokes around around outsider outsider tree other .root .root outside otherwise
  have paired : Paired (fun leaf another =>
      (leaf.check around outsider).Allows → (another.check around insider).Allows)
      ⟨tree, .root⟩ ⟨tree, .root⟩ :=
    .pair .or _ _ (.leaf rfl rfl fun _ => allows _) (.leaf rfl rfl fun _ => audits _ _)
  have equivalent : ∀ truths, tree.evaluate truths = other.evaluate truths :=
    fun truths => Bool.or_comm _ _
  let answers : Guard → Bool := fun leaf => leaf.site = ⟨[2]⟩
  refine ⟨passes, grows paired passes, same equivalent answers ?_ ?_⟩
  · rw [leaves, List.forall_mem_cons, List.forall_mem_singleton]
    exact ⟨denies _, audits _ _⟩
  · rw [otherLeaves, List.forall_mem_cons, List.forall_mem_singleton]
    exact ⟨audits _ _, denies _⟩

end Guard

end GuardAlgebra
