import GuardAlgebra.Proofs.Pairs
import GuardAlgebra.Proofs.TypeEquality

namespace GuardAlgebra

/-! # Likeness

Guards are alike when they have one shape, the same functions and leaves, and errors that are the same
object or equal; names, pins and the types that conjunctions derive make no difference. Equality finds
exactly that, given that objects are told apart by their sites: no two of them are made at one.
-/

def Guard.parts : Guard → List Value
  | .both _ left right | .either _ left right => [.guard left, .guard right]
  | .denyAll _ error => [error]
  | .function _ callable error _ => [callable, error]
  | .allowAll _ | .leaf .. => []

def PostGuard.parts : PostGuard → List Value
  | .both _ _ left right _ => [.post left, .post right]
  | .function _ _ callable error resultType _ => [callable, error, resultType]
  | .leaf .. => []

namespace Value

/-- What a value is compared by, piece by piece. -/
def parts : Value → List Value
  | .tuple _ items => items
  | .result _ allowed error => [allowed, error]
  | .context _ received user organization extra => [received, user, organization, extra]
  | .outcome _ field value error resolved stage => [field, value, error, resolved, stage]
  | .guard tree => tree.parts
  | .post tree => tree.parts
  | .bound function _ => [function]
  | _ => []

/-- What an object can bring along as a method. -/
inductive Functional : Value → Prop where
  | method (method : Method) : Functional (.method method)
  | routine (site : Site) (routine : Routine) : Functional (.routine site routine)

/-- Unions have their members once, and the functions of objects are taken from objects of their own. -/
def Settled (objects : Site → Value) : Value → Prop
  | .type expr => expr.Proper
  | .bound function receiver =>
      function.Functional ∧ (∀ site items, receiver ≠ .tuple site items) ∧
        ∃ site, receiver.site? = some site ∧ objects site = receiver
  | _ => True

/-- A value among the objects of a session, of which there is one to a site, like all its parts. -/
inductive Stands (objects : Site → Value) : Value → Prop where
  | intro {value : Value} (placed : ∀ site ∈ value.site?, objects site = value)
      (settled : value.Settled objects) (parts : ∀ part ∈ value.parts, Stands objects part) :
      Stands objects value

variable {objects : Site → Value} {value other : Value} {site place : Site}

namespace Stands

theorem placed (stands : value.Stands objects) (found : value.site? = some site) :
    objects site = value := by
  cases stands with
  | intro placed _ _ => exact placed site found

theorem settled (stands : value.Stands objects) : value.Settled objects := by
  cases stands with
  | intro _ settled _ => exact settled

theorem part {piece : Value} (stands : value.Stands objects) (member : piece ∈ value.parts) :
    piece.Stands objects := by
  cases stands with
  | intro _ _ parts => exact parts piece member

theorem eq_of_site (stands : value.Stands objects) (otherStands : other.Stands objects)
    (found : value.site? = some site) (otherFound : other.site? = some site) : value = other :=
  (stands.placed found).symm.trans (otherStands.placed otherFound)

end Stands

theorem stands_of_siteless (siteless : value.site? = Option.none) (settled : value.Settled objects)
    (partless : value.parts = []) : value.Stands objects :=
  .intro (by simp [siteless]) settled (by simp [partless])

theorem stands_of_placed (found : value.site? = some site) (placed : objects site = value)
    (settled : value.Settled objects) (parts : ∀ part ∈ value.parts, part.Stands objects) :
    value.Stands objects :=
  .intro (by simp [found, placed]) settled parts

theorem stands_callable {function : Callable}
    (placed : objects function.site = .callable function) :
    (Value.callable function).Stands objects :=
  stands_of_placed rfl placed trivial (List.forall_mem_nil _)

theorem agrees_iff :
    value.agrees other = true ↔ value.identical other = true ∨ value.same other = .ok true := by
  rw [agrees, Bool.or_eq_true, decide_eq_true_eq]
  cases value.same other <;> simp [Except.toOption]

theorem agreement_iff :
    agreement (value.identical other) (value.same other) = .ok true ↔ value.agrees other = true := by
  rw [agrees_iff, agreement]
  cases value.identical other <;> simp

theorem bothHold_iff {first second : Except Fault Bool} :
    bothHold first second = .ok true ↔ first = .ok true ∧ second = .ok true := by
  rcases first with fault | _ | _ <;> simp [bothHold]

theorem agreement_guard_iff {tree beside : Guard} :
    agreement ((Value.guard tree).identical (.guard beside)) (tree.same beside) = .ok true ↔
      (Value.guard tree).agrees (.guard beside) = true := agreement_iff

theorem agreement_post_iff {tree beside : PostGuard} :
    agreement ((Value.post tree).identical (.post beside)) (tree.same beside) = .ok true ↔
      (Value.post tree).agrees (.post beside) = true := agreement_iff

theorem identical_self (found : value.site? = some site) : value.identical value = true := by
  cases value <;> simp only [site?, reduceCtorEq] at found
  case type expr => cases expr <;> simp_all [identical, TypeExpr.identical, TypeExpr.site?]
  case tuple items => cases items <;> simp [identical, site?]
  all_goals simp [identical, site?]

/-- The same object is one value, save that the tuple without items is one object at all sites. -/
theorem eq_of_identical (stands : value.Stands objects) (otherStands : other.Stands objects)
    (identical : value.identical other = true) :
    value = other ∨ ∃ site place, value = .tuple site [] ∧ other = .tuple place [] := by
  fun_cases Value.identical value other
  all_goals simp only [Value.identical, decide_eq_true_eq, Bool.false_eq_true] at identical
  case case6 expr another =>
    left
    fun_cases TypeExpr.identical expr another
    all_goals simp only [TypeExpr.identical, decide_eq_true_eq, Bool.false_eq_true] at identical
    case case4 site place found otherFound _ _ _ =>
      simp only [found, otherFound, decide_eq_true_eq] at identical
      exact stands.eq_of_site otherStands found (identical ▸ otherFound)
    all_goals simp_all
  case case8 => exact .inr ⟨_, _, rfl, rfl⟩
  case case9 site place found otherFound _ _ _ _ _ _ _ _ =>
    simp only [found, otherFound, decide_eq_true_eq] at identical
    exact .inl (stands.eq_of_site otherStands found (identical ▸ otherFound))
  all_goals simp_all

theorem same_of_functional (functional : value.Functional) (other : Value) :
    value.same other = .ok (value.identical other) := by
  cases functional <;> cases other <;> rfl

theorem same_self_functional (functional : value.Functional) : value.same value = .ok true := by
  rw [same_of_functional functional]
  cases functional <;> simp [identical, site?]

theorem agrees_refl (stands : value.Stands objects) : value.agrees value = true := by
  rw [agrees_iff]
  cases found : value.site? with
  | some site => exact .inl (identical_self found)
  | none =>
      cases value <;> simp only [site?, reduceCtorEq] at found
      case bound function receiver =>
        obtain ⟨functional, -, site, anchored, -⟩ := stands.settled
        right
        rw [Value.same, bothHold_iff, identical_self anchored]
        exact ⟨same_self_functional functional, rfl⟩
      case type expr => exact .inr (congrArg Except.ok expr.same_refl)
      all_goals simp [identical]

/-- A value that nothing but itself agrees with: it is compared by identity. -/
def Distinct (objects : Site → Value) (value : Value) : Prop :=
  ∀ other : Value, other.Stands objects → value.agrees other = true → value = other

theorem distinct_of_identity (stands : value.Stands objects) (whole : ∀ site, value ≠ .tuple site [])
    (identity : ∀ other, value.same other = .ok true → value.identical other = true) :
    value.Distinct objects := by
  intro other otherStands agrees
  have identical : value.identical other = true := by
    rcases agrees_iff.mp agrees with identical | same
    · exact identical
    · exact identity other same
  rcases eq_of_identical stands otherStands identical with equal | ⟨site, _, empty, -⟩
  · exact equal
  · exact absurd empty (whole site)

theorem distinct_callable {function : Callable} (stands : (Value.callable function).Stands objects) :
    (Value.callable function).Distinct objects := by
  refine distinct_of_identity stands nofun ?_
  intro other same
  cases other <;> simpa [Value.same, sameNumber?] using same

theorem distinct_functional (stands : value.Stands objects) (functional : value.Functional) :
    value.Distinct objects := by
  refine distinct_of_identity stands ?_ fun other same => ?_
  · rintro site rfl
    cases functional
  · rw [same_of_functional functional] at same
    exact Except.ok.inj same

theorem identical_iff_of_sites (found : value.site? = some site) (otherFound : other.site? = some place)
    (whole : ∀ site items, value ≠ .tuple site items) :
    value.identical other = true ↔ site = place := by
  fun_cases Value.identical value other
  case case6 expr another =>
    simp only [site?] at found otherFound
    fun_cases TypeExpr.identical expr another <;> simp_all [TypeExpr.site?]
  case case8 => exact absurd rfl (whole _ _)
  all_goals simp_all [site?]

end Value

/-- Guards of one shape: the same functions and leaves, and errors that agree. -/
inductive Guard.Alike : Guard → Guard → Prop where
  | pair (operator : Operator) {site place : Site} {left right first second : Guard}
      (before : Alike left first) (after : Alike right second) :
      Alike (operator.pair site left right) (operator.pair place first second)
  | allowAll (site place : Site) : Alike (.allowAll site) (.allowAll place)
  | denyAll {site place : Site} {error other : Value} (errors : error.agrees other = true) :
      Alike (.denyAll site error) (.denyAll place other)
  | function {site place : Site} {callable error other name title : Value}
      (errors : error.agrees other = true) :
      Alike (.function site callable error name) (.function place callable other title)
  | leaf (site : Site) (cls : ClassId) (given : Leaf) :
      Alike (.leaf site cls given) (.leaf site cls given)

/-- Post guards of one shape, whatever they are pinned to and whatever type conjunctions derive. -/
inductive PostGuard.Alike : PostGuard → PostGuard → Prop where
  | both {site place : Site} {pin tag resultType kind : Value} {left right first second : PostGuard}
      (before : Alike left first) (after : Alike right second) :
      Alike (.both site pin left right resultType) (.both place tag first second kind)
  | function {site place : Site} {pin tag callable error other resultType kind name title : Value}
      (errors : error.agrees other = true) (types : resultType.agrees kind = true) :
      Alike (.function site pin callable error resultType name)
        (.function place tag callable other kind title)
  | leaf (site : Site) (cls : ClassId) (kin : List String) (pin : Value) (given : Leaf) :
      Alike (.leaf site cls kin pin given) (.leaf site cls kin pin given)

/-- The functions of a guard are compared by identity. -/
def Guard.Distinct (objects : Site → Value) : Guard → Prop
  | .both _ left right | .either _ left right => left.Distinct objects ∧ right.Distinct objects
  | .function _ callable _ _ => callable.Distinct objects
  | .allowAll _ | .denyAll .. | .leaf .. => True

/-- The functions and the leaves of a post guard are compared by identity: no leaf takes the
comparison of a library class for its own. -/
def PostGuard.Distinct (objects : Site → Value) : PostGuard → Prop
  | .both _ _ left right _ => left.Distinct objects ∧ right.Distinct objects
  | .function _ _ callable _ _ _ => callable.Distinct objects
  | .leaf _ _ kin _ _ => kin = []

open Value

namespace Guard

variable {objects : Site → Value} {operator : Operator} {tree other left right first second : Guard}
  {site place : Site}

theorem same_pair :
    (operator.pair site left right).same (operator.pair place first second) = .ok true ↔
      (Value.guard left).agrees (.guard first) = true ∧
        (Value.guard right).agrees (.guard second) = true := by
  rw [← agreement_guard_iff, ← agreement_guard_iff, ← bothHold_iff]
  cases operator <;> rfl

theorem stands_pair (stands : (Value.guard (operator.pair site left right)).Stands objects) :
    (Value.guard left).Stands objects ∧ (Value.guard right).Stands objects := by
  cases operator <;> exact ⟨stands.part (by simp [Operator.pair, Value.parts, parts]),
    stands.part (by simp [Operator.pair, Value.parts, parts])⟩

theorem stands_function {callable error name : Value}
    (stands : (Value.guard (.function site callable error name)).Stands objects) :
    callable.Stands objects ∧ error.Stands objects :=
  ⟨stands.part (by simp [Value.parts, parts]), stands.part (by simp [Value.parts, parts])⟩

theorem distinct_pair :
    (operator.pair site left right).Distinct objects ↔
      left.Distinct objects ∧ right.Distinct objects := by
  cases operator <;> rfl

theorem alike_refl (stands : (Value.guard tree).Stands objects) : tree.Alike tree := by
  induction tree using pairInduction with
  | pair operator site left right leftIH rightIH =>
      obtain ⟨leftStands, rightStands⟩ := stands_pair stands
      exact .pair operator (leftIH leftStands) (rightIH rightStands)
  | leaf tree isLeaf =>
      cases tree with
      | both | either => cases isLeaf
      | allowAll site => exact .allowAll site site
      | denyAll site error => exact .denyAll (agrees_refl (stands.part List.mem_cons_self))
      | function site callable error name =>
          exact .function (agrees_refl (stands_function stands).2)
      | leaf site cls given => exact .leaf site cls given

theorem exists_pair_of_same (same : (operator.pair site left right).same other = .ok true) :
    ∃ place first second, other = operator.pair place first second := by
  cases operator <;> cases other <;> simp [Operator.pair, Guard.same] at same ⊢

theorem alike_of_identical (stands : (Value.guard tree).Stands objects)
    (otherStands : (Value.guard other).Stands objects)
    (identical : (Value.guard tree).identical (.guard other) = true) : tree.Alike other := by
  rcases eq_of_identical stands otherStands identical with equal | ⟨_, _, absent, -⟩
  · cases equal
    exact alike_refl stands
  · cases absent

theorem alike_of_same (stands : (Value.guard tree).Stands objects)
    (otherStands : (Value.guard other).Stands objects) (distinct : tree.Distinct objects)
    (same : tree.same other = .ok true) : tree.Alike other := by
  induction tree using pairInduction generalizing other with
  | pair operator site left right leftIH rightIH =>
      obtain ⟨place, first, second, rfl⟩ := exists_pair_of_same same
      obtain ⟨leftStands, rightStands⟩ := stands_pair stands
      obtain ⟨firstStands, secondStands⟩ := stands_pair otherStands
      obtain ⟨leftDistinct, rightDistinct⟩ := distinct_pair.mp distinct
      obtain ⟨before, after⟩ := same_pair.mp same
      apply Alike.pair operator
      · rcases agrees_iff.mp before with identical | equal
        · exact alike_of_identical leftStands firstStands identical
        · exact leftIH leftStands firstStands leftDistinct equal
      · rcases agrees_iff.mp after with identical | equal
        · exact alike_of_identical rightStands secondStands identical
        · exact rightIH rightStands secondStands rightDistinct equal
  | leaf tree isLeaf =>
      cases tree with
      | both | either => cases isLeaf
      | allowAll site =>
          cases other <;> simp [Guard.same] at same
          exact .allowAll site _
      | denyAll site error =>
          cases other <;> simp only [Guard.same, agreement_iff, Except.ok.injEq, Bool.false_eq_true] at same
          exact .denyAll same
      | function site callable error name =>
          cases other <;> simp only [Guard.same, bothHold_iff, agreement_iff, Except.ok.injEq,
            Bool.false_eq_true] at same
          rename_i place also another title
          have callables := distinct also (stands_function otherStands).1 same.1
          exact callables ▸ .function same.2
      | leaf site cls given =>
          cases other <;> simp only [Guard.same, Except.ok.injEq, decide_eq_true_eq, Bool.false_eq_true] at same
          have one := stands.eq_of_site otherStands rfl (congrArg some same.symm)
          rw [Value.guard.injEq] at one
          exact one ▸ .leaf site cls given

theorem same_of_alike (stands : (Value.guard tree).Stands objects)
    (alike : tree.Alike other) : tree.same other = .ok true := by
  induction alike with
  | pair operator before after leftIH rightIH =>
      obtain ⟨leftStands, rightStands⟩ := stands_pair stands
      exact same_pair.mpr
        ⟨agrees_iff.mpr (.inr (leftIH leftStands)), agrees_iff.mpr (.inr (rightIH rightStands))⟩
  | allowAll => rfl
  | denyAll errors => exact agreement_iff.mpr errors
  | function errors =>
      have callables := agrees_refl (stands_function stands).1
      exact bothHold_iff.mpr ⟨agreement_iff.mpr callables, agreement_iff.mpr errors⟩
  | leaf site given => simp [Guard.same]

/-- Equality finds the guards that are alike. -/
theorem same_iff_alike (stands : (Value.guard tree).Stands objects)
    (otherStands : (Value.guard other).Stands objects) (distinct : tree.Distinct objects) :
    tree.same other = .ok true ↔ tree.Alike other :=
  ⟨alike_of_same stands otherStands distinct, same_of_alike stands⟩

end Guard

namespace PostGuard

variable {objects : Site → Value} {tree other left right : PostGuard} {site : Site}
  {pin callable error kind name : Value}

theorem stands_both (stands : (Value.post (.both site pin left right kind)).Stands objects) :
    (Value.post left).Stands objects ∧ (Value.post right).Stands objects :=
  ⟨stands.part (by simp [Value.parts, parts]), stands.part (by simp [Value.parts, parts])⟩

theorem stands_function
    (stands : (Value.post (.function site pin callable error kind name)).Stands objects) :
    callable.Stands objects ∧ error.Stands objects ∧ kind.Stands objects :=
  ⟨stands.part (by simp [Value.parts, parts]), stands.part (by simp [Value.parts, parts]),
    stands.part (by simp [Value.parts, parts])⟩

theorem alike_refl (stands : (Value.post tree).Stands objects) : tree.Alike tree := by
  induction tree using treeInduction with
  | both site pin left right resultType leftIH rightIH =>
      obtain ⟨leftStands, rightStands⟩ := stands_both stands
      exact .both (leftIH leftStands) (rightIH rightStands)
  | leaf tree isLeaf =>
      cases tree with
      | both => cases isLeaf
      | function site pin callable error resultType name =>
          obtain ⟨-, errorStands, kindStands⟩ := stands_function stands
          exact .function (agrees_refl errorStands) (agrees_refl kindStands)
      | leaf site cls kin pin given => exact .leaf site cls kin pin given

theorem alike_of_identical (stands : (Value.post tree).Stands objects)
    (otherStands : (Value.post other).Stands objects)
    (identical : (Value.post tree).identical (.post other) = true) : tree.Alike other := by
  rcases eq_of_identical stands otherStands identical with equal | ⟨_, _, absent, -⟩
  · cases equal
    exact alike_refl stands
  · cases absent

theorem alike_of_same (stands : (Value.post tree).Stands objects)
    (otherStands : (Value.post other).Stands objects) (distinct : tree.Distinct objects)
    (same : tree.same other = .ok true) : tree.Alike other := by
  induction tree using treeInduction generalizing other with
  | both site pin left right resultType leftIH rightIH =>
      cases other <;> simp only [PostGuard.same, bothHold_iff, agreement_post_iff, Except.ok.injEq,
        Bool.false_eq_true] at same
      obtain ⟨leftStands, rightStands⟩ := stands_both stands
      obtain ⟨firstStands, secondStands⟩ := stands_both otherStands
      apply Alike.both
      · rcases agrees_iff.mp same.1 with identical | equal
        · exact alike_of_identical leftStands firstStands identical
        · exact leftIH leftStands firstStands distinct.1 equal
      · rcases agrees_iff.mp same.2 with identical | equal
        · exact alike_of_identical rightStands secondStands identical
        · exact rightIH rightStands secondStands distinct.2 equal
  | leaf tree isLeaf =>
      cases tree with
      | both => cases isLeaf
      | function site pin callable error resultType name =>
          cases other <;> simp only [PostGuard.same, bothHold_iff, agreement_iff, Except.ok.injEq,
            Bool.false_eq_true] at same
          rename_i place tag also another kind title
          have callables := distinct also (stands_function otherStands).1 same.1
          exact callables ▸ .function same.2.1 same.2.2
      | leaf site cls kin pin given =>
          have plain : kin = [] := distinct
          subst plain
          cases other <;> simp only [PostGuard.same, Except.ok.injEq, decide_eq_true_eq,
            Bool.false_eq_true] at same
          have one := stands.eq_of_site otherStands rfl (congrArg some same.symm)
          rw [Value.post.injEq] at one
          exact one ▸ .leaf site cls [] pin given

theorem same_of_alike (stands : (Value.post tree).Stands objects) (distinct : tree.Distinct objects)
    (alike : tree.Alike other) : tree.same other = .ok true := by
  induction alike with
  | both before after leftIH rightIH =>
      obtain ⟨leftStands, rightStands⟩ := stands_both stands
      have beforeSame := leftIH leftStands distinct.1
      have afterSame := rightIH rightStands distinct.2
      simp only [PostGuard.same, bothHold_iff, agreement_post_iff]
      exact ⟨agrees_iff.mpr (.inr beforeSame), agrees_iff.mpr (.inr afterSame)⟩
  | function errors types =>
      have callables := agrees_refl (stands_function stands).1
      exact bothHold_iff.mpr ⟨agreement_iff.mpr callables,
        bothHold_iff.mpr ⟨agreement_iff.mpr errors, agreement_iff.mpr types⟩⟩
  | leaf site cls kin pin given =>
      have plain : kin = [] := distinct
      subst plain
      simp [PostGuard.same]

/-- Equality finds the post guards that are alike. -/
theorem same_iff_alike (stands : (Value.post tree).Stands objects)
    (otherStands : (Value.post other).Stands objects) (distinct : tree.Distinct objects) :
    tree.same other = .ok true ↔ tree.Alike other :=
  ⟨alike_of_same stands otherStands distinct, same_of_alike stands distinct⟩

end PostGuard

end GuardAlgebra
