import GuardAlgebra.Proofs.Agreement
import GuardAlgebra.Proofs.Attributes
import GuardAlgebra.Proofs.Sequence

namespace GuardAlgebra

/-! # The types of guards

A guard inspects the type it names, or the one it is pinned to, or the one its class inherits. A
conjunction names the type that was found when it was made, and it can be pinned but inherits none.
-/

/-- The type of what a pin says. -/
def pinType? (pin : Value) : Option Value := (firstArgument? pin).bind concrete?

/-- What the library says of the class of conjunctions: it has no pin and inherits no type. -/
structure Facts.ConjunctionUntyped (facts : Facts) : Prop where
  unpinned : facts.member? (.known "PostAnd") pinAttribute = none
  inherits : facts.hierarchy.inheritedType? (.known "PostAnd") = none

/-- A refusal to compose guards. -/
inductive Misfit : Exception → Prop where
  | misfit (site : Site) (message : String) (details : List (String × String)) :
      Misfit (.misfit site message details)

section Types

variable {facts : Facts} {site : Site} {value one other pin : Value} {first second : Option Value}

theorem concrete?_of_concrete? (found : concrete? value = some one) : concrete? one = some one := by
  cases value with
  | none => exact nomatch found
  | type expr =>
      cases concrete : expr.isConcrete with
      | false => simp [concrete?, concrete] at found
      | true =>
          simp only [concrete?, concrete, ↓reduceIte, Option.some.injEq] at found
          rw [← found]
          simp only [concrete?, concrete, ↓reduceIte]
  | _ =>
      cases found
      rfl

theorem concrete_of_inherited {hierarchy : Hierarchy} {cls : ClassId}
    (inherits : hierarchy.inheritedType? cls = some one) : concrete? one = some one := by
  obtain ⟨ancestor, -, found⟩ := List.exists_of_findSome?_eq_some inherits
  obtain ⟨base, -, found⟩ := List.exists_of_findSome?_eq_some found
  obtain ⟨origin, -, found⟩ := Option.bind_eq_some_iff.mp found
  cases descends : hierarchy.descends origin postGuardClass with
  | false => simp [descends] at found
  | true =>
      simp only [descends, ↓reduceIte] at found
      obtain ⟨argument, -, found⟩ := Option.bind_eq_some_iff.mp found
      exact concrete?_of_concrete? found

theorem concrete_of_named (named : facts.namedType? value = some one) :
    concrete? one = some one := by
  obtain ⟨held, -, found⟩ := Option.bind_eq_some_iff.mp named
  exact concrete?_of_concrete? found

theorem concrete_of_pinned (pinned : facts.pinnedType? value = some one) :
    concrete? one = some one := by
  obtain ⟨held, -, found⟩ := Option.bind_eq_some_iff.mp pinned
  exact concrete?_of_concrete? found

/-- A guard that is not pinned to another type than the one it names inspects the first type it has:
named, pinned or inherited. -/
theorem resultType_of_meets (site : Site)
    (meets : Meets (facts.namedType? value) (facts.pinnedType? value)) :
    facts.resultType value site =
      .ok (((facts.namedType? value).or (facts.pinnedType? value)).or
        (facts.hierarchy.inheritedType? value.cls)) := by
  rw [Facts.resultType]
  cases named : facts.namedType? value with
  | none => cases pinned : facts.pinnedType? value <;> rfl
  | some type =>
      cases pinned : facts.pinnedType? value with
      | none => rfl
      | some pin =>
          have same := meets type named pin pinned
          simp only [same]
          rfl

theorem depict_of_worded (worded : facts.obstacle? value = none) :
    facts.depict value = .ok (facts.display value) := by
  rw [Facts.depict, worded]

/-- A refusal puts two types into words, one after the other, and fails where that fails. -/
theorem refusal_raises {α : Type} (facts : Facts) (site : Site) (one other : Value)
    {refusal : String → String → Exception} (misfits : ∀ first second, Misfit (refusal first second)) :
    ∃ cause, (facts.obstacle? one = none → facts.obstacle? other = none → Misfit cause) ∧
      (do
        let first ← attempt site (facts.depict one)
        let second ← attempt site (facts.depict other)
        throw (refusal first second) : Attempt α) = .error cause := by
  cases oneDepicted : facts.depict one with
  | error fault =>
      refine ⟨.fault site fault, ?_, rfl⟩
      intro oneWorded
      rw [depict_of_worded oneWorded] at oneDepicted
      exact nomatch oneDepicted
  | ok first =>
      cases otherDepicted : facts.depict other with
      | error fault =>
          refine ⟨.fault site fault, ?_, rfl⟩
          intro _ otherWorded
          rw [depict_of_worded otherWorded] at otherDepicted
          exact nomatch otherDepicted
      | ok second => exact ⟨refusal first second, fun _ _ => misfits first second, rfl⟩

theorem resultType_of_clash (site : Site) (named : facts.namedType? value = some one)
    (pinned : facts.pinnedType? value = some other) (differ : one.same other = .ok false) :
    ∃ cause, (facts.obstacle? one = none → facts.obstacle? other = none → Misfit cause) ∧
      facts.resultType value site = .error cause := by
  obtain ⟨cause, misfit, raised⟩ := refusal_raises facts site other one
    fun declared inspected => .misfit site _ [("declared", declared), ("result_type", inspected)]
  refine ⟨cause, fun oneWorded otherWorded => misfit otherWorded oneWorded, ?_⟩
  rw [Facts.resultType, named, pinned]
  simp only [differ]
  exact raised

theorem meets_of_resultType {type? : Option Value}
    (resolves : facts.resultType value site = .ok type?) :
    Meets (facts.namedType? value) (facts.pinnedType? value) := by
  intro type named pin pinned
  rw [Facts.resultType, named, pinned] at resolves
  obtain ⟨truth, compared, resolves⟩ := Attempt.bind_eq_ok.mp resolves
  cases same : type.same pin with
  | error fault =>
      rw [same] at compared
      exact nomatch compared
  | ok verdict =>
      rw [same] at compared
      cases compared
      cases truth with
      | true => rfl
      | false =>
          obtain ⟨declared, -, resolves⟩ := Attempt.bind_eq_ok.mp resolves
          obtain ⟨inspected, -, resolves⟩ := Attempt.bind_eq_ok.mp resolves
          exact nomatch resolves

theorem concrete_of_resultType (resolves : facts.resultType value site = .ok (some one)) :
    concrete? one = some one := by
  rw [resultType_of_meets site (meets_of_resultType resolves), Except.ok.injEq] at resolves
  rcases Option.or_eq_some_iff.mp resolves with found | ⟨-, inherits⟩
  · rcases Option.or_eq_some_iff.mp found with named | ⟨-, pinned⟩
    · exact concrete_of_named named
    · exact concrete_of_pinned pinned
  · exact concrete_of_inherited inherits

theorem joinedType_of_meets (site : Site) (meets : Meets first second) :
    PostGuard.joinedType facts site first second = .ok ((first.or second).getD .none) := by
  cases first with
  | none => cases second <;> rfl
  | some one =>
      cases second with
      | none => rfl
      | some other =>
          have same := meets one rfl other rfl
          simp only [PostGuard.joinedType, same]
          rfl

theorem joinedType_of_clash (site : Site) (differ : one.same other = .ok false) :
    ∃ cause, (facts.obstacle? one = none → facts.obstacle? other = none → Misfit cause) ∧
      PostGuard.joinedType facts site (some one) (some other) = .error cause := by
  simp only [PostGuard.joinedType, differ]
  exact refusal_raises facts site one other fun first second =>
    .misfit site _ [("left", first), ("right", second)]

end Types

section Node

variable {facts : Facts} {place : Site} {pin : Value} {left right : PostGuard}
  {type? : Option Value}

/-- What a conjunction has: its parts, its type and its pin, and what its class has. -/
theorem read?_both (unwritten : ∀ name, facts.store.find? (.object place) name = none)
    (name : String) (resultType : Value) :
    facts.read? (.post (.both place pin left right resultType)) name =
      (entryOf? (PostGuard.both place pin left right resultType).own name).or
        ((facts.member? (.known "PostAnd") name).map
          (Value.post (.both place pin left right resultType)).boundTo) := by
  have object : ∀ expr, Value.post (.both place pin left right resultType) ≠ .type expr := nofun
  have read := facts.read?_of_unwritten object (unwritten name)
  rw [read, show (Value.post (.both place pin left right resultType)).slot? name = none from rfl,
    Option.map_none, Option.or_none]
  rfl

theorem namedType?_both (unwritten : ∀ name, facts.store.find? (.object place) name = none)
    (concrete : ∀ type ∈ type?, concrete? type = some type) :
    facts.namedType? (.post (.both place pin left right (type?.getD .none))) = type? := by
  have own : entryOf? (PostGuard.both place pin left right (type?.getD .none)).own "result_type" =
      some (type?.getD .none) := rfl
  rw [Facts.namedType?, read?_both unwritten, own, Option.some_or, Option.bind_some]
  cases type? with
  | none => rfl
  | some type => exact concrete type rfl

theorem pinnedType?_both (unwritten : ∀ name, facts.store.find? (.object place) name = none)
    (library : facts.ConjunctionUntyped) (resultType : Value) :
    facts.pinnedType? (.post (.both place pin left right resultType)) = pinType? pin := by
  rw [Facts.pinnedType?, read?_both unwritten, library.unpinned, pinType?]
  cases pin <;> rfl

/-- The type of a conjunction is that of its parts, or else the one it is pinned to. -/
theorem resultType_both (unwritten : ∀ name, facts.store.find? (.object place) name = none)
    (library : facts.ConjunctionUntyped) (concrete : ∀ type ∈ type?, concrete? type = some type)
    (meets : Meets type? (pinType? pin)) (site : Site) :
    facts.resultType (.post (.both place pin left right (type?.getD .none))) site =
      .ok (type?.or (pinType? pin)) := by
  have named : facts.namedType? (.post (.both place pin left right (type?.getD .none))) = type? :=
    namedType?_both unwritten concrete
  have pinned : facts.pinnedType? (.post (.both place pin left right (type?.getD .none))) =
      pinType? pin := pinnedType?_both unwritten library _
  rw [← named, ← pinned] at meets
  have inherits : facts.hierarchy.inheritedType?
      (Value.post (.both place pin left right (type?.getD .none))).cls = none := library.inherits
  rw [resultType_of_meets site meets, named, pinned, inherits, Option.or_none]

end Node

end GuardAlgebra
