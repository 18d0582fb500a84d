import GuardAlgebra.Proofs.Hashes
import GuardAlgebra.Proofs.Typing

namespace GuardAlgebra

/-! # Equal post guards in conjunctions

Equality compares the types that post guards name and not those that they are pinned to. Guards that
are equal and have equal pins throughout have the same type, or fail to have one alike, and either can
stand for the other in a conjunction.
-/

/-- Equal types, or none both times. -/
abbrev SameType : Option Value → Option Value → Prop :=
  Option.Rel fun one other => one.same other = .ok true

/-- The same type is found out, or finding it out fails both times. -/
inductive SameOutcome : Attempt (Option Value) → Attempt (Option Value) → Prop where
  | fails (cause another : Exception) : SameOutcome (.error cause) (.error another)
  | finds {first second : Option Value} (same : SameType first second) :
      SameOutcome (.ok first) (.ok second)

/-- The types that an object names, is pinned to and inherits. -/
def Facts.typesAt (facts : Facts) (value : Value) : List Value :=
  (facts.namedType? value).toList ++ (facts.pinnedType? value).toList ++
    (facts.hierarchy.inheritedType? value.cls).toList

namespace PostGuard

/-- The types at all nodes of a tree. -/
def types (facts : Facts) : PostGuard → List Value
  | .both site pin left right kind =>
      facts.typesAt (.post (.both site pin left right kind)) ++ left.types facts ++ right.types facts
  | .function site pin callable error kind name =>
      facts.typesAt (.post (.function site pin callable error kind name))
  | .leaf site cls kin pin given => facts.typesAt (.post (.leaf site cls kin pin given))

/-- The conjunctions of a tree are what joining their parts makes, and the types that library guards
name are those they were made with. -/
inductive Made (facts : Facts) : PostGuard → Prop where
  | both {site : Site} {pin kind : Value} {left right : PostGuard} (before : Made facts left)
      (after : Made facts right)
      (joins : conjoin facts site pin (.post left) (.post right) =
        .ok (.both site pin left right kind))
      (kept : facts.store.find? (.object site) "result_type" = none) :
      Made facts (.both site pin left right kind)
  | function {site : Site} {pin callable error kind name : Value}
      (kept : facts.store.find? (.object site) "result_type" = none) :
      Made facts (.function site pin callable error kind name)
  | leaf {site : Site} {cls : ClassId} {kin : List String} {pin : Value} {given : Leaf} :
      Made facts (.leaf site cls kin pin given)

/-- The library guards of two trees are pinned to equal types, or not at all, node by node. -/
def PinnedAlike (facts : Facts) : PostGuard → PostGuard → Prop
  | .both site pin left right kind, .both place tag first second type =>
      SameType (facts.pinnedType? (.post (.both site pin left right kind)))
          (facts.pinnedType? (.post (.both place tag first second type))) ∧
        left.PinnedAlike facts first ∧ right.PinnedAlike facts second
  | .function site pin callable error kind name, other =>
      SameType (facts.pinnedType? (.post (.function site pin callable error kind name)))
        (facts.pinnedType? (.post other))
  | _, _ => True

end PostGuard

variable {facts : Facts} {objects : Site → Value} {types : List Value}
  {first second another last : Option Value}

namespace SameType

theorem refl (comparable : Comparable types) (within : first.toList ⊆ types) :
    SameType first first := by
  cases first with
  | none => exact .none
  | some type => exact .some (comparable.refl type (within (by simp)))

theorem symm (comparable : Comparable types) (within : first.toList ⊆ types)
    (otherWithin : second.toList ⊆ types) (same : SameType first second) : SameType second first := by
  cases same with
  | none => exact .none
  | some equal =>
      exact .some (comparable.symm _ (within (by simp)) _ (otherWithin (by simp)) equal)

theorem or (same : SameType first second) (otherwise : SameType another last) :
    SameType (first.or another) (second.or last) := by
  cases same with
  | none => exact otherwise
  | some equal => exact .some equal

end SameType

theorem meets_of_same (comparable : Comparable types) (within : first.toList ⊆ types)
    (secondWithin : second.toList ⊆ types) (anotherWithin : another.toList ⊆ types)
    (lastWithin : last.toList ⊆ types) (same : SameType first another) (also : SameType second last)
    (meets : Meets first second) : Meets another last := by
  intro one isOne other isOther
  cases same with
  | none => cases isOne
  | @some type _ equal =>
      cases also with
      | none => cases isOther
      | @some kind _ alike =>
          cases isOne
          cases isOther
          have inFirst := within (Option.mem_toList.mpr rfl)
          have inSecond := secondWithin (Option.mem_toList.mpr rfl)
          have inAnother := anotherWithin (Option.mem_toList.mpr rfl)
          have inLast := lastWithin (Option.mem_toList.mpr rfl)
          have back := comparable.symm type inFirst one inAnother equal
          have across := comparable.trans one inAnother type inFirst kind inSecond back
            (meets type rfl kind rfl)
          exact comparable.trans one inAnother kind inSecond other inLast across alike

section Outcome

variable {value other : Value}

theorem named_subset (value : Value) : (facts.namedType? value).toList ⊆ facts.typesAt value :=
  fun _ member => List.mem_append_left _ (List.mem_append_left _ member)

theorem pinned_subset (value : Value) : (facts.pinnedType? value).toList ⊆ facts.typesAt value :=
  fun _ member => List.mem_append_left _ (List.mem_append_right _ member)

theorem inherited_subset (value : Value) :
    (facts.hierarchy.inheritedType? value.cls).toList ⊆ facts.typesAt value :=
  fun _ member => List.mem_append_right _ member

theorem found_subset {site : Site} (found : facts.resultType value site = .ok first) :
    first.toList ⊆ facts.typesAt value := by
  rw [resultType_of_meets site (meets_of_resultType found), Except.ok.injEq] at found
  subst found
  intro type member
  rw [Option.mem_toList, Option.or_eq_some_iff, Option.or_eq_some_iff] at member
  rcases member with (named | ⟨-, pinned⟩) | ⟨-, inherited⟩
  · exact named_subset value (Option.mem_toList.mpr named)
  · exact pinned_subset value (Option.mem_toList.mpr pinned)
  · exact inherited_subset value (Option.mem_toList.mpr inherited)

theorem exists_failure (comparable : Comparable types) (within : facts.typesAt value ⊆ types)
    (differ : ¬ Meets (facts.namedType? value) (facts.pinnedType? value)) (site : Site) :
    ∃ cause, facts.resultType value site = .error cause := by
  obtain ⟨one, other, named, pinned, different⟩ := exists_of_not_meets differ
    fun one isOne other isOther => comparable.decided
      one (within (named_subset value (Option.mem_toList.mpr isOne)))
      other (within (pinned_subset value (Option.mem_toList.mpr isOther)))
  obtain ⟨cause, -, failed⟩ := resultType_of_clash site named pinned different
  exact ⟨cause, failed⟩

theorem sameOutcome_of_sameTypes (comparable : Comparable types)
    (within : facts.typesAt value ⊆ types) (otherWithin : facts.typesAt other ⊆ types)
    (named : SameType (facts.namedType? value) (facts.namedType? other))
    (pinned : SameType (facts.pinnedType? value) (facts.pinnedType? other))
    (classes : value.cls = other.cls) (site place : Site) :
    SameOutcome (facts.resultType value site) (facts.resultType other place) := by
  have namedWithin := List.Subset.trans (named_subset value) within
  have pinnedWithin := List.Subset.trans (pinned_subset value) within
  have otherNamedWithin := List.Subset.trans (named_subset other) otherWithin
  have otherPinnedWithin := List.Subset.trans (pinned_subset other) otherWithin
  by_cases meets : Meets (facts.namedType? value) (facts.pinnedType? value)
  · have otherMeets := meets_of_same comparable namedWithin pinnedWithin otherNamedWithin
      otherPinnedWithin named pinned meets
    rw [resultType_of_meets site meets, resultType_of_meets place otherMeets, ← classes]
    exact .finds ((named.or pinned).or
      (SameType.refl comparable (List.Subset.trans (inherited_subset value) within)))
  · have otherDiffer : ¬ Meets (facts.namedType? other) (facts.pinnedType? other) := by
      intro otherMeets
      exact meets (meets_of_same comparable otherNamedWithin otherPinnedWithin namedWithin
        pinnedWithin (named.symm comparable namedWithin otherNamedWithin)
        (pinned.symm comparable pinnedWithin otherPinnedWithin) otherMeets)
    obtain ⟨cause, failed⟩ := exists_failure comparable within meets site
    obtain ⟨another, alsoFailed⟩ := exists_failure comparable otherWithin otherDiffer place
    rw [failed, alsoFailed]
    exact .fails cause another

theorem sameOutcome_self (comparable : Comparable types) (within : facts.typesAt value ⊆ types)
    (site place : Site) :
    SameOutcome (facts.resultType value site) (facts.resultType value place) :=
  sameOutcome_of_sameTypes comparable within within
    (SameType.refl comparable (List.Subset.trans (named_subset value) within))
    (SameType.refl comparable (List.Subset.trans (pinned_subset value) within)) rfl site place

end Outcome

theorem SameOutcome.exists_of_ok {outcome other : Attempt (Option Value)}
    (same : SameOutcome outcome other) (found : outcome = .ok first) :
    ∃ second, other = .ok second ∧ SameType first second := by
  cases same with
  | fails => cases found
  | finds equal =>
      cases found
      exact ⟨_, rfl, equal⟩

theorem SameOutcome.sameType (same : SameOutcome (.ok first) (.ok second)) :
    SameType first second := by
  cases same with
  | finds equal => exact equal

theorem SameOutcome.symm {outcome other : Attempt (Option Value)} (comparable : Comparable types)
    (within : ∀ first, outcome = .ok first → first.toList ⊆ types)
    (otherWithin : ∀ second, other = .ok second → second.toList ⊆ types)
    (same : SameOutcome outcome other) : SameOutcome other outcome := by
  cases same with
  | fails cause another => exact .fails another cause
  | finds equal => exact .finds (equal.symm comparable (within _ rfl) (otherWithin _ rfl))

namespace PostGuard

variable {one two left right tree : PostGuard} {site place : Site} {pin tag kind : Value}

theorem typesAt_subset (tree : PostGuard) : facts.typesAt (.post tree) ⊆ tree.types facts := by
  cases tree with
  | both => exact fun _ member => List.mem_append_left _ (List.mem_append_left _ member)
  | function | leaf => exact List.Subset.refl _

/-- What a library guard names is what it was made with. -/
theorem namedType?_kept (tree : PostGuard) (own : entryOf? tree.own "result_type" = some kind)
    (kept : facts.store.find? (.object tree.site) "result_type" = none) :
    facts.namedType? (.post tree) = concrete? kind := by
  have object : ∀ expr, Value.post tree ≠ .type expr := by
    rintro expr ⟨⟩
  have unwritten : facts.written? (.post tree) "result_type" = none := kept
  rw [Facts.namedType?, facts.read?_of_unwritten object unwritten, Value.own, own, Option.some_or,
    Option.some_or, Option.bind_some]

theorem namedType?_function {callable error name : Value}
    (kept : facts.store.find? (.object site) "result_type" = none) :
    facts.namedType? (.post (.function site pin callable error kind name)) = concrete? kind :=
  namedType?_kept _ rfl kept

theorem namedType?_conjunction (kept : facts.store.find? (.object site) "result_type" = none) :
    facts.namedType? (.post (.both site pin left right kind)) = concrete? kind :=
  namedType?_kept _ rfl kept

theorem concrete?_getD (concrete : ∀ type ∈ first, concrete? type = some type) :
    concrete? (first.getD .none) = first := by
  cases first with
  | none => rfl
  | some type => exact concrete type rfl

theorem meets_of_joinedType (joined : joinedType facts site first second = .ok kind) :
    Meets first second := by
  rintro type ⟨⟩ other ⟨⟩
  obtain ⟨truth, compared, joined⟩ := Attempt.bind_eq_ok.mp joined
  cases same : type.same other with
  | error fault =>
      rw [same] at compared
      cases compared
  | ok verdict =>
      rw [same] at compared
      cases compared
      cases truth with
      | true => rfl
      | false =>
          obtain ⟨leftText, -, joined⟩ := Attempt.bind_eq_ok.mp joined
          obtain ⟨rightText, -, joined⟩ := Attempt.bind_eq_ok.mp joined
          cases joined

/-- A conjunction is made of guards that have a type each, or none, where those meet. -/
theorem conjoin_eq_ok_iff :
    conjoin facts site pin (.post left) (.post right) = .ok tree ↔
      ∃ first second, facts.resultType (.post left) site = .ok first ∧
        facts.resultType (.post right) site = .ok second ∧ Meets first second ∧
        tree = .both site pin left right ((first.or second).getD .none) := by
  constructor
  · intro made
    cases leftType : facts.resultType (.post left) site with
    | error cause =>
        rw [Plan.conjoin_of_left_error leftType] at made
        cases made
    | ok first =>
        cases rightType : facts.resultType (.post right) site with
        | error cause =>
            rw [Plan.conjoin_of_right_error leftType rightType] at made
            cases made
        | ok second =>
            rw [Plan.conjoin_of_types leftType rightType] at made
            cases joined : joinedType facts site first second with
            | error cause =>
                rw [joined] at made
                cases made
            | ok kind =>
                have meets := meets_of_joinedType joined
                rw [joinedType_of_meets site meets] at made
                cases made
                exact ⟨first, second, rfl, rfl, meets, rfl⟩
  · rintro ⟨first, second, leftType, rightType, meets, rfl⟩
    rw [Plan.conjoin_of_types leftType rightType, joinedType_of_meets site meets]
    rfl

theorem isConcrete_of_same {expr other : TypeExpr} (same : expr.same other = true) :
    expr.isConcrete = other.isConcrete := by
  fun_cases TypeExpr.same expr other <;> simp_all [TypeExpr.same, TypeExpr.isConcrete]

theorem sameType_of_identical {value other : Value} (stands : value.Stands objects)
    (otherStands : other.Stands objects) (comparable : Comparable types)
    (within : (concrete? value).toList ⊆ types) (identical : value.identical other = true) :
    SameType (concrete? value) (concrete? other) := by
  rcases Value.eq_of_identical stands otherStands identical with rfl | ⟨_, _, rfl, rfl⟩
  · exact SameType.refl comparable within
  · exact .some rfl

theorem sameType_of_agrees {value other : Value} (stands : value.Stands objects)
    (otherStands : other.Stands objects) (comparable : Comparable types)
    (within : (concrete? value).toList ⊆ types) (agrees : value.agrees other = true) :
    SameType (concrete? value) (concrete? other) := by
  rcases Value.agrees_iff.mp agrees with identical | same
  · exact sameType_of_identical stands otherStands comparable within identical
  · fun_cases Value.same value other
    case case1 =>
      cases other <;> simp [Value.same, Value.identical, Value.site?] at same
      exact .none
    case case9 expr other =>
      have concrete := isConcrete_of_same (Except.ok.inj same)
      simp only [concrete?, ← concrete]
      split
      · exact .some same
      · exact .none
    case case16 numbers =>
      fun_cases Value.sameNumber? value other
      case case10 => simp_all [Value.sameNumber?]
      all_goals exact .some same
    case case17 =>
      apply sameType_of_identical stands otherStands comparable within
      simp_all [Value.same]
    all_goals exact .some same

theorem namedType?_of_joins (kept : facts.store.find? (.object site) "result_type" = none)
    (leftType : facts.resultType (.post left) site = .ok first)
    (rightType : facts.resultType (.post right) site = .ok second) :
    facts.namedType? (.post (.both site pin left right ((first.or second).getD .none))) =
      first.or second := by
  rw [namedType?_conjunction kept]
  apply concrete?_getD
  intro type found
  rcases Option.or_eq_some_iff.mp found with rfl | ⟨-, rfl⟩
  · exact concrete_of_resultType leftType
  · exact concrete_of_resultType rightType

/-- Trees that are alike and pinned alike turn out to have the same type, wherever they are asked. -/
theorem sameOutcome_of_alike (comparable : Comparable types) (alike : one.Alike two)
    (stands : (Value.post one).Stands objects) (otherStands : (Value.post two).Stands objects)
    (made : one.Made facts) (otherMade : two.Made facts) (pins : one.PinnedAlike facts two)
    (within : one.types facts ⊆ types) (otherWithin : two.types facts ⊆ types) (site place : Site) :
    SameOutcome (facts.resultType (.post one) site) (facts.resultType (.post two) place) := by
  induction alike generalizing site place with
  | leaf => exact sameOutcome_self comparable within site place
  | function errors kinds =>
      cases made with
      | function kept =>
          cases otherMade with
          | function otherKept =>
              refine sameOutcome_of_sameTypes comparable within otherWithin ?_ pins rfl site place
              have named := List.Subset.trans (named_subset _) within
              rw [namedType?_function kept] at named ⊢
              rw [namedType?_function otherKept]
              exact sameType_of_agrees (stands_function stands).2.2
                (stands_function otherStands).2.2 comparable named kinds
  | both before after leftIH rightIH =>
      cases made with
      | both beforeMade afterMade joins kept =>
          cases otherMade with
          | both firstMade secondMade otherJoins otherKept =>
              obtain ⟨first, second, leftType, rightType, -, joined⟩ := conjoin_eq_ok_iff.mp joins
              obtain ⟨another, last, firstType, secondType, -, otherJoined⟩ :=
                conjoin_eq_ok_iff.mp otherJoins
              cases joined
              cases otherJoined
              obtain ⟨pin, leftPins, rightPins⟩ := pins
              rw [PostGuard.types, List.append_subset, List.append_subset] at within otherWithin
              -- What conjunctions name was found in their parts, where the hypotheses tell it is the same.
              have lefts : SameType first another := by
                apply SameOutcome.sameType
                rw [← leftType, ← firstType]
                exact leftIH (stands_both stands).1 (stands_both otherStands).1 beforeMade firstMade
                  leftPins within.1.2 otherWithin.1.2 _ _
              have rights : SameType second last := by
                apply SameOutcome.sameType
                rw [← rightType, ← secondType]
                exact rightIH (stands_both stands).2 (stands_both otherStands).2 afterMade secondMade
                  rightPins within.2 otherWithin.2 _ _
              refine sameOutcome_of_sameTypes comparable within.1.1 otherWithin.1.1 ?_ pin rfl site
                place
              rw [namedType?_of_joins kept leftType rightType,
                namedType?_of_joins otherKept firstType secondType]
              exact lefts.or rights

theorem joins_of_sameOutcome {before after : PostGuard} (comparable : Comparable types)
    (leftWithin : facts.typesAt (.post left) ⊆ types)
    (rightWithin : facts.typesAt (.post right) ⊆ types)
    (beforeWithin : facts.typesAt (.post before) ⊆ types)
    (afterWithin : facts.typesAt (.post after) ⊆ types)
    (lefts : SameOutcome (facts.resultType (.post left) site) (facts.resultType (.post before) site))
    (rights : SameOutcome (facts.resultType (.post right) site) (facts.resultType (.post after) site))
    (made : ∃ tree, conjoin facts site pin (.post left) (.post right) = .ok tree) :
    ∃ tree, conjoin facts site pin (.post before) (.post after) = .ok tree := by
  obtain ⟨tree, made⟩ := made
  obtain ⟨first, second, leftType, rightType, meets, -⟩ := conjoin_eq_ok_iff.mp made
  obtain ⟨another, beforeType, same⟩ := lefts.exists_of_ok leftType
  obtain ⟨last, afterType, also⟩ := rights.exists_of_ok rightType
  have joins := meets_of_same comparable
    (List.Subset.trans (found_subset leftType) leftWithin)
    (List.Subset.trans (found_subset rightType) rightWithin)
    (List.Subset.trans (found_subset beforeType) beforeWithin)
    (List.Subset.trans (found_subset afterType) afterWithin) same also meets
  exact ⟨_, conjoin_eq_ok_iff.mpr ⟨_, _, beforeType, afterType, joins, rfl⟩⟩

/-- Equal post guards that are pinned alike have the same type, or fail to have one alike, and compose
with the same guards, on either side. -/
theorem equal_guards_interchange (objects : Site → Value) (facts : Facts) (one two third : PostGuard)
    (stands : (Value.post one).Stands objects) (otherStands : (Value.post two).Stands objects)
    (distinct : one.Distinct objects) (made : one.Made facts) (otherMade : two.Made facts)
    (comparable : Comparable (one.types facts ++ two.types facts ++ facts.typesAt (.post third)))
    (same : one.same two = .ok true) (pins : one.PinnedAlike facts two) :
    (∀ site place,
      SameOutcome (facts.resultType (.post one) site) (facts.resultType (.post two) place)) ∧
    ∀ site pin,
      ((∃ tree, conjoin facts site pin (.post one) (.post third) = .ok tree) ↔
        ∃ tree, conjoin facts site pin (.post two) (.post third) = .ok tree) ∧
      ((∃ tree, conjoin facts site pin (.post third) (.post one) = .ok tree) ↔
        ∃ tree, conjoin facts site pin (.post third) (.post two) = .ok tree) := by
  have alike := (same_iff_alike stands otherStands distinct).mp same
  have within : one.types facts ⊆ one.types facts ++ two.types facts ++ facts.typesAt (.post third) :=
    fun _ member => List.mem_append_left _ (List.mem_append_left _ member)
  have otherWithin :
      two.types facts ⊆ one.types facts ++ two.types facts ++ facts.typesAt (.post third) :=
    fun _ member => List.mem_append_left _ (List.mem_append_right _ member)
  have here := List.Subset.trans (typesAt_subset one) within
  have there := List.Subset.trans (typesAt_subset two) otherWithin
  have beside : facts.typesAt (.post third) ⊆
      one.types facts ++ two.types facts ++ facts.typesAt (.post third) :=
    fun _ member => List.mem_append_right _ member
  have forth (site place : Site) :=
    sameOutcome_of_alike comparable alike stands otherStands made otherMade pins within otherWithin
      site place
  have back (site : Site) :
      SameOutcome (facts.resultType (.post two) site) (facts.resultType (.post one) site) :=
    (forth site site).symm comparable (fun _ found => List.Subset.trans (found_subset found) here)
      (fun _ found => List.Subset.trans (found_subset found) there)
  have itself (site : Site) := sameOutcome_self comparable beside site site
  refine ⟨forth, fun site pin => ⟨⟨?_, ?_⟩, ⟨?_, ?_⟩⟩⟩
  · exact joins_of_sameOutcome comparable here beside there beside (forth site site) (itself site)
  · exact joins_of_sameOutcome comparable there beside here beside (back site) (itself site)
  · exact joins_of_sameOutcome comparable beside here beside there (itself site) (forth site site)
  · exact joins_of_sameOutcome comparable beside there beside here (itself site) (back site)

/-- Two conjunctions of functions, all pinned to integers, that differ in their names alone. -/
theorem interchange_of_named_guards :
    let facts : Facts := ⟨.initial, .empty⟩
    let integer : TypeExpr := .named (.known "int")
    let callable := Value.callable ⟨⟨[0]⟩, none, "test", .sync, 0, .reply (.gives (.bool true))⟩
    let pinned (place : Nat) (cls : String) : Value :=
      .type (.applied ⟨[place, 0]⟩ (.known cls) [integer])
    let part (place : Nat) (name : String) : PostGuard :=
      .function ⟨[place]⟩ (pinned place "FunctionPostGuard") callable (.str "no") .none (.str name)
    let tree (place : Nat) (name : String) : PostGuard :=
      .both ⟨[place]⟩ (pinned place "PostAnd") (part (place + 1) name) (part (place + 2) name)
        (.type integer)
    let one := tree 1 "first"
    let two := tree 4 "second"
    let third := part 7 "third"
    let objects (site : Site) : Value :=
      (([callable, .post one, .post (part 2 "first"), .post (part 3 "first"), .post two,
        .post (part 5 "second"), .post (part 6 "second")] : List Value).find?
          fun value => value.site? = some site).getD .none
    (Value.post one).Stands objects ∧ (Value.post two).Stands objects ∧ one.Distinct objects ∧
      one.Made facts ∧ two.Made facts ∧
      Comparable (one.types facts ++ two.types facts ++ facts.typesAt (.post third)) ∧
      one.same two = .ok true ∧ one.PinnedAlike facts two ∧
      SameOutcome (facts.resultType (.post one) .root) (facts.resultType (.post two) .root) ∧
      (∃ made, conjoin facts .root .none (.post one) (.post third) = .ok made) ∧
      ∃ made, conjoin facts .root .none (.post two) (.post third) = .ok made := by
  intro facts integer callable pinned part tree one two third objects
  have callableStands : callable.Stands objects := Value.stands_callable rfl
  have distinct := Value.distinct_callable callableStands
  have partStands (place : Nat) (name : String)
      (whole : objects ⟨[place]⟩ = .post (part place name)) :
      (Value.post (part place name)).Stands objects := by
    have errorStands : (Value.str "no").Stands objects := Value.stands_of_siteless rfl trivial rfl
    refine Value.stands_of_placed rfl whole trivial
      (List.forall_mem_cons.mpr ⟨callableStands, List.forall_mem_cons.mpr ⟨errorStands, ?_⟩⟩)
    exact List.forall_mem_singleton.mpr (Value.stands_of_siteless rfl trivial rfl)
  have treeStands (place : Nat) (name : String)
      (whole : objects ⟨[place]⟩ = .post (tree place name))
      (before : objects ⟨[place + 1]⟩ = .post (part (place + 1) name))
      (after : objects ⟨[place + 2]⟩ = .post (part (place + 2) name)) :
      (Value.post (tree place name)).Stands objects := by
    exact Value.stands_of_placed rfl whole trivial (List.forall_mem_cons.mpr
      ⟨partStands _ _ before, List.forall_mem_singleton.mpr (partStands _ _ after)⟩)
  have stands := treeStands 1 "first" rfl rfl rfl
  have otherStands := treeStands 4 "second" rfl rfl rfl
  have made : one.Made facts := .both (.function rfl) (.function rfl) rfl rfl
  have otherMade : two.Made facts := .both (.function rfl) (.function rfl) rfl rfl
  have pins : one.PinnedAlike facts two := ⟨.some rfl, .some rfl, .some rfl⟩
  have inherits (cls : String) (library : cls ∈ ["PostAnd", "FunctionPostGuard"]) :
      facts.hierarchy.inheritedType? (.known cls) = Option.none := by
    rw [← Option.isNone_iff_eq_none]
    revert cls
    decide +kernel
  have partTypes (place : Nat) (name : String) :
      facts.typesAt (.post (part place name)) ⊆ [.type integer] := by
    rw [Facts.typesAt, Value.cls, PostGuard.cls, inherits "FunctionPostGuard" (by simp)]
    change [Value.type integer] ⊆ _
    exact List.Subset.refl _
  have treeTypes (place : Nat) (name : String) :
      (tree place name).types facts ⊆ [.type integer] := by
    rw [PostGuard.types, List.append_subset, List.append_subset]
    refine ⟨⟨?_, partTypes _ _⟩, partTypes _ _⟩
    rw [Facts.typesAt, Value.cls, PostGuard.cls, inherits "PostAnd" (by simp)]
    change [Value.type integer, Value.type integer] ⊆ _
    simp
  have comparable : Comparable
      (one.types facts ++ two.types facts ++ facts.typesAt (.post third)) := by
    have proper : ∀ type ∈ [integer], type.Proper :=
      List.forall_mem_singleton.mpr (TypeExpr.proper_of_atom rfl)
    apply (TypeExpr.comparable_types proper).mono
    rw [List.append_subset, List.append_subset]
    exact ⟨⟨treeTypes _ _, treeTypes _ _⟩, partTypes _ _⟩
  have same : one.same two = .ok true := rfl
  have joined : conjoin facts .root .none (.post one) (.post third) =
      .ok (.both .root .none one third (.type integer)) := rfl
  obtain ⟨types, joins⟩ := equal_guards_interchange objects facts one two third stands otherStands
    ⟨distinct, distinct⟩ made otherMade comparable same pins
  exact ⟨stands, otherStands, ⟨distinct, distinct⟩, made, otherMade, comparable, same, pins,
    types .root .root, ⟨_, joined⟩, (joins .root .none).1.mp ⟨_, joined⟩⟩

/-- Equal guards of one function that are pinned to different types, of which one composes with a guard
for integers and the other does not. -/
theorem equal_guards_of_other_pins :
    let facts : Facts := ⟨.initial, .empty⟩
    let type (cls : String) : Value := .type (.named (.known cls))
    let callable := Value.callable ⟨⟨[0]⟩, none, "test", .sync, 0, .reply (.gives (.bool true))⟩
    let pinnedTo (place : Nat) (cls : String) : PostGuard :=
      .function ⟨[place]⟩
        (.type (.applied ⟨[place, 0]⟩ (.known "FunctionPostGuard") [.named (.known cls)]))
        callable (.str "no") .none .none
    let one := pinnedTo 1 "int"
    let two := pinnedTo 2 "str"
    let third := pinnedTo 3 "int"
    one.same two = .ok true ∧
      facts.resultType (.post one) .root = .ok (some (type "int")) ∧
      facts.resultType (.post two) .root = .ok (some (type "str")) ∧
      (type "int").same (type "str") = .ok false ∧
      (∃ tree, conjoin facts .root .none (.post one) (.post third) = .ok tree) ∧
      ∃ cause, Misfit cause ∧
        conjoin facts .root .none (.post two) (.post third) = .error cause := by
  intro facts type callable pinnedTo one two third
  have differ : (type "str").same (type "int") = .ok false := by
    simp [type, Value.same, TypeExpr.same]
  have twoType : facts.resultType (.post two) .root = .ok (some (type "str")) := rfl
  have thirdType : facts.resultType (.post third) .root = .ok (some (type "int")) := rfl
  obtain ⟨cause, misfit, refused⟩ : ∃ cause, Misfit cause ∧
      conjoin facts .root .none (.post two) (.post third) = .error cause := by
    obtain ⟨cause, misfit, clash⟩ := joinedType_of_clash .root differ
    refine ⟨cause, misfit rfl rfl, ?_⟩
    rw [Plan.conjoin_of_types twoType thirdType, clash]
    rfl
  exact ⟨rfl, rfl, twoType, by simp [type, Value.same, TypeExpr.same], ⟨_, rfl⟩, cause, misfit,
    refused⟩

end PostGuard

end GuardAlgebra
