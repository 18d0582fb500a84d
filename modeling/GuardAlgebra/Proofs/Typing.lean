import GuardAlgebra.Proofs.Connective
import GuardAlgebra.Proofs.Library

namespace GuardAlgebra

/-! # The type of a tree of conjunctions

A conjunction of post guards compares the types of its two parts when it is made, and the type it is
pinned to only when it is asked for its own. Whatever the shape of a tree of conjunctions, its types
are found out as they would be by comparing all of them with one another.
-/

/-- How a tree of conjunctions is written: leaves that are there already, and conjunctions that are
made of two trees, each at a site of its own and possibly pinned. -/
inductive Plan where
  | leaf (guard : PostGuard)
  | joint (site : Site) (pin : Value) (left right : Plan)

namespace Plan

def build (facts : Facts) : Plan → Attempt PostGuard
  | .leaf guard => .ok guard
  | .joint site pin left right => do
      let before ← left.build facts
      let after ← right.build facts
      PostGuard.conjoin facts site pin (.post before) (.post after)

def resolve (facts : Facts) (site : Site) (plan : Plan) : Attempt (Option Value) := do
  let tree ← plan.build facts
  facts.resultType (.post tree) site

def leaves : Plan → List PostGuard
  | .leaf guard => [guard]
  | .joint _ _ left right => left.leaves ++ right.leaves

def sites : Plan → List Site
  | .leaf _ => []
  | .joint site _ left right => left.sites ++ right.sites ++ [site]

/-- The type of a leaf, if it has one. -/
def ownType? (facts : Facts) (leaf : PostGuard) : Option Value :=
  ((facts.resultType (.post leaf) .root).toOption).join

/-- The concrete types of the leaves and pins, left to right and pins behind what they pin. -/
def types (facts : Facts) : Plan → List Value
  | .leaf guard => (ownType? facts guard).toList
  | .joint _ pin left right => left.types facts ++ right.types facts ++ (pinType? pin).toList

/-- No conjunction is pinned to a concrete type. -/
def Unpinned : Plan → Prop
  | .leaf _ => True
  | .joint _ pin left right => left.Unpinned ∧ right.Unpinned ∧ pinType? pin = none

/-- Every leaf has its own type resolved, equality is an equivalence on the types, and nothing was
written to where conjunctions are made. -/
structure Settled (facts : Facts) (plan : Plan) : Prop where
  resolves : ∀ leaf ∈ plan.leaves, ∃ type?, facts.resultType (.post leaf) .root = .ok type?
  comparable : Comparable (plan.types facts)
  unwritten : ∀ site ∈ plan.sites, ∀ name, facts.store.find? (.object site) name = none

/-- A refusal to compose. A refusal names the types that differ, so it is owed only where the types of
the tree can all be put into words, as whatever is a type can. -/
def Refuses (facts : Facts) (plan : Plan) (cause : Exception) : Prop :=
  (∀ type ∈ plan.types facts, facts.obstacle? type = none) → Misfit cause

variable {facts : Facts} {plan left right : Plan} {site : Site} {pin : Value} {cause : Exception}

theorem types_left_subset : left.types facts ⊆ (joint site pin left right).types facts :=
  fun _ member => List.mem_append_left _ (List.mem_append_left _ member)

theorem types_right_subset : right.types facts ⊆ (joint site pin left right).types facts :=
  fun _ member => List.mem_append_left _ (List.mem_append_right _ member)

theorem Settled.leftPart (settled : (joint site pin left right).Settled facts) : left.Settled facts where
  resolves leaf member := settled.resolves leaf (List.mem_append_left _ member)
  comparable := settled.comparable.mono types_left_subset
  unwritten place member :=
    settled.unwritten place (List.mem_append_left _ (List.mem_append_left _ member))

theorem Settled.rightPart (settled : (joint site pin left right).Settled facts) :
    right.Settled facts where
  resolves leaf member := settled.resolves leaf (List.mem_append_right _ member)
  comparable := settled.comparable.mono types_right_subset
  unwritten place member :=
    settled.unwritten place (List.mem_append_left _ (List.mem_append_right _ member))

theorem Refuses.ofLeft (refuses : left.Refuses facts cause) :
    (joint site pin left right).Refuses facts cause :=
  fun worded => refuses fun type member => worded type (types_left_subset member)

theorem Refuses.ofRight (refuses : right.Refuses facts cause) :
    (joint site pin left right).Refuses facts cause :=
  fun worded => refuses fun type member => worded type (types_right_subset member)

theorem Refuses.misfit (refuses : plan.Refuses facts cause)
    (types : ∀ type ∈ plan.types facts, ∃ expr, type = .type expr) : Misfit cause := by
  apply refuses
  intro type member
  obtain ⟨expr, rfl⟩ := types type member
  rfl

theorem Settled.here (settled : (joint site pin left right).Settled facts) (name : String) :
    facts.store.find? (.object site) name = none :=
  settled.unwritten site (List.mem_append_right _ (List.mem_singleton_self _)) name

/-- A leaf that resolves has its own type wherever it is asked. -/
theorem resultType_leaf {leaf : PostGuard} {type? : Option Value}
    (resolves : facts.resultType (.post leaf) .root = .ok type?) (site : Site) :
    facts.resultType (.post leaf) site = .ok (ownType? facts leaf) := by
  have meets := meets_of_resultType resolves
  rw [ownType?, resultType_of_meets .root meets, resultType_of_meets site meets]
  rfl

theorem concrete_of_types : ∀ type ∈ plan.types facts, concrete? type = some type := by
  induction plan with
  | leaf guard =>
      intro type member
      rw [types, Option.mem_toList, ownType?] at member
      cases resolves : facts.resultType (.post guard) .root with
      | error cause => simp [resolves, Except.toOption] at member
      | ok type? =>
          rw [resolves] at member
          have found : type? = some type := member
          rw [found] at resolves
          exact concrete_of_resultType resolves
  | joint site pin left right leftIH rightIH =>
      intro type member
      rcases List.mem_append.mp member with member | member
      · rcases List.mem_append.mp member with member | member
        · exact leftIH type member
        · exact rightIH type member
      · rw [Option.mem_toList] at member
        obtain ⟨argument, -, found⟩ := Option.bind_eq_some_iff.mp member
        exact concrete?_of_concrete? found

theorem head?_types_joint :
    ((joint site pin left right).types facts).head? =
      ((left.types facts).head?.or (right.types facts).head?).or (pinType? pin) := by
  rw [types, List.head?_append, List.head?_append, Option.head?_toList]

/-- The types of a conjunction agree when those of its parts do, the types of the parts are equal, and
the pin is equal to them. -/
theorem agree_joint (settled : (joint site pin left right).Settled facts) :
    Agree ((joint site pin left right).types facts) ↔
      Agree (left.types facts) ∧ Agree (right.types facts) ∧
        Meets (left.types facts).head? (right.types facts).head? ∧
        Meets ((left.types facts).head?.or (right.types facts).head?) (pinType? pin) := by
  have comparable := settled.comparable
  rw [types] at comparable ⊢
  have pinned : Agree (pinType? pin).toList :=
    agree_toList (comparable.mono (List.subset_append_right _ _))
  rw [agree_append comparable, agree_append (comparable.mono (List.subset_append_left _ _)),
    List.head?_append, Option.head?_toList]
  constructor
  · rintro ⟨⟨agreeLeft, agreeRight, meets⟩, -, meetsPin⟩
    exact ⟨agreeLeft, agreeRight, meets, meetsPin⟩
  · rintro ⟨agreeLeft, agreeRight, meets, meetsPin⟩
    exact ⟨⟨agreeLeft, agreeRight, meets⟩, pinned, meetsPin⟩

section Joining

variable {before after : PostGuard} {first second : Option Value} {cause : Exception}

theorem build_joint (builtLeft : left.build facts = .ok before)
    (builtRight : right.build facts = .ok after) :
    (joint site pin left right).build facts =
      PostGuard.conjoin facts site pin (.post before) (.post after) := by
  rw [build, builtLeft, builtRight]
  rfl

theorem conjoin_of_types (leftType : facts.resultType (.post before) site = .ok first)
    (rightType : facts.resultType (.post after) site = .ok second) :
    PostGuard.conjoin facts site pin (.post before) (.post after) =
      (PostGuard.joinedType facts site first second).map fun type =>
        .both site pin before after type := by
  simp only [PostGuard.conjoin, Value.asPost, leftType, rightType]
  rfl

theorem conjoin_of_left_error (clash : facts.resultType (.post before) site = .error cause) :
    PostGuard.conjoin facts site pin (.post before) (.post after) = .error cause := by
  simp only [PostGuard.conjoin, Value.asPost, clash]
  rfl

theorem conjoin_of_right_error (leftType : facts.resultType (.post before) site = .ok first)
    (clash : facts.resultType (.post after) site = .error cause) :
    PostGuard.conjoin facts site pin (.post before) (.post after) = .error cause := by
  simp only [PostGuard.conjoin, Value.asPost, leftType, clash]
  rfl

end Joining

theorem concrete_of_heads :
    ∀ type ∈ (left.types facts).head?.or (right.types facts).head?, concrete? type = some type := by
  intro type found
  rcases Option.or_eq_some_iff.mp found with isHead | ⟨-, isHead⟩
  · exact concrete_of_types type (List.mem_of_mem_head? isHead)
  · exact concrete_of_types type (List.mem_of_mem_head? isHead)

/-- Where all types agree, every conjunction is made, and the tree has their type. -/
theorem resolves_of_agree (library : facts.ConjunctionUntyped) (settled : plan.Settled facts)
    (agree : Agree (plan.types facts)) :
    ∃ tree, plan.build facts = .ok tree ∧
      ∀ site, facts.resultType (.post tree) site = .ok (plan.types facts).head? := by
  induction plan with
  | leaf guard =>
      obtain ⟨type?, resolves⟩ := settled.resolves guard (List.mem_singleton_self _)
      refine ⟨guard, rfl, fun site => ?_⟩
      rw [resultType_leaf resolves site, types, Option.head?_toList]
  | joint place pin left right leftIH rightIH =>
      obtain ⟨agreeLeft, agreeRight, meets, meetsPin⟩ := (agree_joint settled).mp agree
      obtain ⟨before, builtLeft, leftType⟩ := leftIH settled.leftPart agreeLeft
      obtain ⟨after, builtRight, rightType⟩ := rightIH settled.rightPart agreeRight
      refine ⟨.both place pin before after
        (((left.types facts).head?.or (right.types facts).head?).getD .none), ?_, fun site => ?_⟩
      · rw [build_joint builtLeft builtRight, conjoin_of_types (leftType place) (rightType place),
          joinedType_of_meets place meets]
        rfl
      · rw [head?_types_joint]
        exact resultType_both settled.here library concrete_of_heads meetsPin site

/-- How a tree fails over types that differ: some conjunction is refused, or else the type of the tree
is. -/
inductive Misfits (facts : Facts) (plan : Plan) : Prop where
  | unmade {cause : Exception} (refuses : plan.Refuses facts cause)
      (refused : plan.build facts = .error cause)
  | untyped {tree : PostGuard} (made : plan.build facts = .ok tree)
      (clashes : ∀ site, ∃ cause, plan.Refuses facts cause ∧
        facts.resultType (.post tree) site = .error cause)

section Clash

variable {before after : PostGuard} {first second : Option Value}

/-- Whatever becomes of its right part, a conjunction whose left part fails does not come about. -/
theorem misfits_of_left (misfits : left.Misfits facts)
    (tried : (∃ after, right.build facts = .ok after) ∨ right.Misfits facts) :
    (joint site pin left right).Misfits facts := by
  cases misfits with
  | unmade refuses refused =>
      refine .unmade refuses.ofLeft ?_
      rw [build, refused]
      rfl
  | untyped builtLeft clashes =>
      obtain ⟨cause, refuses, clash⟩ := clashes site
      have joined (after : PostGuard) (builtRight : right.build facts = .ok after) :
          (joint site pin left right).build facts = .error cause := by
        rw [build_joint builtLeft builtRight, conjoin_of_left_error clash]
      rcases tried with ⟨after, builtRight⟩ | rightMisfits
      · exact .unmade refuses.ofLeft (joined after builtRight)
      · cases rightMisfits with
        | unmade rightRefuses refused =>
            refine .unmade rightRefuses.ofRight ?_
            rw [build, builtLeft, refused]
            rfl
        | untyped builtRight _ => exact .unmade refuses.ofLeft (joined _ builtRight)

theorem misfits_of_right (builtLeft : left.build facts = .ok before)
    (leftType : facts.resultType (.post before) site = .ok first)
    (misfits : right.Misfits facts) : (joint site pin left right).Misfits facts := by
  cases misfits with
  | unmade refuses refused =>
      refine .unmade refuses.ofRight ?_
      rw [build, builtLeft, refused]
      rfl
  | untyped builtRight clashes =>
      obtain ⟨cause, refuses, clash⟩ := clashes site
      refine .unmade refuses.ofRight ?_
      rw [build_joint builtLeft builtRight, conjoin_of_right_error leftType clash]

/-- Two of the types of a tree that do not meet are different, and each is a type of the tree. -/
theorem exists_clash (settled : plan.Settled facts)
    (inFirst : ∀ type ∈ first, type ∈ plan.types facts)
    (inSecond : ∀ type ∈ second, type ∈ plan.types facts) (differ : ¬ Meets first second) :
    ∃ one other, first = some one ∧ second = some other ∧ one.same other = .ok false ∧
      ∀ cause, (facts.obstacle? one = none → facts.obstacle? other = none → Misfit cause) →
        plan.Refuses facts cause := by
  obtain ⟨one, other, isOne, isOther, different⟩ := exists_of_not_meets differ
    fun one isOne other isOther =>
      settled.comparable.decided one (inFirst one isOne) other (inSecond other isOther)
  refine ⟨one, other, isOne, isOther, different, fun cause misfit worded => ?_⟩
  exact misfit (worded one (inFirst one isOne)) (worded other (inSecond other isOther))

theorem misfits_of_heads (builtLeft : left.build facts = .ok before)
    (builtRight : right.build facts = .ok after)
    (leftType : facts.resultType (.post before) site = .ok (left.types facts).head?)
    (rightType : facts.resultType (.post after) site = .ok (right.types facts).head?)
    (settled : (joint site pin left right).Settled facts)
    (differ : ¬ Meets (left.types facts).head? (right.types facts).head?) :
    (joint site pin left right).Misfits facts := by
  obtain ⟨one, other, isOne, isOther, different, refuses⟩ := exists_clash settled
    (fun type isHead => types_left_subset (List.mem_of_mem_head? isHead))
    (fun type isHead => types_right_subset (List.mem_of_mem_head? isHead)) differ
  obtain ⟨cause, misfit, clash⟩ := joinedType_of_clash site different
  refine .unmade (refuses cause misfit) ?_
  rw [build_joint builtLeft builtRight, conjoin_of_types leftType rightType, isOne, isOther, clash]
  rfl

/-- A pin that differs from the type of the parts is found when the type of the whole is asked for. -/
theorem misfits_of_pin (library : facts.ConjunctionUntyped) (builtLeft : left.build facts = .ok before)
    (builtRight : right.build facts = .ok after)
    (leftType : facts.resultType (.post before) site = .ok (left.types facts).head?)
    (rightType : facts.resultType (.post after) site = .ok (right.types facts).head?)
    (settled : (joint site pin left right).Settled facts)
    (meets : Meets (left.types facts).head? (right.types facts).head?)
    (differ : ¬ Meets ((left.types facts).head?.or (right.types facts).head?) (pinType? pin)) :
    (joint site pin left right).Misfits facts := by
  have inParts : ∀ type ∈ (left.types facts).head?.or (right.types facts).head?,
      type ∈ (joint site pin left right).types facts := by
    intro type found
    rw [← List.head?_append] at found
    exact List.mem_append_left _ (List.mem_of_mem_head? found)
  have inPin : ∀ type ∈ pinType? pin, type ∈ (joint site pin left right).types facts :=
    fun type isPin => List.mem_append_right _ (Option.mem_toList.mpr isPin)
  obtain ⟨one, other, isOne, isOther, different, refuses⟩ :=
    exists_clash settled inParts inPin differ
  let whole : PostGuard := .both site pin before after
    (((left.types facts).head?.or (right.types facts).head?).getD .none)
  have built : (joint site pin left right).build facts = .ok whole := by
    rw [build_joint builtLeft builtRight, conjoin_of_types leftType rightType,
      joinedType_of_meets site meets]
    rfl
  refine .untyped built fun place => ?_
  have named : facts.namedType? (.post whole) = some one :=
    (namedType?_both settled.here concrete_of_heads).trans isOne
  have pinned : facts.pinnedType? (.post whole) = some other :=
    (pinnedType?_both settled.here library _).trans isOther
  obtain ⟨cause, misfit, raised⟩ := resultType_of_clash place named pinned different
  exact ⟨cause, refuses cause misfit, raised⟩

end Clash

/-- Where two types differ, some conjunction is refused, or else the type of the tree is. -/
theorem misfits_of_clash (library : facts.ConjunctionUntyped) (settled : plan.Settled facts)
    (differ : ¬ Agree (plan.types facts)) : plan.Misfits facts := by
  induction plan with
  | leaf guard => exact absurd (agree_toList settled.comparable) differ
  | joint place pin left right leftIH rightIH =>
      -- Both parts are made before either is asked for its type, so a left part that has none is not
      -- the first to fail where the right part cannot be made.
      by_cases agreeRight : Agree (right.types facts)
      · obtain ⟨after, builtRight, rightType⟩ :=
          resolves_of_agree library settled.rightPart agreeRight
        by_cases agreeLeft : Agree (left.types facts)
        · obtain ⟨before, builtLeft, leftType⟩ :=
            resolves_of_agree library settled.leftPart agreeLeft
          by_cases meets : Meets (left.types facts).head? (right.types facts).head?
          · apply misfits_of_pin library builtLeft builtRight (leftType place) (rightType place)
              settled meets
            intro meetsPin
            exact differ ((agree_joint settled).mpr ⟨agreeLeft, agreeRight, meets, meetsPin⟩)
          · exact misfits_of_heads builtLeft builtRight (leftType place) (rightType place) settled
              meets
        · exact misfits_of_left (leftIH settled.leftPart agreeLeft) (.inl ⟨after, builtRight⟩)
      · have misfits := rightIH settled.rightPart agreeRight
        by_cases agreeLeft : Agree (left.types facts)
        · obtain ⟨before, builtLeft, leftType⟩ :=
            resolves_of_agree library settled.leftPart agreeLeft
          exact misfits_of_right builtLeft (leftType place) misfits
        · exact misfits_of_left (leftIH settled.leftPart agreeLeft) (.inr misfits)

section Unpinned

/-- Without pins, the leaves alone tell the types, whatever the shape of the tree. -/
theorem types_of_unpinned (unpinned : plan.Unpinned) :
    plan.types facts = plan.leaves.flatMap fun leaf => (ownType? facts leaf).toList := by
  induction plan with
  | leaf guard => exact (List.append_nil _).symm
  | joint site pin left right leftIH rightIH =>
      obtain ⟨unpinnedLeft, unpinnedRight, pinless⟩ := unpinned
      rw [types, leftIH unpinnedLeft, rightIH unpinnedRight, pinless, leaves, List.flatMap_append]
      exact List.append_nil _

theorem resultType_of_unpinned {tree : PostGuard} (library : facts.ConjunctionUntyped)
    (settled : plan.Settled facts) (unpinned : plan.Unpinned) (built : plan.build facts = .ok tree)
    (site : Site) : ∃ type?, facts.resultType (.post tree) site = .ok type? := by
  cases plan with
  | leaf guard =>
      have same : guard = tree := Except.ok.inj built
      obtain ⟨type?, resolves⟩ := settled.resolves guard (List.mem_singleton_self _)
      rw [← same]
      exact ⟨_, resultType_leaf resolves site⟩
  | joint place pin left right =>
      obtain ⟨before, -, built⟩ := Attempt.bind_eq_ok.mp built
      obtain ⟨after, -, built⟩ := Attempt.bind_eq_ok.mp built
      obtain ⟨one, other, resultType, rfl⟩ := PostGuard.conjoin_eq_ok built
      refine ⟨_, resultType_of_meets site ?_⟩
      rw [pinnedType?_both settled.here library, unpinned.2.2]
      intro type named pin pinned
      exact nomatch pinned

/-- A tree without pins is made exactly when its types agree. -/
theorem build_of_unpinned (library : facts.ConjunctionUntyped) (settled : plan.Settled facts)
    (unpinned : plan.Unpinned) :
    (∃ tree, plan.build facts = .ok tree) ↔ Agree (plan.types facts) := by
  constructor
  · rintro ⟨tree, built⟩
    by_cases agree : Agree (plan.types facts)
    · exact agree
    · cases misfits_of_clash library settled agree with
      | unmade refuses refused =>
          rw [built] at refused
          exact nomatch refused
      | untyped made clashes =>
          rw [built, Except.ok.injEq] at made
          obtain ⟨type?, resolves⟩ := resultType_of_unpinned library settled unpinned built .root
          obtain ⟨cause, -, raised⟩ := clashes .root
          rw [← made, resolves] at raised
          exact nomatch raised
  · intro agree
    obtain ⟨tree, built, -⟩ := resolves_of_agree library settled agree
    exact ⟨tree, built⟩

end Unpinned

section Folding

/-- The tree that joins a plan with further leaves one after another from the left. -/
def nest (site : Site) (first : Plan) : List PostGuard → Plan
  | [] => first
  | next :: rest => nest (site.child 0) (.joint site .none first (.leaf next)) rest

variable {first : Plan} {tree : PostGuard} {cause : Exception}

theorem nest_refused (refused : first.build facts = .error cause) (rest : List PostGuard) :
    (nest site first rest).build facts = .error cause := by
  induction rest generalizing site first with
  | nil => exact refused
  | cons next rest ih =>
      apply ih
      rw [build, refused]
      rfl

/-- Folding makes the tree that is nested to the left. -/
theorem fold_eq_nest (built : first.build facts = .ok tree) (rest : List PostGuard) :
    PostGuard.fold facts site tree rest = (nest site first rest).build facts := by
  induction rest generalizing site first tree with
  | nil => exact built.symm
  | cons next rest ih =>
      have joint : (Plan.joint site .none first (.leaf next)).build facts =
          PostGuard.conjoin facts site .none (.post tree) (.post next) := build_joint built rfl
      rw [PostGuard.fold, nest]
      cases joined : PostGuard.conjoin facts site .none (.post tree) (.post next) with
      | error cause =>
          rw [nest_refused (joint.trans joined)]
          rfl
      | ok next => exact ih (joint.trans joined)

theorem leaves_nest (rest : List PostGuard) : (nest site first rest).leaves = first.leaves ++ rest := by
  induction rest generalizing site first with
  | nil => exact (List.append_nil _).symm
  | cons next rest ih =>
      rw [nest, ih, leaves, List.append_assoc]
      rfl

theorem unpinned_nest (unpinned : first.Unpinned) (rest : List PostGuard) :
    (nest site first rest).Unpinned := by
  induction rest generalizing site first with
  | nil => exact unpinned
  | cons next rest ih => exact ih ⟨unpinned, trivial, rfl⟩

theorem sites_nest (rest : List PostGuard) :
    ∀ place ∈ (nest site first rest).sites,
      place ∈ first.sites ∨ ∃ turns, place = ⟨turns ++ site.path⟩ := by
  induction rest generalizing site first with
  | nil => exact fun place member => .inl member
  | cons next rest ih =>
      intro place member
      rcases ih place member with found | ⟨turns, below⟩
      · rw [sites, sites, List.append_nil] at found
        rcases List.mem_append.mp found with earlier | here
        · exact .inl earlier
        · exact .inr ⟨[], List.mem_singleton.mp here⟩
      · refine .inr ⟨turns ++ [0], ?_⟩
        rw [below, List.append_assoc]
        rfl

theorem mapM_asPost (guards : List PostGuard) :
    (guards.map Value.post).mapM (Value.asPost site) = .ok guards := by
  induction guards with
  | nil => rfl
  | cons guard rest ih =>
      rw [List.map_cons, List.mapM_cons, ih]
      rfl

theorem leaves_ne_nil (plan : Plan) : plan.leaves ≠ [] := by
  induction plan with
  | leaf guard => exact List.cons_ne_nil _ _
  | joint site pin left right leftIH rightIH =>
      intro empty
      exact leftIH (List.append_eq_nil_iff.mp empty).1

/-- Folding all leaves of a plan makes the tree without pins that is nested to the left. -/
theorem foldAll_eq_nest (callee : String) (guard : PostGuard) (rest : List PostGuard) :
    PostGuard.foldAll facts callee site ((guard :: rest).map .post) =
      (nest site (.leaf guard) rest).build facts := by
  rw [PostGuard.foldAll, mapM_asPost]
  exact fold_eq_nest rfl rest

end Folding

/-- The types of the leaves are among the types of the tree. -/
theorem leafTypes_subset :
    (plan.leaves.flatMap fun leaf => (ownType? facts leaf).toList) ⊆ plan.types facts := by
  induction plan with
  | leaf guard =>
      rw [leaves, List.flatMap_singleton]
      exact List.Subset.refl _
  | joint site pin left right leftIH rightIH =>
      intro type member
      rw [leaves, List.flatMap_append] at member
      rcases List.mem_append.mp member with member | member
      · exact List.mem_append_left _ (List.mem_append_left _ (leftIH member))
      · exact List.mem_append_left _ (List.mem_append_right _ (rightIH member))

/-- A tree without pins over the leaves of a settled one is settled too. -/
theorem Settled.reshape {other : Plan} (settled : plan.Settled facts) (unpinned : other.Unpinned)
    (same : other.leaves = plan.leaves)
    (unwritten : ∀ site ∈ other.sites, ∀ name, facts.store.find? (.object site) name = none) :
    other.Settled facts := by
  refine ⟨fun leaf member => settled.resolves leaf (same ▸ member), ?_, unwritten⟩
  apply settled.comparable.mono
  rw [types_of_unpinned unpinned, same]
  exact leafTypes_subset

theorem resolve_of_clash (library : facts.ConjunctionUntyped) (settled : plan.Settled facts)
    (site : Site) (differ : ¬ Agree (plan.types facts)) :
    ∃ cause, plan.Refuses facts cause ∧ plan.resolve facts site = .error cause := by
  cases misfits_of_clash library settled differ with
  | unmade refuses refused =>
      refine ⟨_, refuses, ?_⟩
      rw [resolve, refused]
      rfl
  | untyped built clashes =>
      obtain ⟨cause, refuses, raised⟩ := clashes site
      refine ⟨cause, refuses, ?_⟩
      rw [resolve, built]
      exact raised

theorem resolve_eq_ok_iff (library : facts.ConjunctionUntyped) (settled : plan.Settled facts)
    (site : Site) (type? : Option Value) :
    plan.resolve facts site = .ok type? ↔
      Agree (plan.types facts) ∧ type? = (plan.types facts).head? := by
  by_cases agree : Agree (plan.types facts)
  · obtain ⟨tree, built, resolves⟩ := resolves_of_agree library settled agree
    have resolved : plan.resolve facts site = .ok (plan.types facts).head? := by
      rw [resolve, built]
      exact resolves site
    rw [resolved, Except.ok.injEq]
    exact ⟨fun same => ⟨agree, same.symm⟩, fun ⟨_, same⟩ => same.symm⟩
  · obtain ⟨cause, -, refused⟩ := resolve_of_clash library settled site agree
    rw [refused]
    exact ⟨fun given => (nomatch given), fun given => absurd given.1 agree⟩

/-- A tree of conjunctions is made and has a type exactly when all its concrete types are equal, and
that is their type; else making it or asking for its type is refused. Without pins the shape of the
tree makes no difference, and folding guards into one succeeds exactly when their types are equal. -/
theorem resolves_iff_types_agree (facts : Facts) (plan : Plan) (site : Site)
    (extended : Hierarchy.initial.Extends facts.hierarchy)
    (unpinned : ∀ name, facts.store.find? (.cls (.known name)) pinAttribute = none)
    (settled : plan.Settled facts) :
    ((∃ type?, plan.resolve facts site = .ok type?) ↔ Agree (plan.types facts)) ∧
      (∀ type?, plan.resolve facts site = .ok type? → type? = (plan.types facts).head?) ∧
      (¬ Agree (plan.types facts) →
        ∃ cause, plan.Refuses facts cause ∧ plan.resolve facts site = .error cause) ∧
      (∀ other : Plan, plan.Unpinned → other.Unpinned → other.leaves = plan.leaves →
        (∀ place ∈ other.sites, ∀ name, facts.store.find? (.object place) name = none) →
        ∀ type?, other.resolve facts site = .ok type? ↔ plan.resolve facts site = .ok type?) ∧
      ∀ callee place,
        (∀ turns name, facts.store.find? (.object ⟨turns ++ Site.path place⟩) name = none) →
        ((∃ tree, PostGuard.foldAll facts callee place (plan.leaves.map .post) = .ok tree) ↔
          Agree (plan.leaves.flatMap fun leaf => (ownType? facts leaf).toList)) := by
  have library := conjunctionUntyped_of_extends extended unpinned
  refine ⟨?_, ?_, resolve_of_clash library settled site, ?_, ?_⟩
  · constructor
    · rintro ⟨type?, resolved⟩
      exact ((resolve_eq_ok_iff library settled site type?).mp resolved).1
    · intro agree
      exact ⟨_, (resolve_eq_ok_iff library settled site _).mpr ⟨agree, rfl⟩⟩
  · intro type? resolved
    exact ((resolve_eq_ok_iff library settled site type?).mp resolved).2
  · intro other pinless otherPinless same unwritten type?
    have otherSettled := settled.reshape otherPinless same unwritten
    have types : other.types facts = plan.types facts := by
      rw [types_of_unpinned otherPinless, types_of_unpinned pinless, same]
    rw [resolve_eq_ok_iff library otherSettled, resolve_eq_ok_iff library settled, types]
  · intro callee place unwritten
    obtain ⟨guard, rest, leaves⟩ := List.exists_cons_of_ne_nil plan.leaves_ne_nil
    have nested : (nest place (.leaf guard) rest).leaves = plan.leaves := by
      rw [leaves_nest, leaves]
      rfl
    have leafPinless : (Plan.leaf guard).Unpinned := trivial
    have pinless : (nest place (.leaf guard) rest).Unpinned := unpinned_nest leafPinless rest
    have nestSettled := settled.reshape pinless nested (by
      intro site member
      rcases sites_nest rest site member with absent | ⟨turns, below⟩
      · exact nomatch absent
      · rw [below]
        exact unwritten turns)
    rw [leaves, foldAll_eq_nest, build_of_unpinned library nestSettled pinless,
      types_of_unpinned pinless, nested, leaves]

/-- A pin that differs from the pin of a part, which shows only when the type of the whole is asked
for. -/
theorem misfit_of_pinned_part :
    let facts : Facts := ⟨.initial, .empty⟩
    let leaf := PostGuard.leaf ⟨[0]⟩ Session.postLeafClass [] .none ⟨"audit", 0, .gives .none⟩
    let pinnedTo (site : Site) (cls : String) := Value.type
      (.applied site (.known "PostAnd") [.named (.known cls)])
    let part := joint ⟨[1]⟩ (pinnedTo ⟨[2]⟩ "int") (.leaf leaf) (.leaf leaf)
    let plan := joint ⟨[3]⟩ (pinnedTo ⟨[4]⟩ "str") part (.leaf leaf)
    plan.Settled facts ∧ Hierarchy.initial.Extends facts.hierarchy ∧
      (∀ name, facts.store.find? (.cls (.known name)) pinAttribute = none) ∧
      ∃ cause, Misfit cause ∧ plan.resolve facts .root = .error cause := by
  intro facts leaf pinnedTo part plan
  have resolved : (facts.resultType (.post leaf) .root).isOk = true := by decide +kernel
  have untyped : (ownType? facts leaf).isNone = true := by decide +kernel
  have extended : Hierarchy.initial.Extends facts.hierarchy := by
    simp only [facts]
    exact Hierarchy.Extends.refl _
  have unwritten (place : Place) (name : String) : facts.store.find? place name = none := rfl
  clear_value facts
  have types : plan.types facts =
      [.type (.named (.known "int")), .type (.named (.known "str"))] := by
    simp only [plan, part, Plan.types, Option.isNone_iff_eq_none.mp untyped, pinnedTo]
    rfl
  have settled : plan.Settled facts := by
    constructor
    · intro guard member
      have same : guard = leaf := by simpa [plan, part, Plan.leaves] using member
      cases resolves : facts.resultType (.post leaf) .root with
      | error cause => simp [resolves, Except.isOk, Except.toBool] at resolved
      | ok type? => exact ⟨type?, same ▸ resolves⟩
    · rw [types]
      constructor <;> simp [Value.same, TypeExpr.same]
    · exact fun site _ name => unwritten _ name
  have differ : ¬ Agree (plan.types facts) := by
    rw [types]
    simp [Agree, Value.same, TypeExpr.same]
  obtain ⟨cause, refuses, refused⟩ :=
    (resolves_iff_types_agree facts plan .root extended (fun _ => unwritten _ _) settled).2.2.1 differ
  have misfit : Misfit cause := by
    apply refuses.misfit
    rw [types]
    simp
  exact ⟨settled, extended, fun _ => unwritten _ _, cause, misfit, refused⟩

end Plan

end GuardAlgebra
