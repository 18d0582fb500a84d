import GuardAlgebra.Proofs.Inherited
import GuardAlgebra.Proofs.Typing

namespace GuardAlgebra

/-! # The type that post guards of a class inspect

The type of a post guard that names none itself is what the type variable of post guards stands for
in its class. This is so only where a class that is given type arguments hands the first of them on:
the library takes the first type argument of every post guard class for the type of values, whichever
type variable the class hands on, and takes it for a type although type variables are inside.
-/

namespace PostGuard

variable {facts : Facts} {tree : PostGuard} {site : Site}

/-- A post guard that has no type but what its class and its type arguments say. -/
structure Bare (facts : Facts) (tree : PostGuard) : Prop where
  guards : facts.hierarchy.guards tree.cls = true
  unnamed : facts.namedType? (.post tree) = none
  unwritten : facts.store.find? (.object tree.site) pinAttribute = none
  unpinned : facts.member? tree.cls pinAttribute = none

/-- How a post guard was made, and what that puts in the place of the type variables of its class. The
library can make out what becomes of the first type argument, wherever one is given. -/
inductive Created (hierarchy : Hierarchy) (tree : PostGuard) : (String → TypeExpr) → Prop where
  | plain (unpinned : tree.pin = .none) (legible : hierarchy.legible tree.cls = true) :
      Created hierarchy tree .variable
  | applied {place : Site} {argument : TypeExpr} {others : List TypeExpr}
      (pinned : tree.pin = .type (.applied place tree.cls (argument :: others)))
      (full : (argument :: others).length = (hierarchy.parameters tree.cls).length)
      (orderly : hierarchy.orderly tree.cls = true) (unmixed : argument.isMixed = false) :
      Created hierarchy tree
        (TypeExpr.assign (hierarchy.parameters tree.cls) (argument :: others))

/-- The type is what the variable of post guards stands for; without one, that is no type that says
what values are. -/
structure Reflects (hierarchy : Hierarchy) (cls : ClassId) (values : String → TypeExpr)
    (type? : Option TypeExpr) : Prop where
  stands : ∃ type, hierarchy.Binds cls values type
  bound : ∀ type ∈ type?, type.isResolved = true ∧ hierarchy.Binds cls values type
  free : type? = none → ∀ type, hierarchy.Binds cls values type → type.isResolved = false

theorem read?_post {name : String} (unwritten : facts.store.find? (.object tree.site) name = none) :
    facts.read? (.post tree) name =
      (entryOf? tree.own name).or ((facts.member? tree.cls name).map (Value.post tree).boundTo) := by
  have object : ∀ expr, Value.post tree ≠ .type expr := nofun
  rw [facts.read?_of_unwritten object unwritten,
    show (Value.post tree).slot? name = none from rfl, Option.map_none, Option.or_none]
  rfl

theorem namedType?_leaf {place : Site} {cls : ClassId} {kin : List String} {pin : Value} {leaf : Leaf}
    (unwritten : facts.store.find? (.object place) "result_type" = none)
    (unnamed : facts.member? cls "result_type" = none) :
    facts.namedType? (.post (.leaf place cls kin pin leaf)) = none := by
  have own : entryOf? (PostGuard.leaf place cls kin pin leaf).own "result_type" = none := by
    cases pinless : pin.isNone <;> simp [PostGuard.own, PostGuard.pin, pinless, entryOf?, pinAttribute]
  rw [Facts.namedType?, read?_post unwritten, own, show (PostGuard.leaf ..).cls = cls from rfl, unnamed]
  rfl

theorem pinnedType?_of_bare (bare : tree.Bare facts) :
    facts.pinnedType? (.post tree) = pinType? tree.pin := by
  have own : entryOf? tree.own pinAttribute = if tree.pin.isNone then none else some tree.pin := by
    cases tree <;> cases held : pin _ <;> simp [PostGuard.own, held, entryOf?, pinAttribute, Value.isNone]
  rw [Facts.pinnedType?, read?_post bare.unwritten, own, bare.unpinned, Option.map_none,
    Option.or_none, pinType?]
  cases tree.pin <;> rfl

theorem resultType_of_bare (bare : tree.Bare facts) (site : Site) :
    facts.resultType (.post tree) site =
      .ok ((pinType? tree.pin).or (facts.hierarchy.inheritedType? tree.cls)) := by
  have meets : Meets (facts.namedType? (.post tree)) (facts.pinnedType? (.post tree)) := by
    intro type named
    rw [bare.unnamed] at named
    exact nomatch named
  rw [resultType_of_meets site meets, bare.unnamed, pinnedType?_of_bare bare, Option.none_or]
  rfl

variable {values leftValues rightValues : String → TypeExpr} {left right : PostGuard} {pin : Value}

section Reflects

variable {hierarchy : Hierarchy} {cls : ClassId} (grown : hierarchy.Grown)
  (guards : hierarchy.guards cls = true)
include grown guards

/-- The type that a class inherits is what the variable of post guards stands for in it. -/
theorem reflects_of_legible (legible : hierarchy.legible cls = true) :
    ∃ type? : Option TypeExpr, hierarchy.inheritedType? cls = type?.map .type ∧
      Reflects hierarchy cls .variable type? := by
  have known := grown.known_of_guards guards
  have stands := grown.exists_binds guards .variable
  cases inherits : hierarchy.inheritedType? cls with
  | some value =>
      obtain ⟨type, rfl, resolved, binds⟩ := grown.binds_of_inheritedType? known legible inherits
      refine ⟨some type, rfl, stands, ?_, nofun⟩
      intro found same
      cases same
      exact ⟨resolved, binds _⟩
  | none =>
      refine ⟨none, rfl, stands, nofun, fun _ type binds => ?_⟩
      have here := grown.built.allSound.mem_lineage known
      exact grown.unresolved_of_binds known legible inherits here binds rfl

/-- The first type argument of a class is what the variable of post guards stands for. -/
theorem reflects_of_orderly {argument : TypeExpr} {others : List TypeExpr} {first : String}
    {rest : List String} (orderly : hierarchy.orderly cls = true)
    (parameters : hierarchy.parameters cls = first :: rest) (unmixed : argument.isMixed = false) :
    Reflects hierarchy cls (TypeExpr.assign (first :: rest) (argument :: others))
      (if argument.isConcrete then some argument else none) := by
  have unique : ∀ type, hierarchy.Binds cls
      (TypeExpr.assign (first :: rest) (argument :: others)) type → type = argument := by
    intro type binds
    rw [grown.eq_first_of_binds binds orderly parameters, TypeExpr.assign_first]
  obtain ⟨type, binds⟩ :=
    grown.exists_binds guards (TypeExpr.assign (first :: rest) (argument :: others))
  obtain rfl := unique type binds
  cases concrete : type.isConcrete with
  | true =>
      refine ⟨⟨_, binds⟩, ?_, by simp⟩
      intro found same
      cases same
      have closed := TypeExpr.closed_of_concrete concrete unmixed
      exact ⟨by rw [TypeExpr.isResolved, concrete, closed]; rfl, binds⟩
  | false =>
      refine ⟨⟨_, binds⟩, by simp, ?_⟩
      intro _ other bound
      rw [unique other bound, TypeExpr.isResolved, concrete, Bool.false_and]

end Reflects

theorem exists_resultType (grown : facts.hierarchy.Grown) (bare : tree.Bare facts)
    (created : tree.Created facts.hierarchy values) (site : Site) :
    ∃ type? : Option TypeExpr, facts.resultType (.post tree) site = .ok (type?.map .type) ∧
      Reflects facts.hierarchy tree.cls values type? := by
  rw [resultType_of_bare bare]
  cases created with
  | plain unpinned legible =>
      obtain ⟨type?, inherits, reflects⟩ := reflects_of_legible grown bare.guards legible
      refine ⟨type?, ?_, reflects⟩
      rw [unpinned, inherits]
      rfl
  | @applied place argument others pinned full orderly unmixed =>
      obtain ⟨first, rest, parameters⟩ := List.exists_cons_of_length_eq_add_one full.symm
      have inherits :=
        grown.inheritedType?_of_parameters (grown.known_of_guards bare.guards) orderly parameters
      rw [parameters]
      refine ⟨_, ?_, reflects_of_orderly grown bare.guards orderly parameters unmixed⟩
      rw [inherits, Option.or_none, pinned]
      cases concrete : argument.isConcrete <;>
        simp [pinType?, firstArgument?, TypeExpr.arguments, concrete?, concrete]

theorem conjoin_of_same {first second : Option TypeExpr}
    (leftType : facts.resultType (.post left) site = .ok (first.map .type))
    (rightType : facts.resultType (.post right) site = .ok (second.map .type))
    (same : ∀ one ∈ first, ∀ other ∈ second, TypeExpr.same one other = true) :
    ∃ joined, conjoin facts site pin (.post left) (.post right) = .ok joined := by
  have meets : Meets (first.map Value.type) (second.map Value.type) := by
    intro one isOne other isOther
    obtain ⟨type, isType, rfl⟩ := Option.map_eq_some_iff.mp isOne
    obtain ⟨another, isAnother, rfl⟩ := Option.map_eq_some_iff.mp isOther
    exact congrArg Except.ok (same type isType another isAnother)
  rw [Plan.conjoin_of_types leftType rightType, joinedType_of_meets site meets]
  exact ⟨_, rfl⟩

theorem conjoin_of_different {first second : TypeExpr}
    (leftType : facts.resultType (.post left) site = .ok (some (.type first)))
    (rightType : facts.resultType (.post right) site = .ok (some (.type second)))
    (differ : TypeExpr.same first second = false) :
    ∃ cause, Misfit cause ∧ conjoin facts site pin (.post left) (.post right) = .error cause := by
  have clash : (Value.type first).same (.type second) = .ok false := congrArg Except.ok differ
  obtain ⟨cause, misfit, refused⟩ : ∃ cause,
      (facts.obstacle? (.type first) = none → facts.obstacle? (.type second) = none →
        Misfit cause) ∧
        joinedType facts site (some (.type first)) (some (.type second)) = .error cause :=
    joinedType_of_clash site clash
  refine ⟨cause, misfit rfl rfl, ?_⟩
  rw [Plan.conjoin_of_types leftType rightType, refused]
  rfl

/-- The type of a post guard is what the variable of post guards stands for in its class, unless that
says nothing. So guards over equal types can be joined, and guards over different ones cannot. -/
theorem resultType_reflects_binding (facts : Facts) (site : Site) (grown : facts.hierarchy.Grown) :
    (∀ tree values, Bare facts tree → Created facts.hierarchy tree values →
      ∃ type? : Option TypeExpr, facts.resultType (.post tree) site = .ok (type?.map .type) ∧
        Reflects facts.hierarchy tree.cls values type?) ∧
      ∀ left right leftValues rightValues pin, Bare facts left → Bare facts right →
        Created facts.hierarchy left leftValues → Created facts.hierarchy right rightValues →
        let compared (truth : Bool) : Prop := ∀ one other,
          facts.hierarchy.Binds left.cls leftValues one → one.isResolved = true →
          facts.hierarchy.Binds right.cls rightValues other → other.isResolved = true →
          TypeExpr.same one other = truth
        (compared true → ∃ joined, conjoin facts site pin (.post left) (.post right) = .ok joined) ∧
          ((∃ one, facts.hierarchy.Binds left.cls leftValues one ∧ one.isResolved = true) →
            (∃ other, facts.hierarchy.Binds right.cls rightValues other ∧ other.isResolved = true) →
            compared false →
            ∃ cause, Misfit cause ∧
              conjoin facts site pin (.post left) (.post right) = .error cause) := by
  refine ⟨fun tree values bare created => exists_resultType grown bare created site, ?_⟩
  intro left right leftValues rightValues pin leftBare rightBare leftCreated rightCreated compared
  obtain ⟨first, leftType, leftReflects⟩ := exists_resultType grown leftBare leftCreated site
  obtain ⟨second, rightType, rightReflects⟩ := exists_resultType grown rightBare rightCreated site
  constructor
  · intro same
    refine conjoin_of_same leftType rightType fun one isOne other isOther => ?_
    obtain ⟨oneResolved, oneBinds⟩ := leftReflects.bound one isOne
    obtain ⟨otherResolved, otherBinds⟩ := rightReflects.bound other isOther
    exact same one other oneBinds oneResolved otherBinds otherResolved
  · rintro ⟨one, oneBinds, oneResolved⟩ ⟨other, otherBinds, otherResolved⟩ differ
    cases first with
    | none => simp [leftReflects.free rfl one oneBinds] at oneResolved
    | some found =>
        cases second with
        | none => simp [rightReflects.free rfl other otherBinds] at otherResolved
        | some another =>
            obtain ⟨foundResolved, foundBinds⟩ := leftReflects.bound found rfl
            obtain ⟨anotherResolved, anotherBinds⟩ := rightReflects.bound another rfl
            exact conjoin_of_different leftType rightType
              (differ found another foundBinds foundResolved anotherBinds anotherResolved)

/-- Two classes: one over two type variables that hands this one on to post guards, and one with
`str` and `int` in their place. -/
def pairClasses (name : String) : List (ClassId × List TypeExpr × Checking) :=
  [(.declared ⟨[0]⟩ "Pair",
      [Hierarchy.applied "PostGuard" [.variable name],
        Hierarchy.applied "Generic" [.variable "K", .variable "V"]], .given),
    (.declared ⟨[1]⟩ "TextPair",
      [.applied ⟨[2]⟩ (.declared ⟨[0]⟩ "Pair") [.named (.known "str"), .named (.known "int")]],
      .given)]

def isNamed (cls : ClassId) : Value → Bool
  | .type type => TypeExpr.same (.named cls) type
  | _ => false

theorem eq_of_isNamed {cls : ClassId} {value : Value} (named : isNamed cls value = true) :
    value = .type (.named cls) := by
  unfold isNamed at named
  split at named
  · rw [TypeExpr.eq_named_of_same named]
  · contradiction

theorem grown_of_pairClasses {name : String}
    (declarable : Hierarchy.initial.declarable (pairClasses name) = true) :
    (Hierarchy.initial.declareAll (pairClasses name)).Grown := by
  apply Hierarchy.Grown.initial.declareAll ?_ declarable
  rfl

/-- The order of the type arguments decides which guards of a class can be joined. -/
theorem conjoin_of_pairs :
    let facts : Facts := ⟨Hierarchy.initial.declareAll (pairClasses "K"), .empty⟩
    let pair := ClassId.declared ⟨[0]⟩ "Pair"
    let guard (place : Site) (first second : String) : PostGuard := .leaf place pair []
      (.type (.applied place pair [.named (.known first), .named (.known second)]))
      ⟨"guard", 0, .gives .none⟩
    facts.hierarchy.Grown ∧
      (∃ joined, conjoin facts .root .none (.post (guard ⟨[3]⟩ "str" "int"))
        (.post (guard ⟨[4]⟩ "str" "bytes")) = .ok joined) ∧
      ∃ cause, Misfit cause ∧ conjoin facts .root .none (.post (guard ⟨[3]⟩ "str" "int"))
        (.post (guard ⟨[4]⟩ "int" "str")) = .error cause := by
  intro facts pair guard
  have checks : (Hierarchy.initial.declarable (pairClasses "K") &&
      decide (facts.hierarchy.parameters pair = ["K", "V"]) && facts.hierarchy.guards pair &&
      facts.hierarchy.orderly pair && (facts.member? pair pinAttribute).isNone &&
      (facts.member? pair "result_type").isNone) = true := by
    decide +kernel
  simp only [Bool.and_eq_true, decide_eq_true_eq, Option.isNone_iff_eq_none] at checks
  obtain ⟨⟨⟨⟨⟨declarable, parameters⟩, guards⟩, orderly⟩, unpinned⟩, unnamed⟩ := checks
  have grown : facts.hierarchy.Grown := by
    simp only [facts]
    exact grown_of_pairClasses declarable
  have unwritten (place : Place) (name : String) : facts.store.find? place name = none := rfl
  -- All that is needed of the hierarchy is known; nothing below evaluates it.
  clear_value facts
  have bare (place : Site) (first second : String) : Bare facts (guard place first second) :=
    ⟨guards, namedType?_leaf (unwritten _ _) unnamed, unwritten _ _, unpinned⟩
  have created (place : Site) (first second : String) :
      Created facts.hierarchy (guard place first second)
        (TypeExpr.assign ["K", "V"] [.named (.known first), .named (.known second)]) := by
    rw [← parameters]
    exact .applied rfl (congrArg List.length parameters).symm orderly rfl
  have unique (first second : String) {type : TypeExpr}
      (binds : facts.hierarchy.Binds pair
        (TypeExpr.assign ["K", "V"] [.named (.known first), .named (.known second)]) type) :
      type = .named (.known first) :=
    grown.eq_first_of_binds binds orderly parameters
  have binds := grown.binds_first (grown.known_of_guards guards) guards orderly parameters
  obtain ⟨joins, -⟩ := (resultType_reflects_binding facts .root grown).2 _ _ _ _ .none
    (bare ⟨[3]⟩ "str" "int") (bare ⟨[4]⟩ "str" "bytes")
    (created _ _ _) (created _ _ _)
  obtain ⟨-, refuses⟩ := (resultType_reflects_binding facts .root grown).2 _ _ _ _ .none
    (bare ⟨[3]⟩ "str" "int") (bare ⟨[4]⟩ "int" "str")
    (created _ _ _) (created _ _ _)
  refine ⟨grown, joins fun one other oneBinds _ otherBinds _ => ?_,
    refuses ⟨_, binds _, rfl⟩ ⟨_, binds _, rfl⟩ fun one other oneBinds _ otherBinds _ => ?_⟩
  · rw [unique "str" "int" oneBinds, unique "str" "bytes" otherBinds]
    rfl
  · rw [unique "str" "int" oneBinds, unique "int" "str" otherBinds]
    rfl

/-- A class that hands its second type variable on: the guards of its descendants inspect numbers, and
the library takes them for guards over texts. -/
theorem resultType_of_swapped_pair :
    let facts : Facts := ⟨Hierarchy.initial.declareAll (pairClasses "V"), .empty⟩
    let guard : PostGuard := .leaf ⟨[3]⟩ (.declared ⟨[1]⟩ "TextPair") [] .none
      ⟨"guard", 0, .gives .none⟩
    facts.hierarchy.Grown ∧ Bare facts guard ∧ guard.pin.isNone = true ∧
      (∀ type, facts.hierarchy.Binds guard.cls .variable type ↔ type = .named (.known "int")) ∧
      facts.resultType (.post guard) .root = .ok (some (.type (.named (.known "str")))) := by
  intro facts guard
  have checks : (Hierarchy.initial.declarable (pairClasses "V") &&
      decide (facts.hierarchy.parameters (.declared ⟨[0]⟩ "Pair") = ["K", "V"]) &&
      facts.hierarchy.guards guard.cls && facts.hierarchy.orderly postGuardClass &&
      (facts.member? guard.cls pinAttribute).isNone &&
      (facts.member? guard.cls "result_type").isNone &&
      (facts.hierarchy.inheritedType? guard.cls).any (isNamed (.known "str"))) = true := by
    decide +kernel
  simp only [Bool.and_eq_true, decide_eq_true_eq, Option.isNone_iff_eq_none] at checks
  obtain ⟨⟨⟨⟨⟨⟨declarable, parameters⟩, guards⟩, orderly⟩, unpinned⟩, unnamed⟩, inherits⟩ := checks
  have grown : facts.hierarchy.Grown := by
    simp only [facts]
    exact grown_of_pairClasses declarable
  have unwritten (place : Place) (name : String) : facts.store.find? place name = none := rfl
  have root := grown.parameters_postGuard
  have declared {id : ClassId} {bases : List TypeExpr} {checking : Checking}
      (member : (id, bases, checking) ∈ pairClasses "V") (typed : bases.all Hierarchy.isPlain = false) :
      ∃ entry, facts.hierarchy.find? id = some entry ∧ entry.bases = bases := by
    simp only [facts]
    exact Hierarchy.exists_of_declareAll declarable member typed
  obtain ⟨text, isText, textBases⟩ := declared (.tail _ (.head _)) rfl
  obtain ⟨pair, isPair, pairBases⟩ := declared (.head _) rfl
  clear_value facts
  have bare : Bare facts guard :=
    ⟨guards, namedType?_leaf (unwritten _ _) unnamed, unwritten _ _, unpinned⟩
  refine ⟨grown, bare, rfl, fun type => ⟨fun binds => ?_, ?_⟩, ?_⟩
  · obtain ⟨_, _, _, isBase, binds⟩ | ⟨_, isBase, _⟩ := binds.base (by decide) isText
    · rw [textBases, List.mem_singleton] at isBase
      cases isBase
      rw [parameters] at binds
      obtain ⟨_, _, _, isBase, binds⟩ | ⟨_, isBase, _⟩ := binds.base (by decide) isPair
      · simp only [pairBases, List.mem_cons, List.not_mem_nil, or_false] at isBase
        obtain same | same := isBase
        · cases same
          rw [show ClassId.known "PostGuard" = postGuardClass from rfl, root] at binds
          exact grown.eq_first_of_binds binds orderly root
        · cases same
          exact absurd (grown.guards_of_binds binds) (Bool.not_eq_true _ ▸ grown.not_guards_generic)
      · rw [pairBases] at isBase
        simp [Hierarchy.applied] at isBase
    · rw [textBases] at isBase
      simp at isBase
  · rintro rfl
    refine .applied isText (textBases ▸ List.mem_cons_self) (.applied isPair
      (pairBases ▸ List.mem_cons_self) ?_)
    rw [parameters, show ClassId.known "PostGuard" = postGuardClass from rfl, root]
    exact .root _
  · obtain ⟨value, inherits, isText⟩ := Option.any_eq_true _ _ |>.mp inherits
    rw [resultType_of_bare bare, inherits, eq_of_isNamed isText]
    rfl

end PostGuard

end GuardAlgebra
