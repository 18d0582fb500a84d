import GuardAlgebra.Proofs.Interchange
import GuardAlgebra.Proofs.Library
import GuardAlgebra.Proofs.ParameterType
import GuardAlgebra.Proofs.Styles

namespace GuardAlgebra

/-! # Declared guards

A guard over a function is constructed, or declared, or made by a maker that is declared first. It is the
same guard each time but for the site where it was made, and no check asks for that. An error that is
nothing is an error like any other where the guard is constructed, and no error at all elsewhere.
-/

namespace Hierarchy

variable {base hierarchy : Hierarchy}

theorem descends_known (extended : base.Extends hierarchy) (name : String) (ancestor : ClassId) :
    hierarchy.descends (.known name) ancestor = base.descends (.known name) ancestor := by
  rw [descends, descends, lineage_known extended]

end Hierarchy

namespace Guard

/-- Two trees, the same but that one guard stands in one of them where another stands in the other. -/
inductive Exchanged (one other : Guard) : Guard → Guard → Prop where
  | kept (tree : Guard) : Exchanged one other tree tree
  | exchanged : Exchanged one other one other
  | pair (operator : Operator) (place away : Site) {left right first second : Guard}
      (before : Exchanged one other left first) (after : Exchanged one other right second) :
      Exchanged one other (operator.pair place left right) (operator.pair away first second)

/-- Alone and inside of trees, the one is checked as the other is. -/
def Interchangeable (one other : Guard) : Prop :=
  ∀ around context site tree beside, Exchanged one other tree beside →
    tree.check around context site = beside.check around context site

theorem interchangeable_of_check {one other : Guard}
    (same : ∀ around context site, one.check around context site = other.check around context site) :
    one.Interchangeable other := by
  intro around context site tree beside differ
  induction differ generalizing site with
  | kept tree => rfl
  | exchanged => exact same around context site
  | pair operator place away before after leftIH rightIH =>
      rw [check_pair, check_pair, leftIH]
      simp only [rightIH]

end Guard

namespace PostGuard

/-- The same of conjunctions, whatever they are pinned to and whatever types they name. -/
inductive Exchanged (one other : PostGuard) : PostGuard → PostGuard → Prop where
  | kept (tree : PostGuard) : Exchanged one other tree tree
  | exchanged : Exchanged one other one other
  | both {place away : Site} {pin tag resultType kind : Value} {left right first second : PostGuard}
      (before : Exchanged one other left first) (after : Exchanged one other right second) :
      Exchanged one other (.both place pin left right resultType) (.both away tag first second kind)

def Interchangeable (one other : PostGuard) : Prop :=
  ∀ around context value site tree beside, Exchanged one other tree beside →
    tree.check around context value site = beside.check around context value site

theorem interchangeable_of_check {one other : PostGuard}
    (same : ∀ around context value site,
      one.check around context value site = other.check around context value site) :
    one.Interchangeable other := by
  intro around context value site tree beside differ
  induction differ generalizing site with
  | kept tree => rfl
  | exchanged => exact same around context value site
  | both before after leftIH rightIH =>
      rw [PostGuard.check, PostGuard.check, leftIH]
      simp only [rightIH]

section ResultType

variable {facts : Facts} {place other : Site} {callable error resultType name : Value}

theorem firstArgument?_boundTo (receiver value : Value) :
    firstArgument? (receiver.boundTo value) = firstArgument? value := by
  cases value with
  | method given => cases isStatic : given.isStatic <;> simp [Value.boundTo, isStatic, firstArgument?]
  | _ => rfl

/-- A guard made without type arguments can be pinned by its class alone. -/
theorem pinnedType?_unpinned
    (unwritten : facts.store.find? (.object place) pinAttribute = none) :
    facts.pinnedType? (.post (.function place .none callable error resultType name)) =
      ((facts.member? (.known "FunctionPostGuard") pinAttribute).bind firstArgument?).bind
        concrete? := by
  rw [Facts.pinnedType?, read?_post unwritten]
  change ((none.or (Option.map _ (facts.member? (.known "FunctionPostGuard") _))).bind _).bind _ = _
  rw [Option.none_or, Option.bind_map]
  congr 2
  exact funext fun value => firstArgument?_boundTo _ value

/-- Wherever such a guard is made, it inspects the same type. -/
theorem resultType_unpinned (unwritten : ∀ part, facts.store.find? (.object place) part = none)
    (otherwise : ∀ part, facts.store.find? (.object other) part = none) (site : Site) :
    facts.resultType (.post (.function place .none callable error resultType name)) site =
      facts.resultType (.post (.function other .none callable error resultType name)) site := by
  rw [Facts.resultType, Facts.resultType, namedType?_function (unwritten _),
    namedType?_function (otherwise _), pinnedType?_unpinned (unwritten _),
    pinnedType?_unpinned (otherwise _)]
  rfl

end ResultType

end PostGuard

/-- A function that is to guard, with an error and a type that are given, and the sites where the guard is
constructed, declared, and made by a maker. -/
structure Declaring where
  scene : Scene
  depth : Nat
  function : Value
  error : Value
  resultType : Value
  constructing : Site
  stating : Site
  making : Site
  applying : Site
  isFunction : function.isNone = false
  extended : Hierarchy.initial.Extends scene.facts.hierarchy
  fresh : ∀ site ∈ [constructing, stating, applying], ∀ part,
    scene.facts.store.find? (.object site) part = none

namespace Declaring

variable (declaring : Declaring)

def around : Surroundings := declaring.scene.within (declaring.depth + 1)

def calling (callee : Value) (named : List (String × Value)) (site : Site) : Run Value := do
  let answer ← declaring.around.call callee ⟨[declaring.function], named⟩ site
  pure (answer.unawaited site)

def withError : List (String × Value) := [("error", declaring.error)]

def withType : List (String × Value) := [("result_type", declaring.resultType)]

/-- An instance of a class of guards over functions. -/
def constructed (cls : String) (named : List (String × Value)) (site : Site) : Run Value :=
  declaring.calling (.type (.named (.known cls))) named site

def declared (declaration : Declaration) (named : List (String × Value)) : Run Value :=
  declaring.around.declare declaring.stating declaration ⟨[declaring.function], named⟩

/-- What a maker gives that is declared first, and gets the function afterwards. -/
def decorated (declaration : Declaration) (named : List (String × Value)) : Run Value := do
  let maker ← declaring.around.declare declaring.making declaration ⟨[], named⟩
  declaring.calling maker [] declaring.applying

variable {declaring}

theorem instances_known : ∀ cls ∈ ["FunctionGuard", "FunctionPostGuard"],
    declaring.scene.facts.hierarchy.checking (.known cls) = .given ∧
      declaring.scene.facts.hierarchy.descends (.known cls) (.known "BaseException") = false := by
  have library : (["FunctionGuard", "FunctionPostGuard"].all fun cls =>
      (Hierarchy.initial.lineage (.known cls)).all ClassId.isKnown &&
        decide (Hierarchy.initial.checking (.known cls) = .given) &&
        !Hierarchy.initial.descends (.known cls) (.known "BaseException")) = true := by
    decide +kernel
  intro cls member
  have holds := List.all_eq_true.mp library cls member
  simp only [Bool.and_eq_true, decide_eq_true_eq, Bool.not_eq_true'] at holds
  obtain ⟨⟨known, given⟩, apart⟩ := holds
  rw [Hierarchy.checking_known declaring.extended known,
    Hierarchy.descends_known declaring.extended]
  exact ⟨given, apart⟩

theorem constructed_guard (site : Site) (error : Option Value) :
    declaring.constructed "FunctionGuard" (error.toList.map ("error", ·)) site =
      .done (declaring.scene.facts.functionGuard site declaring.function error none) := by
  obtain ⟨given, apart⟩ := declaring.instances_known "FunctionGuard" (by simp)
  have made : declaring.scene.facts.newInstance site (.known "FunctionGuard") .none
      ⟨[declaring.function], error.toList.map ("error", ·)⟩ =
        .ok (declaring.scene.facts.functionGuard site declaring.function error none) := by
    rw [Facts.newInstance, if_neg (by rw [given]; decide), apart]
    cases error <;> rfl
  change Run.ofAttempt (declaring.scene.facts.newInstance site (.known "FunctionGuard") .none _) >>= _ >>= _ = _
  rw [made]
  rfl

theorem constructed_post (site : Site) (error : Option Value) :
    declaring.constructed "FunctionPostGuard" (error.toList.map ("error", ·) ++ declaring.withType)
        site =
      .done (declaring.scene.facts.functionPost site .none declaring.function error
        declaring.resultType none) := by
  obtain ⟨given, apart⟩ := declaring.instances_known "FunctionPostGuard" (by simp)
  have made : declaring.scene.facts.newInstance site (.known "FunctionPostGuard") .none
      ⟨[declaring.function], error.toList.map ("error", ·) ++ declaring.withType⟩ =
        .ok (declaring.scene.facts.functionPost site .none declaring.function error
          declaring.resultType none) := by
    rw [Facts.newInstance, if_neg (by rw [given]; decide), apart]
    cases error <;> rfl
  change Run.ofAttempt (declaring.scene.facts.newInstance site _ .none _) >>= _ >>= _ = _
  rw [made]
  rfl

/-- Where a function is declared as a guard, an error that is nothing is left out. -/
theorem declared_guard :
    declaring.declared .guard declaring.withError =
      declaring.constructed "FunctionGuard"
        ((Facts.orNone declaring.error).toList.map ("error", ·)) declaring.stating := by
  have isFunction := declaring.isFunction
  rw [constructed_guard]
  change Run.done (Facts.guardOrMaker _ _ declaring.function declaring.error) = _
  cases given : declaring.function with
  | none => exact nomatch given ▸ isFunction
  | _ => rfl

theorem decorated_guard :
    declaring.decorated .guard declaring.withError =
      declaring.constructed "FunctionGuard"
        ((Facts.orNone declaring.error).toList.map ("error", ·)) declaring.applying := by
  rw [constructed_guard]
  rfl

theorem declared_post :
    declaring.declared .post (declaring.withError ++ declaring.withType) =
      declaring.constructed "FunctionPostGuard"
        ((Facts.orNone declaring.error).toList.map ("error", ·) ++ declaring.withType)
        declaring.stating := by
  have isFunction := declaring.isFunction
  rw [constructed_post]
  change Run.done (Facts.postOrMaker _ _ declaring.function declaring.error declaring.resultType) = _
  cases given : declaring.function with
  | none => exact nomatch given ▸ isFunction
  | _ => rfl

theorem decorated_post :
    declaring.decorated .post (declaring.withError ++ declaring.withType) =
      declaring.constructed "FunctionPostGuard"
        ((Facts.orNone declaring.error).toList.map ("error", ·) ++ declaring.withType)
        declaring.applying := by
  rw [constructed_post]
  rfl

theorem orNone_of_given (given : declaring.error.isNone = false) :
    Facts.orNone declaring.error = some declaring.error := by
  cases error : declaring.error with
  | none => exact nomatch error ▸ given
  | _ => rfl

theorem orNone_of_mute (mute : declaring.error.isNone = true) :
    Facts.orNone declaring.error = none := by
  cases error : declaring.error with
  | none => rfl
  | _ => exact nomatch error ▸ mute

variable (declaring)

def guard (site : Site) : Guard :=
  .function site declaring.function declaring.error
    (declaring.scene.facts.nameOf declaring.function)

def post (site : Site) : PostGuard :=
  .function site .none declaring.function declaring.error declaring.resultType
    (declaring.scene.facts.nameOf declaring.function)

theorem interchangeable_guard (site other : Site) :
    (declaring.guard site).Interchangeable (declaring.guard other) :=
  Guard.interchangeable_of_check fun _ _ _ => rfl

theorem interchangeable_post (site other : Site) :
    (declaring.post site).Interchangeable (declaring.post other) :=
  PostGuard.interchangeable_of_check fun _ _ _ _ => rfl

/-- A guard over a function is checked alike, alone and inside of trees, whether it was constructed,
declared or made by a maker, if it was given an error that is something; and post guards inspect the same
type. Given nothing, the guard that is constructed denies with that, and the others are made as without
an error. -/
theorem declared_like_constructed_unless_mute :
    (declaring.error.isNone = false →
      (∃ constructed declared decorated : Guard,
        declaring.constructed "FunctionGuard" declaring.withError declaring.constructing =
            .done (.guard constructed) ∧
          declaring.declared .guard declaring.withError = .done (.guard declared) ∧
          declaring.decorated .guard declaring.withError = .done (.guard decorated) ∧
          constructed.Interchangeable declared ∧ constructed.Interchangeable decorated) ∧
      ∃ constructed declared decorated : PostGuard,
        declaring.constructed "FunctionPostGuard" (declaring.withError ++ declaring.withType)
            declaring.constructing = .done (.post constructed) ∧
          declaring.declared .post (declaring.withError ++ declaring.withType) =
            .done (.post declared) ∧
          declaring.decorated .post (declaring.withError ++ declaring.withType) =
            .done (.post decorated) ∧
          constructed.Interchangeable declared ∧ constructed.Interchangeable decorated ∧
          ∀ site, ∀ other ∈ [declared, decorated],
            declaring.scene.facts.resultType (.post constructed) site =
              declaring.scene.facts.resultType (.post other) site) ∧
    (declaring.error.isNone = true →
      declaring.declared .guard declaring.withError =
          declaring.constructed "FunctionGuard" [] declaring.stating ∧
        declaring.decorated .guard declaring.withError =
          declaring.constructed "FunctionGuard" [] declaring.applying ∧
        declaring.declared .post (declaring.withError ++ declaring.withType) =
          declaring.constructed "FunctionPostGuard" declaring.withType declaring.stating ∧
        declaring.decorated .post (declaring.withError ++ declaring.withType) =
          declaring.constructed "FunctionPostGuard" declaring.withType declaring.applying) := by
  constructor
  · intro given
    have said := declaring.orNone_of_given given
    have guards (site : Site) : declaring.constructed "FunctionGuard" declaring.withError site =
        .done (.guard (declaring.guard site)) :=
      declaring.constructed_guard site (some declaring.error)
    have posts (site : Site) : declaring.constructed "FunctionPostGuard"
        (declaring.withError ++ declaring.withType) site = .done (.post (declaring.post site)) :=
      declaring.constructed_post site (some declaring.error)
    constructor
    · refine ⟨declaring.guard declaring.constructing, declaring.guard declaring.stating,
        declaring.guard declaring.applying, guards _, ?_, ?_, declaring.interchangeable_guard _ _,
        declaring.interchangeable_guard _ _⟩
      · rw [declared_guard, said]
        exact guards _
      · rw [decorated_guard, said]
        exact guards _
    · have fresh := declaring.fresh
      simp only [List.forall_mem_cons] at fresh
      refine ⟨declaring.post declaring.constructing, declaring.post declaring.stating,
        declaring.post declaring.applying, posts _, ?_, ?_, declaring.interchangeable_post _ _,
        declaring.interchangeable_post _ _, ?_⟩
      · rw [declared_post, said]
        exact posts _
      · rw [decorated_post, said]
        exact posts _
      · intro site
        simp only [List.forall_mem_cons]
        exact ⟨PostGuard.resultType_unpinned fresh.1 fresh.2.1 site,
          PostGuard.resultType_unpinned fresh.1 fresh.2.2.1 site, List.forall_mem_nil _⟩
  · intro mute
    rw [declared_guard, decorated_guard, declared_post, decorated_post,
      declaring.orNone_of_mute mute]
    exact ⟨rfl, rfl, rfl, rfl⟩

/-- A function that denies, in a session that has just begun. -/
def denying (error : Value) : Declaring where
  scene := Session.initial.scene
  depth := 1
  function := .callable ⟨⟨[0]⟩, some "isAdmin", "isAdmin", .async, 2, .reply (.gives (.bool false))⟩
  error := error
  resultType := .type (.named (.known "int"))
  constructing := ⟨[1]⟩
  stating := ⟨[2]⟩
  making := ⟨[3]⟩
  applying := ⟨[4]⟩
  isFunction := rfl
  extended := Session.initial_extends
  fresh := fun _ _ _ => rfl

/-- A denial with a text, behind another guard of a conjunction. -/
theorem declared_with_text :
    let declaring := denying (.str "no")
    let beside (site : Site) (tree : Guard) : Guard := .both site (.allowAll ⟨[5]⟩) tree
    declaring.error.isNone = false ∧
      ∃ constructed declared : Guard,
        declaring.constructed "FunctionGuard" declaring.withError declaring.constructing =
            .done (.guard constructed) ∧
          declaring.declared .guard declaring.withError = .done (.guard declared) ∧
          ((beside ⟨[6]⟩ constructed).check declaring.around .none .root).result =
            .ok (.result (Site.root.child 1) (.bool false) (.str "no")) ∧
          ((beside ⟨[7]⟩ declared).check declaring.around .none .root).result =
            .ok (.result (Site.root.child 1) (.bool false) (.str "no")) := by
  intro declaring beside
  obtain ⟨⟨constructed, declared, decorated, one, two, -, same, -⟩, -⟩ :=
    (declared_like_constructed_unless_mute declaring).1 rfl
  have equal : (beside ⟨[6]⟩ constructed).check declaring.around .none .root =
      (beside ⟨[7]⟩ declared).check declaring.around .none .root :=
    same _ _ _ _ _ (.pair .and _ _ (.kept _) .exchanged)
  have made := declaring.constructed_guard ⟨[1]⟩ (some (.str "no"))
  have denies : ((beside ⟨[6]⟩ constructed).check declaring.around .none .root).result =
      .ok (.result (Site.root.child 1) (.bool false) (.str "no")) := by
    rw [show constructed = declaring.guard ⟨[1]⟩ from
      Value.guard.inj (Run.done.inj (one.symm.trans made))]
    rfl
  exact ⟨rfl, constructed, declared, one, two, denies, equal ▸ denies⟩

/-- The guard that is constructed denies with nothing, and the one that is declared with the usual
error. -/
theorem declared_differs_on_absent_error :
    let declaring := denying .none
    ∃ constructed declared : Guard,
      declaring.constructed "FunctionGuard" declaring.withError declaring.constructing =
          .done (.guard constructed) ∧
        declaring.declared .guard declaring.withError = .done (.guard declared) ∧
        (constructed.check declaring.around .none .root).result =
          .ok (.result .root (.bool false) .none) ∧
        (declared.check declaring.around .none .root).result =
          .ok (.result .root (.bool false)
            (.exception (.accessDenied (declaring.stating.child 0)))) := by
  intro declaring
  have constructed := declaring.constructed_guard declaring.constructing (some .none)
  have declared := declaring.declared_guard.trans (declaring.constructed_guard _ none)
  exact ⟨_, _, constructed, declared, rfl, rfl⟩

end Declaring

end GuardAlgebra
