import GuardAlgebra.Proofs.Grouping
import GuardAlgebra.Proofs.Inert
import GuardAlgebra.Proofs.Library
import GuardAlgebra.Proofs.Typing
import GuardAlgebra.Session.Execute

namespace GuardAlgebra

/-! # Folds and chains

Many guards are joined at once by a declaration, or one after another by an operator or the method
behind it. Either way makes a grouping of them. A declaration takes any values, and refuses those that
are no guards.
-/

/-- All values are guards, or one of them is the first that is none. -/
theorem guards_or_foreign (values : List Value) :
    (∃ guards : List Guard, values = guards.map Value.guard) ∨
      ∃ (guards : List Guard) (value : Value) (after : List Value),
        values = guards.map Value.guard ++ value :: after ∧ ∀ tree, value ≠ .guard tree := by
  induction values with
  | nil => exact .inl ⟨[], rfl⟩
  | cons value rest ih =>
      by_cases isGuard : ∃ tree, value = .guard tree
      · obtain ⟨tree, rfl⟩ := isGuard
        rcases ih with ⟨guards, rfl⟩ | ⟨guards, value, after, rfl, foreign⟩
        · exact .inl ⟨tree :: guards, rfl⟩
        · exact .inr ⟨tree :: guards, value, after, rfl, foreign⟩
      · exact .inr ⟨[], value, rest, rfl, fun tree same => isGuard ⟨tree, same⟩⟩

namespace Operator

def join : Operator → Site → Value → Value → Attempt Guard
  | .and => Guard.conjoin
  | .or => Guard.disjoin

/-- The declaration that joins many guards at once. -/
def declaration : Operator → Declaration
  | .and => .conjunction
  | .or => .disjunction

def callee : Operator → String
  | .and => "all_of"
  | .or => "any_of"

/-- What the library has guards do under the name of the operator's method. -/
def composer : Operator → Method
  | .and => .meetGuards
  | .or => .joinGuards

variable {operator : Operator} {site : Site}

theorem join_guards (left right : Guard) :
    operator.join site (.guard left) (.guard right) = .ok (operator.pair site left right) := by
  cases operator <;> rfl

theorem exists_fold (operator : Operator) (site : Site) (rest : List Guard) {first : Guard}
    {items : List Guard}
    (groups : Groups operator.Joins first items) :
    ∃ tree, Guard.fold operator.join site first rest = .ok tree ∧
      Groups operator.Joins tree (items ++ rest) := by
  induction rest generalizing site first items with
  | nil => exact ⟨first, rfl, (List.append_nil items).symm ▸ groups⟩
  | cons next rest ih =>
      have joined : Groups operator.Joins (operator.pair site first next) (items ++ [next]) :=
        groups.pair ⟨site, rfl⟩ (groups_one _ next)
      obtain ⟨tree, folded, made⟩ := ih (site.child 0) joined
      refine ⟨tree, ?_, by simpa using made⟩
      rw [Guard.fold, join_guards]
      exact folded

theorem mapM_asGuard (guards : List Guard) :
    (guards.map Value.guard).mapM (Value.asGuard site) = .ok guards := by
  induction guards with
  | nil => rfl
  | cons guard rest ih =>
      rw [List.map_cons, List.mapM_cons, ih]
      rfl

theorem mapM_asGuard_of_foreign (guards : List Guard) {value : Value} (after : List Value)
    (foreign : ∀ tree, value ≠ .guard tree) :
    (guards.map Value.guard ++ value :: after).mapM (Value.asGuard site) =
      .error (unexpected site "Guard" value) := by
  induction guards with
  | nil =>
      rw [List.map_nil, List.nil_append, List.mapM_cons]
      cases value with
      | guard tree => exact absurd rfl (foreign tree)
      | _ => rfl
  | cons guard rest ih =>
      rw [List.map_cons, List.cons_append, List.mapM_cons, ih]
      rfl

theorem result_declare (around : Surroundings) (values : List Value) :
    (around.declare site operator.declaration ⟨values, []⟩).result =
      (Guard.foldAll operator.join operator.callee site values).map Value.guard := by
  cases operator with
  | and =>
      rw [declaration, Surroundings.declare, Run.result_ofAttempt]
      change (do return Value.guard (← Guard.foldAll Guard.conjoin "all_of" site values)) = _
      rw [join, callee]
      cases Guard.foldAll Guard.conjoin "all_of" site values <;> rfl
  | or =>
      rw [declaration, Surroundings.declare, Run.result_ofAttempt]
      change (do return Value.guard (← Guard.foldAll Guard.disjoin "any_of" site values)) = _
      rw [join, callee]
      cases Guard.foldAll Guard.disjoin "any_of" site values <;> rfl

/-- A declaration makes a grouping of the guards it is given. -/
theorem declare_groups (operator : Operator) (around : Surroundings) (site : Site) (first : Guard)
    (rest : List Guard) :
    ∃ tree, (around.declare site operator.declaration ⟨(first :: rest).map .guard, []⟩).result =
        .ok (.guard tree) ∧
      Groups operator.Joins tree (first :: rest) := by
  have folds : ∃ tree, Guard.fold operator.join site first rest = .ok tree ∧
      Groups operator.Joins tree ([first] ++ rest) :=
    operator.exists_fold site rest (groups_one operator.Joins first)
  obtain ⟨tree, folded, made⟩ := folds
  refine ⟨tree, ?_, made⟩
  rw [result_declare, Guard.foldAll, mapM_asGuard]
  change (Guard.fold operator.join site first rest).map Value.guard = _
  rw [folded]
  rfl

theorem declare_nothing (around : Surroundings) (site : Site) :
    (around.declare site operator.declaration ⟨[], []⟩).result =
      .error (.misfit site (operator.callee ++ "() requires at least one guard") []) := by
  rw [result_declare]
  rfl

theorem declare_foreign (around : Surroundings) (site : Site) (guards : List Guard) {value : Value}
    (after : List Value) (foreign : ∀ tree, value ≠ .guard tree) :
    (around.declare site operator.declaration
      ⟨guards.map Value.guard ++ value :: after, []⟩).result =
        .error (unexpected site "Guard" value) := by
  rw [result_declare, Guard.foldAll, mapM_asGuard_of_foreign guards after foreign]
  rfl

/-- A declaration refuses to join nothing, and it refuses what is no guard; nothing else fails. -/
theorem declare_refuses (around : Surroundings) (site : Site) (values : List Value) :
    ((∃ cause, (around.declare site operator.declaration ⟨values, []⟩).result = .error cause) ↔
      values = [] ∨ ∃ value ∈ values, ∀ tree, value ≠ .guard tree) ∧
    ∀ cause, (around.declare site operator.declaration ⟨values, []⟩).result = .error cause →
      Misfit cause := by
  rcases guards_or_foreign values with ⟨guards, rfl⟩ | ⟨guards, value, after, rfl, foreign⟩
  · cases guards with
    | nil =>
        rw [List.map_nil, declare_nothing]
        refine ⟨⟨fun _ => .inl rfl, fun _ => ⟨_, rfl⟩⟩, ?_⟩
        rintro cause ⟨⟩
        exact .misfit ..
    | cons first rest =>
        obtain ⟨tree, made, -⟩ := operator.declare_groups around site first rest
        rw [made]
        refine ⟨⟨?_, ?_⟩, nofun⟩
        · rintro ⟨cause, failed⟩
          exact nomatch failed
        · rintro (empty | ⟨value, member, foreign⟩)
          · exact nomatch empty
          · obtain ⟨guard, -, rfl⟩ := List.mem_map.mp member
            exact absurd rfl (foreign guard)
  · rw [declare_foreign around site guards after foreign]
    refine ⟨⟨fun _ => .inr ⟨value, ?_, foreign⟩, fun _ => ⟨_, rfl⟩⟩, ?_⟩
    · exact List.mem_append_right _ List.mem_cons_self
    · rintro cause ⟨⟩
      exact .misfit ..

end Operator

namespace Surroundings

/-- Combines values by an operator, one after another from the left, each time at a site of its own. -/
def chain (around : Surroundings) (operator : Operator) : Value → List (Site × Value) → Run Value
  | first, [] => .done first
  | first, (site, next) :: rest => do
      let joined ← around.operate operator first next site
      around.chain operator joined rest

end Surroundings

/-- A class brings a method along, for itself or from an ancestor, and all of these are of the library. -/
def Hierarchy.brings (base : Hierarchy) (title name : String) (method : Method) : Bool :=
  let ancestors := base.lineage (.known title)
  ancestors.all ClassId.isKnown &&
    match ancestors.findSome? fun ancestor => entryOf? (base.members ancestor) name with
    | some (.method given) => given = method
    | _ => false

section Methods

variable {facts : Facts} {base : Hierarchy} {name : String} {method : Method}

theorem Facts.findSome?_memberAt? (extended : base.Extends facts.hierarchy)
    (unwritten : ∀ place, facts.store.find? place name = none) {ancestors : List ClassId}
    (known : ancestors.all ClassId.isKnown = true) :
    (ancestors.findSome? fun ancestor => facts.memberAt? ancestor name) =
      ancestors.findSome? fun ancestor => entryOf? (base.members ancestor) name := by
  induction ancestors with
  | nil => rfl
  | cons ancestor rest ih =>
      rw [List.all_cons, Bool.and_eq_true] at known
      cases ancestor with
      | known title =>
          rw [List.findSome?_cons, List.findSome?_cons, ih known.2, Facts.memberAt?, unwritten,
            Hierarchy.members_known extended]
      | declared site title => exact absurd known.1 Bool.false_ne_true
      | outside title => exact absurd known.1 Bool.false_ne_true

/-- Where nothing was written under its name, a class has the method that it brings along. -/
theorem Facts.member?_of_brings (extended : base.Extends facts.hierarchy)
    (unwritten : ∀ place, facts.store.find? place name = none) {title : String}
    (brings : base.brings title name method = true) :
    facts.member? (.known title) name = some (.method method) := by
  rw [Hierarchy.brings, Bool.and_eq_true] at brings
  obtain ⟨known, given⟩ := brings
  rw [Facts.member?, Hierarchy.lineage_known extended,
    Facts.findSome?_memberAt? extended unwritten known]
  split at given
  · rename_i found
    rw [found, of_decide_eq_true given]
  · exact absurd given Bool.false_ne_true

end Methods

/-- The application left alone what the library has guards compose by. -/
structure Facts.Composes (facts : Facts) : Prop where
  extended : Hierarchy.initial.Extends facts.hierarchy
  unwritten : ∀ place operator, facts.store.find? place (Operator.method operator) = none

namespace Facts.Composes

variable {facts : Facts}

theorem member?_library (composes : facts.Composes) :
    (∀ title ∈ ["And", "Or", "AllowAll", "DenyAll", "FunctionGuard"], ∀ operator : Operator,
      facts.member? (.known title) operator.method = some (.method operator.composer)) ∧
    facts.member? (.known "PostAnd") Operator.and.method = some (.method .meetPosts) := by
  have guards : (["And", "Or", "AllowAll", "DenyAll", "FunctionGuard"].all fun title =>
      [Operator.and, .or].all fun operator =>
        Hierarchy.initial.brings title operator.method operator.composer) = true := by
    decide +kernel
  have posts : Hierarchy.initial.brings "PostAnd" Operator.and.method .meetPosts = true := by
    decide +kernel
  constructor
  · intro title library operator
    have listed : operator ∈ [Operator.and, .or] := by cases operator <;> simp
    have brings := List.all_eq_true.mp (List.all_eq_true.mp guards title library) operator listed
    exact Facts.member?_of_brings composes.extended (composes.unwritten · operator) brings
  · exact Facts.member?_of_brings composes.extended (composes.unwritten · .and) posts

/-- Guards of the library compose as it has them; one of the application does if its class says so. -/
theorem member?_guard (composes : facts.Composes) {operator : Operator} {tree : Guard}
    (inherits : ∀ place cls given, tree = .leaf place cls given →
      facts.member? cls operator.method = some (.method operator.composer)) :
    facts.member? tree.cls operator.method = some (.method operator.composer) := by
  cases tree with
  | leaf place cls given => exact inherits place cls given rfl
  | _ => exact composes.member?_library.1 _ (by decide) operator

theorem read_guard (composes : facts.Composes) {operator : Operator} {tree : Guard}
    (member : facts.member? tree.cls operator.method = some (.method operator.composer)) :
    facts.read (.guard tree) operator.method = .ok (.bound (.method operator.composer) (.guard tree)) := by
  have object : ∀ expr, Value.guard tree ≠ .type expr := nofun
  have unwritten : facts.written? (.guard tree) operator.method = none :=
    composes.unwritten _ operator
  have underived : (Value.guard tree).derived? operator.method = none := by cases operator <;> rfl
  have entry : entryOf? (Value.guard tree).own operator.method = none := by
    cases operator <;> cases tree <;> rfl
  have bound : operator.composer.isStatic = false := by cases operator <;> rfl
  exact Facts.read_method object underived unwritten entry rfl member bound

theorem read_post (composes : facts.Composes) {tree : PostGuard}
    (member : facts.member? tree.cls Operator.and.method = some (.method .meetPosts)) :
    facts.read (.post tree) Operator.and.method = .ok (.bound (.method .meetPosts) (.post tree)) := by
  have object : ∀ expr, Value.post tree ≠ .type expr := nofun
  have entry : entryOf? (Value.post tree).own Operator.and.method = none := by
    cases unpinned : tree.pin.isNone <;> cases tree <;>
      simp [Value.own, PostGuard.own, unpinned, entryOf?, pinAttribute, Operator.method]
  exact Facts.read_method object rfl (composes.unwritten _ .and) entry rfl member rfl

end Facts.Composes

namespace PostGuard

variable {facts : Facts} {site : Site} {tree : PostGuard}

theorem joins_of_conjoin {pin : Value} {left right : PostGuard}
    (made : conjoin facts site pin (.post left) (.post right) = .ok tree) :
    PostGuard.Joins left right tree := by
  obtain ⟨one, isLeft, made⟩ := Attempt.bind_eq_ok.mp made
  obtain ⟨other, isRight, made⟩ := Attempt.bind_eq_ok.mp made
  obtain ⟨oneType, -, made⟩ := Attempt.bind_eq_ok.mp made
  obtain ⟨otherType, -, made⟩ := Attempt.bind_eq_ok.mp made
  obtain ⟨resultType, -, made⟩ := Attempt.bind_eq_ok.mp made
  cases isLeft
  cases isRight
  cases made
  exact ⟨site, pin, resultType, rfl⟩

theorem groups_of_fold {rest : List PostGuard} {first : PostGuard} {items : List PostGuard}
    (groups : Groups PostGuard.Joins first items) (made : fold facts site first rest = .ok tree) :
    Groups PostGuard.Joins tree (items ++ rest) := by
  induction rest generalizing site first items with
  | nil =>
      cases made
      rw [List.append_nil]
      exact groups
  | cons next rest ih =>
      obtain ⟨joined, conjoined, made⟩ := Attempt.bind_eq_ok.mp made
      have grown := ih (groups.pair (joins_of_conjoin conjoined) (groups_one _ next)) made
      rwa [List.append_assoc] at grown

/-- A declaration that succeeds makes a grouping of the post guards it is given. -/
theorem groups_of_declare {around : Surroundings} {first : PostGuard} {rest : List PostGuard}
    {made : Value}
    (declared : (around.declare site .postConjunction ⟨(first :: rest).map .post, []⟩).result =
      .ok made) :
    ∃ tree, made = .post tree ∧ Groups PostGuard.Joins tree (first :: rest) := by
  rw [Surroundings.declare, Run.result_ofAttempt] at declared
  obtain ⟨values, given, declared⟩ := Attempt.bind_eq_ok.mp declared
  cases given
  obtain ⟨tree, folded, declared⟩ := Attempt.bind_eq_ok.mp declared
  cases declared
  rw [foldAll, Plan.mapM_asPost] at folded
  exact ⟨tree, rfl, groups_of_fold (groups_one _ first) folded⟩

end PostGuard

section Chain

variable {scene : Scene} {depth : Nat} {site : Site}

theorem operate_guards (composes : scene.facts.Composes) {operator : Operator} {left : Guard}
    (right : Guard)
    (member : scene.facts.member? left.cls operator.method = some (.method operator.composer)) :
    Surroundings.operate ⟨scene.facts, scene.callWithin (depth + 2)⟩ operator (.guard left)
      (.guard right) site = .done (.guard (operator.pair site left right)) := by
  rw [Surroundings.operate, Surroundings.demand, Surroundings.ask, composes.read_guard member]
  cases operator <;> rfl

/-- A chain of guards makes a grouping of them. -/
theorem chain_groups (composes : scene.facts.Composes) (operator : Operator)
    (rest : List (Site × Guard)) {first : Guard} {items : List Guard}
    (groups : Groups operator.Joins first items)
    (member : scene.facts.member? first.cls operator.method = some (.method operator.composer)) :
    ∃ tree, (Surroundings.chain ⟨scene.facts, scene.callWithin (depth + 2)⟩ operator (.guard first)
        (rest.map (Prod.map id .guard))).result = .ok (.guard tree) ∧
      Groups operator.Joins tree (items ++ rest.map Prod.snd) := by
  induction rest generalizing first items with
  | nil => exact ⟨first, rfl, (List.append_nil items).symm ▸ groups⟩
  | cons next rest ih =>
      obtain ⟨site, next⟩ := next
      have joined : Groups operator.Joins (operator.pair site first next) (items ++ [next]) :=
        groups.pair ⟨site, rfl⟩ (groups_one _ next)
      have inherits : scene.facts.member? (operator.pair site first next).cls operator.method =
          some (.method operator.composer) :=
        composes.member?_guard fun _ _ _ same => by cases operator <;> cases same
      obtain ⟨tree, chained, made⟩ := ih joined inherits
      refine ⟨tree, ?_, by simpa using made⟩
      rw [List.map_cons, Prod.map, Surroundings.chain, operate_guards composes next member]
      exact chained

theorem joins_of_operate (composes : scene.facts.Composes) {left right : PostGuard} {made : Value}
    (member : scene.facts.member? left.cls Operator.and.method = some (.method .meetPosts))
    (operated : (Surroundings.operate ⟨scene.facts, scene.callWithin (depth + 2)⟩ .and (.post left)
      (.post right) site).result = .ok made) :
    ∃ tree, made = .post tree ∧ PostGuard.Joins left right tree := by
  rw [Surroundings.operate, Surroundings.demand, Surroundings.ask, composes.read_post member] at operated
  obtain ⟨answer, asked, unawaited⟩ := Run.result_bind_eq_ok.mp operated
  have composed : (Surroundings.atOnce ((PostGuard.conjoin scene.facts site .none (.post left)
      (.post right)).map Value.post)).result = .ok answer := asked
  obtain ⟨value, made, rfl⟩ := atOnce_eq_ok composed
  obtain ⟨tree, conjoined, rfl⟩ := Attempt.map_eq_ok.mp made
  cases unawaited
  exact ⟨tree, rfl, PostGuard.joins_of_conjoin conjoined⟩

/-- So does a chain of post guards, where it succeeds. -/
theorem groups_of_chain (composes : scene.facts.Composes) {rest : List (Site × PostGuard)}
    {first : PostGuard} {items : List PostGuard} {made : Value}
    (groups : Groups PostGuard.Joins first items)
    (member : scene.facts.member? first.cls Operator.and.method = some (.method .meetPosts))
    (chained : (Surroundings.chain ⟨scene.facts, scene.callWithin (depth + 2)⟩ .and (.post first)
      (rest.map (Prod.map id .post))).result = .ok made) :
    ∃ tree, made = .post tree ∧ Groups PostGuard.Joins tree (items ++ rest.map Prod.snd) := by
  induction rest generalizing first items with
  | nil =>
      cases chained
      exact ⟨first, rfl, (List.append_nil items).symm ▸ groups⟩
  | cons next rest ih =>
      obtain ⟨site, next⟩ := next
      rw [List.map_cons, Prod.map, Surroundings.chain] at chained
      obtain ⟨value, operated, chained⟩ := Run.result_bind_eq_ok.mp chained
      obtain ⟨joined, rfl, joins⟩ := joins_of_operate composes member operated
      have inherits : scene.facts.member? joined.cls Operator.and.method =
          some (.method .meetPosts) := by
        obtain ⟨place, pin, resultType, rfl⟩ := joins
        exact composes.member?_library.2
      obtain ⟨tree, made, grown⟩ := ih (groups.pair joins (groups_one _ next)) inherits chained
      refine ⟨tree, made, by simpa using grown⟩

end Chain

/-- Grouping makes no difference. Declarations that join many guards at once, chains by an operator and
all other groupings of the same guards ask the same of them and end as the same one of them: as the
first that raises, or else the first that denies or, for a disjunction, allows, or else the last. For
conjunctions of post guards that is the first that does not allow, behind which none is asked. A
declaration refuses to join nothing at all, and the first value that is no guard.

Each of them must give a result whose `allowed` has a truth value, if it gives anything: so `Flattens`
asks of every part. A chain that begins with a guard of the application composes by what its class
inherits from the library. -/
theorem grouping_makes_no_difference (scene : Scene) (depth : Nat) (context value : Value) :
    let around : Surroundings := ⟨scene.facts, scene.callWithin (depth + 2)⟩
    (∀ operator : Operator,
      Flattens operator.Joins (Placed.check around context) Verdict.askedEagerly operator.speaker ∧
      ∀ (first : Guard) (rest : List (Site × Guard)) (site : Site),
        (∃ tree, (around.declare site operator.declaration
            ⟨(first :: rest.map Prod.snd).map .guard, []⟩).result = .ok (.guard tree) ∧
          Groups operator.Joins tree (first :: rest.map Prod.snd)) ∧
        (scene.facts.Composes →
          (∀ place cls given, first = .leaf place cls given →
            scene.facts.member? cls operator.method = some (.method operator.composer)) →
          ∃ tree, (around.chain operator (.guard first) (rest.map (Prod.map id .guard))).result =
              .ok (.guard tree) ∧
            Groups operator.Joins tree (first :: rest.map Prod.snd))) ∧
    (Flattens PostGuard.Joins (Placed.inspect around context value) Verdict.askedInTurn
        Verdict.refusing ∧
      ∀ (first : PostGuard) (rest : List (Site × PostGuard)) (site : Site) (made : Value),
        ((around.declare site .postConjunction ⟨(first :: rest.map Prod.snd).map .post, []⟩).result =
            .ok made →
          ∃ tree, made = .post tree ∧ Groups PostGuard.Joins tree (first :: rest.map Prod.snd)) ∧
        (scene.facts.Composes →
          scene.facts.member? first.cls Operator.and.method = some (.method .meetPosts) →
          (around.chain .and (.post first) (rest.map (Prod.map id .post))).result = .ok made →
          ∃ tree, made = .post tree ∧ Groups PostGuard.Joins tree (first :: rest.map Prod.snd))) ∧
    ∀ (operator : Operator) (site : Site) (values : List Value),
      ((∃ cause, (around.declare site operator.declaration ⟨values, []⟩).result = .error cause) ↔
        values = [] ∨ ∃ value ∈ values, ∀ tree, value ≠ .guard tree) ∧
      (∀ cause, (around.declare site operator.declaration ⟨values, []⟩).result = .error cause →
        Misfit cause) ∧
      ∀ (guards : List Guard) (value : Value) (after : List Value),
        values = guards.map .guard ++ value :: after → (∀ tree, value ≠ .guard tree) →
        (around.declare site operator.declaration ⟨values, []⟩).result =
          .error (unexpected site "Guard" value) := by
  intro around
  refine ⟨fun operator => ⟨Guard.flattens operator around context, fun first rest site => ?_⟩,
    ⟨PostGuard.flattens around context value, fun first rest site made => ?_⟩,
    fun operator site values => ?_⟩
  · exact ⟨operator.declare_groups around site first (rest.map Prod.snd),
      fun composes inherits => chain_groups composes operator rest (groups_one _ first)
        (composes.member?_guard inherits)⟩
  · exact ⟨PostGuard.groups_of_declare,
      fun composes => groups_of_chain composes (groups_one _ first)⟩
  · obtain ⟨refuses, misfits⟩ := operator.declare_refuses around site values
    refine ⟨refuses, misfits, ?_⟩
    rintro guards value after rfl foreign
    exact operator.declare_foreign around site guards after foreign

/-- Three guards of which two deny, grouped from the left and from the right: all three are asked both
times, and the first denial is given. -/
theorem grouping_of_two_denials :
    let scene := Session.initial.scene
    let around : Surroundings := ⟨scene.facts, scene.callWithin 2⟩
    let guard (turn : Nat) (label : String) (truth : Bool) : Guard :=
      .function ⟨[turn, 2]⟩ (.callable ⟨⟨[turn]⟩, none, label, .async, turn,
        .reply (.gives (.result ⟨[turn, 0]⟩ (.bool truth) (.str label)))⟩) .none .none
    let first := guard 0 "first" true
    let second := guard 1 "second" false
    let third := guard 2 "third" false
    let tree := Guard.both ⟨[3]⟩ first (.both ⟨[4]⟩ second third)
    let chained := around.chain .and (.guard first)
      [(.root, .guard second), (Site.root.child 0, .guard third)]
    scene.facts.Composes ∧
      ∃ folded, chained.result = .ok (.guard folded) ∧
        (folded.check around .none .root).events = (tree.check around .none .root).events ∧
        (folded.check around .none .root).result =
          .ok (.result ⟨[1, 0]⟩ (.bool false) (.str "second")) := by
  intro scene around guard first second third tree chained
  have extended : Hierarchy.initial.Extends scene.facts.hierarchy := by
    simp only [scene, Session.initial, Session.opening, Hierarchy.declareAll, List.foldl_nil]
    exact .refl _
  have composes : scene.facts.Composes := ⟨extended, fun _ _ => rfl⟩
  obtain ⟨guards, -, -⟩ := grouping_makes_no_difference scene 0 .none .none
  obtain ⟨flattens, joins⟩ := guards .and
  obtain ⟨-, chains⟩ := joins first [(.root, second), (Site.root.child 0, third)] .root
  have noLeaf : ∀ place cls given, first = .leaf place cls given →
      scene.facts.member? cls Operator.and.method = some (.method Operator.and.composer) := by
    intro place cls given isLeaf
    simp [first, guard] at isLeaf
  obtain ⟨folded, made, groups⟩ := chains composes noLeaf
  clear_value scene
  obtain ⟨parts, grouped, items⟩ := groups .root
  have regrouped : Grouped Operator.and.Joins tree .root [⟨first, Site.root.child 0⟩,
      ⟨second, (Site.root.child 1).child 0⟩, ⟨third, (Site.root.child 1).child 1⟩] :=
    .pair ⟨_, rfl⟩ (.one ..) (.pair ⟨_, rfl⟩ (.one ..) (.one ..))
  obtain ⟨one, others, rfl, isFirst, items⟩ := List.map_eq_cons_iff.mp items
  obtain ⟨two, others, rfl, isSecond, items⟩ := List.map_eq_cons_iff.mp items
  obtain ⟨three, others, rfl, isThird, items⟩ := List.map_eq_cons_iff.mp items
  cases List.map_eq_nil_iff.mp items
  obtain ⟨item, oneSite⟩ := one
  obtain rfl : item = first := isFirst
  obtain ⟨item, twoSite⟩ := two
  obtain rfl : item = second := isSecond
  obtain ⟨item, threeSite⟩ := three
  obtain rfl : item = third := isThird
  have answers : ∀ part ∈ [(⟨first, oneSite⟩ : Placed Guard), ⟨second, twoSite⟩,
      ⟨third, threeSite⟩], (part.check around .none).Answers := by
    simp only [List.forall_mem_cons, List.not_mem_nil, false_implies, implies_true, and_true]
    refine ⟨?_, ?_, ?_⟩
    · exact Run.answers_of_ok rfl (.result rfl)
    · exact Run.answers_of_ok rfl (.result rfl)
    · exact Run.answers_of_ok rfl (.result rfl)
  obtain ⟨sameLog, sameResult⟩ := flattens.agrees grouped regrouped answers rfl rfl
  have given := Option.some.inj (flattens.tells regrouped (.cons (.decides (.result rfl))
    (.cons (.decides (.result rfl)) (.cons (.decides (.result rfl)) .nil)))).ended
  exact ⟨composes, folded, made, sameLog, sameResult.trans given.symm⟩

end GuardAlgebra
