import GuardAlgebra.Proofs.Library
import GuardAlgebra.Proofs.Lineage

namespace GuardAlgebra

/-! # What the type variable of post guards is bound to

A post guard class puts types in the place of the type variables of its bases, up to the class of
all post guards and its one type variable. What that variable comes to stand for is the type of the
values that the guards of the class inspect. The library looks at first type arguments only, so it
finds that type where each class that is given type arguments hands the first of them on, in the first
place.
-/

namespace TypeExpr

mutual

/-- Puts types in the place of type variables. A union with type variables is made anew. -/
def substitute (values : String → TypeExpr) : TypeExpr → TypeExpr
  | .variable name => values name
  | .container site cls arguments => .container site cls (substituteAll values arguments)
  | .listOf site arguments => .listOf site (substituteAll values arguments)
  | .applied site cls arguments => .applied site cls (substituteAll values arguments)
  | .union site barred members =>
      if (variableNamesOf members).isEmpty then .union site barred members
      else unionOf site barred (substituteAll values members)
  | .any => .any
  | .named cls => .named cls
  | .guest member => .guest member
termination_by structural type => type

def substituteAll (values : String → TypeExpr) : List TypeExpr → List TypeExpr
  | [] => []
  | type :: types => substitute values type :: substituteAll values types
termination_by structural types => types

end

/-- Arguments in the place of parameters; all other type variables stand for themselves. -/
def assign : List String → List TypeExpr → String → TypeExpr
  | parameter :: parameters, argument :: arguments, name =>
      if name = parameter then argument else assign parameters arguments name
  | _, _, name => .variable name

/-- A type that says what values are: neither a type variable nor the type of anything, and without
type variables inside. -/
def isResolved (type : TypeExpr) : Bool := type.isConcrete && type.variableNames.isEmpty

/-- A type with type variables inside it. -/
def isMixed (type : TypeExpr) : Bool := type.isConcrete && !type.variableNames.isEmpty

variable {values : String → TypeExpr}

mutual

theorem substitute_of_closed :
    ∀ type : TypeExpr, type.variableNames = [] → substitute values type = type
  | .variable _, closed => nomatch closed
  | .container site cls arguments, closed =>
      congrArg (container site cls) (substituteAll_of_closed arguments closed)
  | .listOf site arguments, closed => congrArg (listOf site) (substituteAll_of_closed arguments closed)
  | .applied site cls arguments, closed =>
      congrArg (applied site cls) (substituteAll_of_closed arguments closed)
  | .union site barred members, closed => by
      have empty : (variableNamesOf members).isEmpty = true := List.isEmpty_iff.mpr closed
      rw [substitute, if_pos empty]
  | .any, _ | .named _, _ | .guest _, _ => rfl
termination_by structural type => type

theorem substituteAll_of_closed :
    ∀ types : List TypeExpr, variableNamesOf types = [] → substituteAll values types = types
  | [], _ => rfl
  | type :: types, closed => by
      obtain ⟨first, rest⟩ := variableNamesOf_cons_eq_nil.mp closed
      rw [substituteAll, substitute_of_closed type first, substituteAll_of_closed types rest]
termination_by structural types => types

end

theorem closed_of_concrete {type : TypeExpr} (concrete : type.isConcrete = true)
    (unmixed : type.isMixed = false) : type.variableNames = [] := by
  rw [isMixed, concrete, Bool.true_and, Bool.not_eq_false', List.isEmpty_iff] at unmixed
  exact unmixed

theorem isResolved_substitute_of_vague {type : TypeExpr} (vague : type.isConcrete = false) :
    (substitute .variable type).isResolved = false := by
  cases type with
  | any => rfl
  | _ => first | rfl | exact nomatch vague

theorem eq_variable_of_same {name : String} {type : TypeExpr}
    (same : TypeExpr.same (.variable name) type = true) : type = .variable name := by
  cases type <;> simp_all [TypeExpr.same]

theorem eq_named_of_same {cls : ClassId} {type : TypeExpr}
    (same : TypeExpr.same (.named cls) type = true) : type = .named cls := by
  cases type <;> simp_all [TypeExpr.same]

theorem assign_first (parameter : String) (parameters : List String) (argument : TypeExpr)
    (arguments : List TypeExpr) :
    assign (parameter :: parameters) (argument :: arguments) parameter = argument := by
  rw [assign, if_pos rfl]

/-- What a class that is given type arguments gets for its first type variable. -/
theorem assign_substituteAll_first (values : String → TypeExpr) (parameter : String)
    (parameters : List String) (argument : TypeExpr) (arguments : List TypeExpr) :
    assign (parameter :: parameters) (substituteAll values (argument :: arguments)) parameter =
      substitute values argument := by
  rw [substituteAll, assign_first]

end TypeExpr

namespace Hierarchy

/-- What the type variable of post guards stands for in a class, once these types are in the place of
the type variables of the class. A base without type arguments leaves its type variables free. -/
inductive Binds (hierarchy : Hierarchy) : ClassId → (String → TypeExpr) → TypeExpr → Prop where
  | root (values : String → TypeExpr) : Binds hierarchy postGuardClass values (values "T")
  | applied {cls parent : ClassId} {entry : ClassEntry} {site : Site} {arguments : List TypeExpr}
      {values : String → TypeExpr} {type : TypeExpr} (declared : hierarchy.find? cls = some entry)
      (isBase : .applied site parent arguments ∈ entry.bases)
      (binds : Binds hierarchy parent
        (TypeExpr.assign (hierarchy.parameters parent) (TypeExpr.substituteAll values arguments))
        type) :
      Binds hierarchy cls values type
  | plain {cls parent : ClassId} {entry : ClassEntry} {values : String → TypeExpr} {type : TypeExpr}
      (declared : hierarchy.find? cls = some entry) (isBase : .named parent ∈ entry.bases)
      (binds : Binds hierarchy parent TypeExpr.variable type) :
      Binds hierarchy cls values type

/-- What a class other than that of all post guards binds, one of its bases binds. -/
theorem Binds.base {hierarchy : Hierarchy} {cls : ClassId} {entry : ClassEntry}
    {values : String → TypeExpr} {type : TypeExpr} (binds : hierarchy.Binds cls values type)
    (differ : cls ≠ postGuardClass) (found : hierarchy.find? cls = some entry) :
    (∃ site parent arguments, .applied site parent arguments ∈ entry.bases ∧
      hierarchy.Binds parent (TypeExpr.assign (hierarchy.parameters parent)
        (TypeExpr.substituteAll values arguments)) type) ∨
      ∃ parent, .named parent ∈ entry.bases ∧ hierarchy.Binds parent .variable type := by
  cases binds with
  | root => exact absurd rfl differ
  | applied declared isBase binds =>
      rw [found] at declared
      cases declared
      exact .inl ⟨_, _, _, isBase, binds⟩
  | plain declared isBase binds =>
      rw [found] at declared
      cases declared
      exact .inr ⟨_, isBase, binds⟩

/-- A base that is no post guard, or one that gets this type variable in the first place. -/
def handsOn (hierarchy : Hierarchy) (name : String) : TypeExpr → Bool
  | .named cls => !hierarchy.guards cls
  | .applied _ cls arguments =>
      !hierarchy.guards cls || arguments.head?.any (TypeExpr.same (.variable name))
  | _ => true

/-- Every ancestor that has type variables hands the first of them on. -/
def orderly (hierarchy : Hierarchy) (cls : ClassId) : Bool :=
  (hierarchy.lineage cls).all fun ancestor =>
    (hierarchy.find? ancestor).all fun entry =>
      entry.parameters.head?.all fun name => entry.bases.all (hierarchy.handsOn name)

/-- Every post guard class to which an ancestor gives type arguments hands the first of them on, and
that is no type with type variables inside. -/
def legible (hierarchy : Hierarchy) (cls : ClassId) : Bool :=
  (hierarchy.lineage cls).all fun ancestor =>
    (hierarchy.find? ancestor).all fun entry =>
      entry.bases.all fun base => match base with
        | .applied _ parent (argument :: _) =>
            !hierarchy.guards parent || (hierarchy.orderly parent && !argument.isMixed)
        | _ => true

variable {hierarchy : Hierarchy} {cls parent ancestor : ClassId} {entry : ClassEntry}
  {values : String → TypeExpr} {type argument : TypeExpr} {first : String} {rest : List String}

theorem guards_iff : hierarchy.guards cls = true ↔ postGuardClass ∈ hierarchy.lineage cls :=
  List.contains_iff_mem

theorem exists_of_handsOn {base : TypeExpr} (handsOn : hierarchy.handsOn first base = true)
    (stated : Stated cls base) (guards : hierarchy.guards cls = true) :
    ∃ site others, base = .applied site cls (.variable first :: others) := by
  cases stated with
  | named =>
      rw [Hierarchy.handsOn, guards] at handsOn
      exact nomatch handsOn
  | applied site arguments =>
      rw [Hierarchy.handsOn, guards] at handsOn
      cases arguments with
      | nil => exact nomatch handsOn
      | cons argument others =>
          have same : TypeExpr.same (.variable first) argument = true := handsOn
          rw [TypeExpr.eq_variable_of_same same]
          exact ⟨site, others, rfl⟩

theorem legible_spec (legible : hierarchy.legible cls = true) (above : ancestor ∈ hierarchy.lineage cls)
    (found : hierarchy.find? ancestor = some entry) {site : Site} {others : List TypeExpr}
    (isBase : .applied site parent (argument :: others) ∈ entry.bases)
    (guards : hierarchy.guards parent = true) :
    hierarchy.orderly parent = true ∧ argument.isMixed = false := by
  have here := List.all_eq_true.mp legible ancestor above
  rw [found, Option.all_some, List.all_eq_true] at here
  simpa [guards] using here _ isBase

/-- What a base binds, the class binds that has it. -/
theorem exists_lift (found : hierarchy.find? cls = some entry) {base : TypeExpr}
    (isBase : base ∈ entry.bases) (stated : Stated parent base) (values : String → TypeExpr) :
    ∃ above, ∀ type, hierarchy.Binds parent above type → hierarchy.Binds cls values type := by
  cases stated with
  | named => exact ⟨.variable, fun _ binds => .plain found isBase binds⟩
  | applied site arguments => exact ⟨_, fun _ binds => .applied found isBase binds⟩

/-- The hierarchies of sessions: classes of their own, declared after those of the library. -/
structure Grown (hierarchy : Hierarchy) : Prop where
  extended : Hierarchy.initial.Extends hierarchy
  built : hierarchy.Built

namespace Grown

theorem initial : Grown Hierarchy.initial := ⟨Extends.refl _, built_initial⟩

variable (grown : hierarchy.Grown)
include grown

theorem declare {id : ClassId} {bases : List TypeExpr} (own : id.isKnown = false)
    (new : hierarchy.find? id = none) (fit : bases.all hierarchy.fits = true)
    (checking : Checking) (attributes : List (String × Value)) :
    (hierarchy.declare id bases checking attributes).Grown := by
  refine ⟨?_, grown.built.declare new fit checking attributes⟩
  rw [Hierarchy.declare]
  cases made : hierarchy.newClass? id bases checking attributes with
  | none => exact grown.extended
  | some entry =>
      obtain ⟨-, -, declares, -⟩ := newClass?_eq_some made
      exact grown.extended.declared (declares ▸ own)

theorem declareAll {classes : List (ClassId × List TypeExpr × Checking)}
    (own : classes.all (fun declared => !declared.1.isKnown) = true)
    (declarable : hierarchy.declarable classes = true) : (hierarchy.declareAll classes).Grown := by
  induction classes generalizing hierarchy with
  | nil => exact grown
  | cons first rest ih =>
      obtain ⟨id, bases, checking⟩ := first
      obtain ⟨new, fit, -, declarable⟩ := declarable_cons.mp declarable
      rw [List.all_cons, Bool.and_eq_true] at own
      have foreign : id.isKnown = false := by simpa using own.1
      exact ih (grown.declare foreign new fit checking []) own.2 declarable

theorem parameters_postGuard : hierarchy.parameters postGuardClass = ["T"] := by
  have known : Hierarchy.initial.parameters postGuardClass = ["T"] := by decide +kernel
  rw [← known, parameters, parameters, postGuardClass, find?_known grown.extended]

theorem not_guards_generic : hierarchy.guards genericClass = false := by
  have known : Hierarchy.initial.guards genericClass = false := by decide +kernel
  rw [← known, guards, guards, descends, descends, genericClass, lineage_known grown.extended]

theorem guards_postGuard : hierarchy.guards postGuardClass = true := by
  have known : Hierarchy.initial.guards postGuardClass = true := by decide +kernel
  rw [← known, guards, guards, descends, descends, postGuardClass, lineage_known grown.extended]

theorem sound (found : hierarchy.find? cls = some entry) : hierarchy.Sound entry :=
  (grown.built.allSound.sound cls entry found).2

theorem known_of_parent (found : hierarchy.find? cls = some entry) (isParent : parent ∈ entry.parents) :
    (hierarchy.find? parent).isSome = true :=
  (grown.sound found).known parent isParent

theorem lineage_of_parent (found : hierarchy.find? cls = some entry)
    (isParent : parent ∈ entry.parents) (above : ancestor ∈ hierarchy.lineage parent) :
    ancestor ∈ hierarchy.lineage cls :=
  (grown.built.allSound.mem_lineage_iff found).mpr (.inr ⟨parent, isParent, above⟩)

theorem parent_mem_lineage (found : hierarchy.find? cls = some entry)
    (isParent : parent ∈ entry.parents) : parent ∈ hierarchy.lineage cls :=
  grown.lineage_of_parent found isParent
    (grown.built.allSound.mem_lineage (grown.known_of_parent found isParent))

theorem parent_of_base (found : hierarchy.find? cls = some entry) {base : TypeExpr}
    (isBase : base ∈ entry.bases) (stated : Stated parent base)
    (guards : hierarchy.guards parent = true) : parent ∈ entry.parents := by
  obtain rfl | isParent := (grown.sound found).inherited base isBase parent stated
  · rw [grown.not_guards_generic] at guards
    exact nomatch guards
  · exact isParent

theorem length_arguments (found : hierarchy.find? cls = some entry) {site : Site}
    {arguments : List TypeExpr} (isBase : .applied site parent arguments ∈ entry.bases)
    (guards : hierarchy.guards parent = true) :
    arguments.length = (hierarchy.parameters parent).length := by
  have fit := (grown.sound found).fit _ isBase
  rw [fits, Bool.and_eq_true, Bool.or_eq_true, decide_eq_true_eq, decide_eq_true_eq] at fit
  obtain ⟨-, rfl | length⟩ := fit
  · simp [grown.not_guards_generic] at guards
  · exact length

theorem exists_parameters (found : hierarchy.find? cls = some entry) {site : Site}
    {others : List TypeExpr} (isBase : .applied site parent (argument :: others) ∈ entry.bases)
    (guards : hierarchy.guards parent = true) :
    ∃ parameter remaining, hierarchy.parameters parent = parameter :: remaining :=
  List.exists_cons_of_length_eq_add_one (grown.length_arguments found isBase guards).symm

/-- The variable of post guards is bound in post guards only. -/
theorem guards_of_binds (binds : hierarchy.Binds cls values type) : hierarchy.guards cls = true := by
  induction binds with
  | root values => exact grown.guards_postGuard
  | applied declared isBase binds ih =>
      have isParent := grown.parent_of_base declared isBase (.applied _ _) ih
      exact guards_iff.mpr (grown.lineage_of_parent declared isParent (guards_iff.mp ih))
  | plain declared isBase binds ih =>
      have isParent := grown.parent_of_base declared isBase .named ih
      exact guards_iff.mpr (grown.lineage_of_parent declared isParent (guards_iff.mp ih))

theorem orderly_of_mem (orderly : hierarchy.orderly cls = true)
    (known : (hierarchy.find? cls).isSome = true) (above : ancestor ∈ hierarchy.lineage cls) :
    hierarchy.orderly ancestor = true := by
  rw [Hierarchy.orderly, List.all_eq_true] at orderly ⊢
  intro other member
  exact orderly other (grown.built.allSound.lineage_trans known above member)

/-- A post guard among the bases of a class with type variables gets the first of them. -/
theorem base_of_orderly (orderly : hierarchy.orderly cls = true)
    (found : hierarchy.find? cls = some entry) (parameters : entry.parameters = first :: rest)
    {base : TypeExpr} (isBase : base ∈ entry.bases) (stated : Stated parent base)
    (guards : hierarchy.guards parent = true) :
    ∃ site others, base = .applied site parent (.variable first :: others) := by
  have itself := grown.built.allSound.mem_lineage (Option.isSome_of_eq_some found)
  have here := List.all_eq_true.mp orderly cls itself
  rw [found, Option.all_some, parameters, List.head?_cons, Option.all_some, List.all_eq_true] at here
  exact exists_of_handsOn (here base isBase) stated guards

theorem orderly_parent (orderly : hierarchy.orderly cls = true)
    (found : hierarchy.find? cls = some entry) (isParent : parent ∈ entry.parents) :
    hierarchy.orderly parent = true :=
  grown.orderly_of_mem orderly (Option.isSome_of_eq_some found)
    (grown.parent_mem_lineage found isParent)

/-- In an orderly class with type variables, the variable of post guards stands for what the first of
them stands for. -/
theorem eq_first_of_binds (binds : hierarchy.Binds cls values type)
    (orderly : hierarchy.orderly cls = true)
    (parameters : hierarchy.parameters cls = first :: rest) : type = values first := by
  induction binds generalizing first rest with
  | root values =>
      rw [grown.parameters_postGuard] at parameters
      cases parameters
      rfl
  | @applied cls parent entry site arguments values type declared isBase binds ih =>
      have guards := grown.guards_of_binds binds
      have isParent := grown.parent_of_base declared isBase (.applied _ _) guards
      rw [Hierarchy.parameters, declared] at parameters
      obtain ⟨place, others, same⟩ :=
        grown.base_of_orderly orderly declared parameters isBase (.applied _ _) guards
      cases same
      obtain ⟨parameter, remaining, own⟩ := grown.exists_parameters declared isBase guards
      rw [ih (grown.orderly_parent orderly declared isParent) own, own,
        TypeExpr.assign_substituteAll_first, TypeExpr.substitute]
  | plain declared isBase binds ih =>
      -- An orderly class with type variables gives its first one to every post guard above it, so
      -- none of them is without type arguments.
      rw [Hierarchy.parameters, declared] at parameters
      obtain ⟨place, others, same⟩ := grown.base_of_orderly orderly declared parameters isBase .named
        (grown.guards_of_binds binds)
      cases same

/-- An orderly post guard with type variables binds the variable of post guards. -/
theorem binds_first (known : (hierarchy.find? cls).isSome = true)
    (guards : hierarchy.guards cls = true) (orderly : hierarchy.orderly cls = true)
    (parameters : hierarchy.parameters cls = first :: rest) (values : String → TypeExpr) :
    hierarchy.Binds cls values (values first) := by
  refine grown.built.allSound.climb
    (motive := fun cls => hierarchy.orderly cls = true → ∀ first rest,
      hierarchy.parameters cls = first :: rest → ∀ values : String → TypeExpr,
        hierarchy.Binds cls values (values first))
    ?_ ?_ known (guards_iff.mp guards) orderly first rest parameters values
  · intro _ _ first rest parameters values
    rw [grown.parameters_postGuard] at parameters
    cases parameters
    exact .root values
  · intro cls entry found parent isParent above ih orderly first rest parameters values
    have parentGuards := guards_iff.mpr above
    rw [Hierarchy.parameters, found] at parameters
    obtain ⟨base, isBase, stated⟩ := (grown.sound found).written parent isParent parentGuards
    obtain ⟨site, others, rfl⟩ :=
      grown.base_of_orderly orderly found parameters isBase stated parentGuards
    obtain ⟨parameter, remaining, own⟩ := grown.exists_parameters found isBase parentGuards
    refine .applied found isBase ?_
    have binds := ih (grown.orderly_parent orderly found isParent) parameter remaining own
      (TypeExpr.assign (hierarchy.parameters parent)
        (TypeExpr.substituteAll values (.variable first :: others)))
    rw [own, TypeExpr.assign_substituteAll_first, TypeExpr.substitute] at binds
    rwa [own]

/-- An orderly class is legible: what is not its first type variable has no type variables. -/
theorem legible_of_orderly (orderly : hierarchy.orderly cls = true)
    (known : (hierarchy.find? cls).isSome = true) : hierarchy.legible cls = true := by
  rw [legible, List.all_eq_true]
  intro ancestor above
  rw [Option.all_eq_true]
  intro entry found
  rw [List.all_eq_true]
  intro base isBase
  have orderlyHere := grown.orderly_of_mem orderly known above
  split
  next site parent argument others =>
    cases guards : hierarchy.guards parent with
    | false => rfl
    | true =>
        have isParent := grown.parent_of_base found isBase (.applied _ _) guards
        have unmixed : argument.isMixed = false := by
          cases own : entry.parameters with
          | nil =>
              have closed := (grown.sound found).closed own _ isBase
              rw [TypeExpr.variableNames, TypeExpr.variableNamesOf_cons_eq_nil] at closed
              rw [TypeExpr.isMixed, closed.1]
              exact Bool.and_false _
          | cons first rest =>
              obtain ⟨_, _, same⟩ :=
                grown.base_of_orderly orderlyHere found own isBase (.applied _ _) guards
              cases same
              rfl
        rw [grown.orderly_parent orderlyHere found isParent, unmixed]
        rfl
  next => rfl

theorem known_of_guards (guards : hierarchy.guards cls = true) : (hierarchy.find? cls).isSome = true := by
  cases found : hierarchy.find? cls with
  | some entry => rfl
  | none =>
      rw [guards_iff, lineage, found] at guards
      obtain rfl : postGuardClass = cls := by simpa [postGuardClass, objectClass] using guards
      have known : (Hierarchy.initial.find? postGuardClass).isSome = true := by decide +kernel
      rw [postGuardClass, ← find?_known grown.extended, ← postGuardClass, found] at known
      exact known

/-- Every post guard binds the variable of post guards to something. -/
theorem exists_binds (guards : hierarchy.guards cls = true) (values : String → TypeExpr) :
    ∃ type, hierarchy.Binds cls values type := by
  refine grown.built.allSound.climb
    (motive := fun cls => ∀ values, ∃ type, hierarchy.Binds cls values type)
    (fun _ values => ⟨_, .root values⟩) ?_ (grown.known_of_guards guards) (guards_iff.mp guards) values
  intro cls entry found parent isParent above ih values
  obtain ⟨base, isBase, stated⟩ :=
    (grown.sound found).written parent isParent (guards_iff.mpr above)
  obtain ⟨given, lifts⟩ := exists_lift found isBase stated values
  obtain ⟨type, binds⟩ := ih given
  exact ⟨type, lifts type binds⟩

/-- What an ancestor binds whatever stands for its type variables, its descendants bind too. -/
theorem binds_of_ancestor (known : (hierarchy.find? cls).isSome = true)
    (above : ancestor ∈ hierarchy.lineage cls)
    (binds : ∀ values, hierarchy.Binds ancestor values type) (values : String → TypeExpr) :
    hierarchy.Binds cls values type := by
  refine grown.built.allSound.climb
    (motive := fun cls => ∀ values, hierarchy.Binds cls values type) (fun _ => binds) ?_ known above
    values
  intro cls entry found parent isParent _ ih values
  obtain ⟨base, isBase, stated⟩ := (grown.sound found).written parent isParent
    (grown.guards_of_binds (ih values))
  obtain ⟨given, lifts⟩ := exists_lift found isBase stated values
  exact lifts type (ih given)

end Grown

end Hierarchy

end GuardAlgebra
