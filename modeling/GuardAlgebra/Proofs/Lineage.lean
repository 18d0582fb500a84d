import GuardAlgebra.Post.ResultType
import GuardAlgebra.Proofs.Linearization
import Mathlib.Logic.Basic

namespace GuardAlgebra

/-! # Declared classes

A hierarchy grows by declarations, each over classes that are there already. So every class keeps what
its declaration made sure of: its ancestors are those of its parents, parameterised bases have as many
arguments as the class they are made from has type variables, and a class without type variables has
bases without any.
-/

theorem TypeExpr.variableNamesOf_cons_eq_nil {type : TypeExpr} {types : List TypeExpr} :
    variableNamesOf (type :: types) = [] ↔ type.variableNames = [] ∧ variableNamesOf types = [] := by
  rw [variableNamesOf, List.append_eq_nil_iff]
  refine and_congr_right fun first => ?_
  simp [first, List.eq_nil_iff_forall_not_mem]

/-- The bases of a class as they were written. -/
def ClassEntry.bases (entry : ClassEntry) : List TypeExpr :=
  entry.written.getD (entry.parents.map TypeExpr.named)

namespace Hierarchy

def guards (hierarchy : Hierarchy) (cls : ClassId) : Bool := hierarchy.descends cls postGuardClass

/-- A base that can be written here: its class is known, containers are no post guards, and a
parameterised class has an argument for each of its type variables. -/
def fits (hierarchy : Hierarchy) : TypeExpr → Bool
  | .named cls => (hierarchy.find? cls).isSome
  | .container _ cls _ => (hierarchy.find? cls).isSome && !hierarchy.guards cls
  | .applied _ cls arguments =>
      (hierarchy.find? cls).isSome &&
        (cls = genericClass || arguments.length = (hierarchy.parameters cls).length)
  | .listOf .. =>
      [ClassId.known "list", genericClass].all fun cls =>
        (hierarchy.find? cls).isSome && !hierarchy.guards cls
  | .any | .variable _ | .union .. | .guest _ => true

/-- The hierarchies that declarations of new classes lead to. -/
inductive Built : Hierarchy → Prop where
  | root : Built ⟨[rootEntry]⟩
  | declare {hierarchy : Hierarchy} {id : ClassId} {bases : List TypeExpr} (built : Built hierarchy)
      (new : hierarchy.find? id = none) (fit : bases.all hierarchy.fits = true)
      (checking : Checking) (attributes : List (String × Value)) :
      Built (hierarchy.declare id bases checking attributes)

/-- A base that is a class, with type arguments or without any. -/
inductive Stated (cls : ClassId) : TypeExpr → Prop where
  | named : Stated cls (.named cls)
  | applied (site : Site) (arguments : List TypeExpr) : Stated cls (.applied site cls arguments)

/-- What a declaration makes sure of. -/
structure Sound (hierarchy : Hierarchy) (entry : ClassEntry) : Prop where
  lineage : ∃ ancestors, entry.lineage = entry.id :: ancestors ∧
    ∀ x, x ∈ ancestors ↔ ∃ parent ∈ entry.parents, x ∈ hierarchy.lineage parent
  known : ∀ parent ∈ entry.parents, (hierarchy.find? parent).isSome = true
  /-- A post guard among the parents was written as a base, with type arguments or without any. -/
  written : ∀ parent ∈ entry.parents, hierarchy.guards parent = true →
    ∃ base ∈ entry.bases, Stated parent base
  inherited : ∀ base ∈ entry.bases, ∀ cls, Stated cls base →
    cls = genericClass ∨ cls ∈ entry.parents
  fit : ∀ base ∈ entry.bases, hierarchy.fits base = true
  closed : entry.parameters = [] → ∀ base ∈ entry.bases, base.variableNames = []

section Add

variable {hierarchy : Hierarchy} {entry : ClassEntry} {id : ClassId}

theorem find?_add_self (hierarchy : Hierarchy) (entry : ClassEntry) :
    (hierarchy.add entry).find? entry.id = some entry := by
  simp [find?, add]

theorem find?_add_of_ne (differ : entry.id ≠ id) :
    (hierarchy.add entry).find? id = hierarchy.find? id := by
  simp [find?, add, differ]

theorem find?_add_of_known (new : hierarchy.find? entry.id = none)
    (known : (hierarchy.find? id).isSome = true) :
    (hierarchy.add entry).find? id = hierarchy.find? id := by
  apply find?_add_of_ne
  rintro rfl
  rw [new] at known
  exact nomatch known

theorem lineage_add_of_known (new : hierarchy.find? entry.id = none)
    (known : (hierarchy.find? id).isSome = true) :
    (hierarchy.add entry).lineage id = hierarchy.lineage id := by
  rw [lineage, lineage, find?_add_of_known new known]

theorem parameters_add_of_known (new : hierarchy.find? entry.id = none)
    (known : (hierarchy.find? id).isSome = true) :
    (hierarchy.add entry).parameters id = hierarchy.parameters id := by
  rw [parameters, parameters, find?_add_of_known new known]

theorem guards_add_of_known (new : hierarchy.find? entry.id = none)
    (known : (hierarchy.find? id).isSome = true) :
    (hierarchy.add entry).guards id = hierarchy.guards id := by
  rw [guards, guards, descends, descends, lineage_add_of_known new known]

end Add

theorem fits_add {hierarchy : Hierarchy} {entry : ClassEntry} {base : TypeExpr}
    (new : hierarchy.find? entry.id = none) (fit : hierarchy.fits base = true) :
    (hierarchy.add entry).fits base = true := by
  cases base with
  | named cls =>
      have known : (hierarchy.find? cls).isSome = true := fit
      rw [fits, find?_add_of_known new known]
      exact known
  | container site cls arguments =>
      have known := (Bool.and_eq_true_iff.mp fit).1
      rw [fits, find?_add_of_known new known, guards_add_of_known new known]
      exact fit
  | applied site cls arguments =>
      have known := (Bool.and_eq_true_iff.mp fit).1
      rw [fits, find?_add_of_known new known, parameters_add_of_known new known]
      exact fit
  | listOf site arguments =>
      rw [fits, List.all_eq_true] at fit ⊢
      intro cls member
      have known := (Bool.and_eq_true_iff.mp (fit cls member)).1
      rw [find?_add_of_known new known, guards_add_of_known new known]
      exact fit cls member
  | _ => rfl

theorem Sound.add {hierarchy : Hierarchy} {entry other : ClassEntry} (sound : hierarchy.Sound other)
    (new : hierarchy.find? entry.id = none) : (hierarchy.add entry).Sound other where
  lineage := by
    obtain ⟨ancestors, lineage, iff⟩ := sound.lineage
    refine ⟨ancestors, lineage, fun x => (iff x).trans (exists_congr fun parent => ?_)⟩
    refine and_congr_right fun isParent => ?_
    rw [lineage_add_of_known new (sound.known parent isParent)]
  known := fun parent isParent => by
    rw [find?_add_of_known new (sound.known parent isParent)]
    exact sound.known parent isParent
  written := fun parent isParent guards => by
    rw [guards_add_of_known new (sound.known parent isParent)] at guards
    exact sound.written parent isParent guards
  inherited := sound.inherited
  fit := fun base isBase => fits_add new (sound.fit base isBase)
  closed := sound.closed

section New

variable {hierarchy : Hierarchy} {id : ClassId} {bases : List TypeExpr} {checking : Checking}
  {attributes : List (String × Value)} {entry : ClassEntry} {parents : List ClassId}

theorem newClass?_eq_some
    (made : hierarchy.newClass? id bases checking attributes = some entry) :
    ∃ stood, hierarchy.parentsOf bases = some stood ∧ entry.id = id ∧
      entry.parents = (if stood.isEmpty then [objectClass] else stood) ∧
      Linearization.linearize id
          (entry.parents.map fun parent => (parent, hierarchy.lineage parent)) =
        some entry.lineage ∧
      ((bases.all isPlain = true ∧ entry.written = none ∧ entry.parameters = []) ∨
        entry.written = some bases ∧ parametersOf bases = some entry.parameters) := by
  obtain ⟨stood, stands, made⟩ := Option.bind_eq_some_iff.mp made
  dsimp only at made
  split at made
  next => exact nomatch made
  next =>
    dsimp only [bind, Option.bind_some] at made
    split at made
    next =>
      obtain ⟨lineage, linearizes, made⟩ := Option.bind_eq_some_iff.mp made
      split at made
      next => exact nomatch made
      next =>
        cases plain : bases.all isPlain with
        | true =>
            rw [plain] at made
            cases made
            exact ⟨stood, stands, rfl, rfl, linearizes, .inl ⟨rfl, rfl, rfl⟩⟩
        | false =>
            rw [plain] at made
            obtain ⟨parameters, read, made⟩ := Option.bind_eq_some_iff.mp made
            cases made
            exact ⟨stood, stands, rfl, rfl, linearizes, .inr ⟨rfl, read⟩⟩
    next => exact nomatch made

/-- A class that could be declared has the bases it was declared with. -/
theorem find?_declare_self {entry : ClassEntry}
    (made : hierarchy.newClass? id bases checking attributes = some entry) :
    (hierarchy.declare id bases checking attributes).find? id = some entry := by
  obtain ⟨-, -, rfl, -⟩ := newClass?_eq_some made
  rw [declare, made]
  exact find?_add_self hierarchy entry

theorem exists_declared (typed : bases.all isPlain = false)
    (made : (hierarchy.newClass? id bases checking attributes).isSome = true) :
    ∃ entry, (hierarchy.declare id bases checking attributes).find? id = some entry ∧
      entry.bases = bases := by
  obtain ⟨entry, made⟩ := Option.isSome_iff_exists.mp made
  obtain ⟨-, -, rfl, -, -, ⟨plain, -⟩ | ⟨written, -⟩⟩ := newClass?_eq_some made
  · rw [typed] at plain
    exact nomatch plain
  · refine ⟨entry, find?_declare_self made, ?_⟩
    rw [ClassEntry.bases, written]
    rfl

theorem find?_declare_of_ne {other : ClassId} (differ : id ≠ other) :
    (hierarchy.declare id bases checking attributes).find? other = hierarchy.find? other := by
  rw [declare]
  cases made : hierarchy.newClass? id bases checking attributes with
  | none => rfl
  | some entry =>
      obtain ⟨-, -, rfl, -⟩ := newClass?_eq_some made
      exact find?_add_of_ne differ

/-- How a class comes to be a parent: as the class of a base, or along with a list type. -/
inductive Stands (bases : List TypeExpr) (parent : ClassId) : Prop where
  | named (isBase : .named parent ∈ bases)
  | container {site : Site} {arguments : List TypeExpr}
      (isBase : .container site parent arguments ∈ bases)
  | applied {site : Site} {arguments : List TypeExpr}
      (isBase : .applied site parent arguments ∈ bases)
  | listed {site : Site} {arguments : List TypeExpr} (isBase : .listOf site arguments ∈ bases)
      (among : parent ∈ [ClassId.known "list", genericClass])

theorem Stands.cons {parent : ClassId} (stands : Stands bases parent) (base : TypeExpr) :
    Stands (base :: bases) parent := by
  cases stands with
  | named isBase => exact .named (List.mem_cons_of_mem _ isBase)
  | container isBase => exact .container (List.mem_cons_of_mem _ isBase)
  | applied isBase => exact .applied (List.mem_cons_of_mem _ isBase)
  | listed isBase among => exact .listed (List.mem_cons_of_mem _ isBase) among

theorem stands_of_parentsOf (stood : hierarchy.parentsOf bases = some parents) {parent : ClassId}
    (member : parent ∈ parents) : Stands bases parent := by
  induction bases generalizing parents with
  | nil =>
      cases stood
      exact nomatch member
  | cons base rest ih =>
      obtain ⟨others, stand, stood⟩ := Option.bind_eq_some_iff.mp stood
      have later (inOthers : parent ∈ others) : Stands (base :: rest) parent :=
        (ih stand inOthers).cons base
      cases base with
      | named cls =>
          cases stood
          obtain rfl | inOthers := List.mem_cons.mp member
          · exact .named List.mem_cons_self
          · exact later inOthers
      | container site cls arguments =>
          cases stood
          obtain rfl | inOthers := List.mem_cons.mp member
          · exact .container List.mem_cons_self
          · exact later inOthers
      | applied site cls arguments =>
          dsimp only at stood
          split at stood
          next =>
            cases stood
            exact later member
          next =>
            cases stood
            obtain rfl | inOthers := List.mem_cons.mp member
            · exact .applied List.mem_cons_self
            · exact later inOthers
      | listOf site arguments =>
          dsimp only at stood
          split at stood
          next =>
            cases stood
            obtain rfl | inOthers := List.mem_cons.mp member
            · exact .listed List.mem_cons_self List.mem_cons_self
            · exact later inOthers
          next =>
            cases stood
            obtain rfl | inOthers := List.mem_cons.mp member
            · exact .listed List.mem_cons_self List.mem_cons_self
            · obtain rfl | inOthers := List.mem_cons.mp inOthers
              · exact .listed List.mem_cons_self (by simp)
              · exact later inOthers
      | _ => exact nomatch stood

theorem closed_of_variableNamesOf (empty : TypeExpr.variableNamesOf bases = []) :
    ∀ base ∈ bases, base.variableNames = [] := by
  induction bases with
  | nil => exact List.forall_mem_nil _
  | cons base rest ih =>
      obtain ⟨first, later⟩ := TypeExpr.variableNamesOf_cons_eq_nil.mp empty
      exact List.forall_mem_cons.mpr ⟨first, ih later⟩

theorem closed_of_parametersOf (empty : parametersOf bases = some []) :
    ∀ base ∈ bases, base.variableNames = [] := by
  apply closed_of_variableNamesOf
  rw [parametersOf] at empty
  split at empty
  next => exact Option.some.inj empty
  next =>
    dsimp only at empty
    split at empty
    next covers =>
      rw [Option.some.inj empty] at covers
      exact List.eq_nil_iff_forall_not_mem.mpr (by simpa using covers)
    next => exact nomatch empty
  next => exact nomatch empty

/-- Every class that is written as a base is a parent, but for `Generic`. -/
theorem mem_of_parentsOf (stood : hierarchy.parentsOf bases = some parents) {base : TypeExpr}
    (isBase : base ∈ bases) {cls : ClassId} (stated : Stated cls base) :
    cls = genericClass ∨ cls ∈ parents := by
  induction bases generalizing parents with
  | nil => exact nomatch isBase
  | cons first rest ih =>
      obtain ⟨others, stand, stood⟩ := Option.bind_eq_some_iff.mp stood
      obtain rfl | later := List.mem_cons.mp isBase
      · cases stated with
        | named =>
            cases stood
            exact .inr List.mem_cons_self
        | applied site arguments =>
            dsimp only at stood
            split at stood
            next dropped => exact .inl dropped.1
            next =>
              cases stood
              exact .inr List.mem_cons_self
      · have kept : others ⊆ parents := by
          cases first with
          | named | container =>
              cases stood
              exact List.subset_cons_self _ _
          | applied =>
              dsimp only at stood
              split at stood <;> cases stood
              · exact List.Subset.refl _
              · exact List.subset_cons_self _ _
          | listOf =>
              dsimp only at stood
              split at stood <;> cases stood
              · exact List.subset_cons_self _ _
              · exact List.Subset.trans (List.subset_cons_self _ _) (List.subset_cons_self _ _)
          | _ => exact nomatch stood
        exact (ih stand later).imp_right fun member => kept member

/-- All classes of a hierarchy are what their declarations made sure of, the root is there, and none
descends from itself. -/
structure AllSound (hierarchy : Hierarchy) : Prop where
  root : hierarchy.find? objectClass = some rootEntry
  sound : ∀ id entry, hierarchy.find? id = some entry → entry.id = id ∧ hierarchy.Sound entry
  grounded : WellFounded fun parent cls => parent ∈ hierarchy.parents cls

theorem AllSound.mem_lineage (all : hierarchy.AllSound) {cls : ClassId}
    (known : (hierarchy.find? cls).isSome = true) : cls ∈ hierarchy.lineage cls := by
  obtain ⟨entry, found⟩ := Option.isSome_iff_exists.mp known
  obtain ⟨rfl, sound⟩ := all.sound cls entry found
  obtain ⟨ancestors, lineage, -⟩ := sound.lineage
  rw [Hierarchy.lineage, found]
  change _ ∈ entry.lineage
  rw [lineage]
  exact List.mem_cons_self

theorem AllSound.not_guards_root (all : hierarchy.AllSound) :
    hierarchy.guards objectClass = false := by
  rw [guards, descends, lineage, all.root]
  rfl

theorem not_guards_of_fits_container {site : Site} {cls : ClassId} {arguments : List TypeExpr}
    (fit : hierarchy.fits (.container site cls arguments) = true) : hierarchy.guards cls = false := by
  rw [fits, Bool.and_eq_true, Bool.not_eq_true'] at fit
  exact fit.2

theorem not_guards_of_fits_listOf {site : Site} {cls : ClassId} {arguments : List TypeExpr}
    (fit : hierarchy.fits (.listOf site arguments) = true)
    (among : cls ∈ [ClassId.known "list", genericClass]) : hierarchy.guards cls = false := by
  rw [fits, List.all_eq_true] at fit
  have here := fit cls among
  rw [Bool.and_eq_true, Bool.not_eq_true'] at here
  exact here.2

theorem known_of_fits {parent : ClassId} (fit : bases.all hierarchy.fits = true)
    (stands : Stands bases parent) : (hierarchy.find? parent).isSome = true := by
  rw [List.all_eq_true] at fit
  cases stands with
  | named isBase => exact fit _ isBase
  | container isBase => exact (Bool.and_eq_true_iff.mp (fit _ isBase)).1
  | applied isBase => exact (Bool.and_eq_true_iff.mp (fit _ isBase)).1
  | listed isBase among =>
      exact (Bool.and_eq_true_iff.mp (List.all_eq_true.mp (fit _ isBase) parent among)).1

theorem stated_of_fits {parent : ClassId} (fit : bases.all hierarchy.fits = true)
    (stands : Stands bases parent) (guards : hierarchy.guards parent = true) :
    ∃ base ∈ bases, Stated parent base := by
  rw [List.all_eq_true] at fit
  cases stands with
  | named isBase => exact ⟨_, isBase, .named⟩
  | container isBase =>
      have plain := not_guards_of_fits_container (fit _ isBase)
      rw [plain] at guards
      contradiction
  | applied isBase => exact ⟨_, isBase, .applied _ _⟩
  | listed isBase among =>
      have plain := not_guards_of_fits_listOf (fit _ isBase) among
      rw [plain] at guards
      contradiction

theorem parent_cases (made : hierarchy.newClass? id bases checking attributes = some entry) :
    ∀ parent ∈ entry.parents, parent = objectClass ∨ Stands bases parent := by
  obtain ⟨stood, stands, -, parents, -, -⟩ := newClass?_eq_some made
  intro parent member
  rw [parents] at member
  split at member
  next => exact .inl (List.mem_singleton.mp member)
  next => exact .inr (stands_of_parentsOf stands member)

theorem AllSound.known_parents (all : hierarchy.AllSound) (fit : bases.all hierarchy.fits = true)
    (made : hierarchy.newClass? id bases checking attributes = some entry) :
    ∀ parent ∈ entry.parents, (hierarchy.find? parent).isSome = true := by
  intro parent member
  obtain rfl | stands := parent_cases made parent member
  · exact Option.isSome_of_eq_some all.root
  · exact known_of_fits fit stands

theorem AllSound.lineage_new (all : hierarchy.AllSound) (fit : bases.all hierarchy.fits = true)
    (made : hierarchy.newClass? id bases checking attributes = some entry) :
    ∃ ancestors, entry.lineage = entry.id :: ancestors ∧
      ∀ x, x ∈ ancestors ↔ ∃ parent ∈ entry.parents, x ∈ hierarchy.lineage parent := by
  have known := all.known_parents fit made
  obtain ⟨-, -, isNew, -, linearizes, -⟩ := newClass?_eq_some made
  obtain ⟨ancestors, lineage, iff⟩ := Linearization.linearize_spec linearizes
    (List.forall_mem_map.mpr fun parent member => all.mem_lineage (known parent member))
  refine ⟨ancestors, lineage.trans (by rw [isNew]), fun x => (iff x).trans ⟨?_, ?_⟩⟩
  · rintro ⟨pair, member, within⟩
    obtain ⟨parent, isParent, rfl⟩ := List.mem_map.mp member
    exact ⟨parent, isParent, within⟩
  · rintro ⟨parent, isParent, within⟩
    exact ⟨_, List.mem_map_of_mem isParent, within⟩

theorem AllSound.sound_new (all : hierarchy.AllSound) (fit : bases.all hierarchy.fits = true)
    (made : hierarchy.newClass? id bases checking attributes = some entry) :
    entry.id = id ∧ hierarchy.Sound entry := by
  have known := all.known_parents fit made
  have lineage := all.lineage_new fit made
  obtain ⟨stood, stands, isNew, parents, -, wrote⟩ := newClass?_eq_some made
  -- The bases are kept as written only where one of them is more than a class.
  obtain ⟨-, written, -⟩ | ⟨written, parameters⟩ := wrote
  · have isNamed : entry.bases = entry.parents.map TypeExpr.named := by
      rw [ClassEntry.bases, written]
      rfl
    refine ⟨isNew, lineage, known, ?_, ?_, ?_, ?_⟩ <;> rw [isNamed]
    · intro parent member guards
      exact ⟨_, List.mem_map_of_mem member, .named⟩
    · intro base isBase cls stated
      obtain ⟨parent, member, rfl⟩ := List.mem_map.mp isBase
      cases stated
      exact .inr member
    · intro base isBase
      obtain ⟨parent, member, rfl⟩ := List.mem_map.mp isBase
      exact known parent member
    · intro empty base isBase
      obtain ⟨parent, -, rfl⟩ := List.mem_map.mp isBase
      rfl
  · have same : entry.bases = bases := by
      rw [ClassEntry.bases, written]
      rfl
    refine ⟨isNew, lineage, known, ?_, ?_, ?_, ?_⟩ <;> rw [same]
    · intro parent member guards
      obtain rfl | stands := parent_cases made parent member
      · rw [all.not_guards_root] at guards
        exact nomatch guards
      · exact stated_of_fits fit stands guards
    · intro base isBase cls stated
      refine (mem_of_parentsOf stands isBase stated).imp_right fun member => ?_
      rw [parents, if_neg (by simpa using List.ne_nil_of_mem member)]
      exact member
    · exact List.all_eq_true.mp fit
    · intro empty base isBase
      rw [empty] at parameters
      exact closed_of_parametersOf parameters base isBase

theorem parents_add_of_known (new : hierarchy.find? entry.id = none) {cls : ClassId}
    (known : (hierarchy.find? cls).isSome = true) :
    (hierarchy.add entry).parents cls = hierarchy.parents cls := by
  rw [Hierarchy.parents, Hierarchy.parents, find?_add_of_known new known]

/-- A class over known classes does not close a cycle. -/
theorem AllSound.grounded_add (all : hierarchy.AllSound) (new : hierarchy.find? entry.id = none)
    (sound : hierarchy.Sound entry) :
    WellFounded fun parent cls => parent ∈ (hierarchy.add entry).parents cls := by
  -- Known classes keep their parents, so they are as well-founded as they were.
  have old : ∀ cls, (hierarchy.find? cls).isSome = true →
      Acc (fun parent cls => parent ∈ (hierarchy.add entry).parents cls) cls := by
    intro cls
    induction cls using all.grounded.induction with
    | _ cls ih =>
        intro known
        refine Acc.intro _ fun parent isParent => ?_
        rw [parents_add_of_known new known] at isParent
        apply ih parent isParent
        obtain ⟨declared, found⟩ := Option.isSome_iff_exists.mp known
        rw [Hierarchy.parents, found] at isParent
        exact (all.sound cls declared found).2.known parent isParent
  refine ⟨fun cls => Acc.intro _ fun parent isParent => ?_⟩
  by_cases own : entry.id = cls
  · subst own
    rw [Hierarchy.parents, find?_add_self] at isParent
    exact old parent (sound.known parent isParent)
  · rw [Hierarchy.parents, find?_add_of_ne own] at isParent
    cases found : hierarchy.find? cls with
    | none =>
        rw [found] at isParent
        exact nomatch isParent
    | some declared =>
        rw [found] at isParent
        exact old parent ((all.sound cls declared found).2.known parent isParent)

theorem AllSound.declare (all : hierarchy.AllSound) (new : hierarchy.find? id = none)
    (fit : bases.all hierarchy.fits = true) :
    (hierarchy.declare id bases checking attributes).AllSound := by
  rw [Hierarchy.declare]
  cases made : hierarchy.newClass? id bases checking attributes with
  | none => exact all
  | some entry =>
      obtain ⟨rfl, sound⟩ := all.sound_new fit made
      refine ⟨?_, fun other found isFound => ?_, all.grounded_add new sound⟩
      · rw [find?_add_of_known new (Option.isSome_of_eq_some all.root)]
        exact all.root
      · by_cases own : entry.id = other
        · subst own
          rw [find?_add_self] at isFound
          cases isFound
          exact ⟨rfl, sound.add new⟩
        · rw [find?_add_of_ne own] at isFound
          obtain ⟨same, sound⟩ := all.sound other found isFound
          exact ⟨same, sound.add new⟩

end New

theorem allSound_root : AllSound ⟨[rootEntry]⟩ where
  root := rfl
  sound := by
    intro id entry found
    obtain rfl : entry = rootEntry :=
      List.mem_singleton.mp (List.mem_of_find?_eq_some found)
    refine ⟨of_decide_eq_true (List.find?_some found :), ⟨[], rfl, ?_⟩, ?_, ?_, ?_, ?_, ?_⟩ <;>
      simp [rootEntry, ClassEntry.bases]
  grounded := by
    refine ⟨fun cls => Acc.intro _ fun parent isParent => ?_⟩
    rw [parents] at isParent
    split at isParent
    next found =>
      rw [List.mem_singleton.mp (List.mem_of_find?_eq_some found)] at isParent
      exact nomatch isParent
    next => exact nomatch isParent

/-- Whatever classes are declared, each keeps what its declaration made sure of. -/
theorem Built.allSound {hierarchy : Hierarchy} (built : hierarchy.Built) : hierarchy.AllSound := by
  induction built with
  | root => exact allSound_root
  | declare built new fit checking attributes ih => exact ih.declare new fit

/-- Each class is new when its turn comes, its bases are there, and it can be declared over them. -/
def declarable (hierarchy : Hierarchy) : List (ClassId × List TypeExpr × Checking) → Bool
  | [] => true
  | (id, bases, checking) :: rest =>
      (hierarchy.find? id).isNone && bases.all hierarchy.fits &&
        (hierarchy.newClass? id bases checking []).isSome &&
        (hierarchy.declare id bases checking []).declarable rest

section DeclareAll

variable {hierarchy : Hierarchy} {id : ClassId} {bases : List TypeExpr} {checking : Checking}
  {classes : List (ClassId × List TypeExpr × Checking)}

theorem declarable_cons :
    hierarchy.declarable ((id, bases, checking) :: classes) = true ↔
      hierarchy.find? id = none ∧ bases.all hierarchy.fits = true ∧
        (hierarchy.newClass? id bases checking []).isSome = true ∧
        (hierarchy.declare id bases checking []).declarable classes = true := by
  simp only [declarable, Bool.and_eq_true, Option.isNone_iff_eq_none, and_assoc]

theorem Built.declareAll (built : hierarchy.Built) (declarable : hierarchy.declarable classes = true) :
    (hierarchy.declareAll classes).Built := by
  induction classes generalizing hierarchy with
  | nil => exact built
  | cons first rest ih =>
      obtain ⟨id, bases, checking⟩ := first
      obtain ⟨new, fit, -, declarable⟩ := declarable_cons.mp declarable
      exact ih (built.declare new fit checking []) declarable

theorem find?_declareAll_of_known (declarable : hierarchy.declarable classes = true)
    (known : (hierarchy.find? id).isSome = true) :
    (hierarchy.declareAll classes).find? id = hierarchy.find? id := by
  induction classes generalizing hierarchy with
  | nil => rfl
  | cons first rest ih =>
      obtain ⟨other, bases, checking⟩ := first
      obtain ⟨new, -, -, declarable⟩ := declarable_cons.mp declarable
      have differ : other ≠ id := by
        rintro rfl
        rw [new] at known
        exact nomatch known
      have same : (hierarchy.declare other bases checking []).find? id = hierarchy.find? id :=
        find?_declare_of_ne differ
      rw [← same] at known ⊢
      exact ih declarable known

theorem find?_declareAll_of_absent (absent : ∀ declared ∈ classes, declared.1 ≠ id) :
    (hierarchy.declareAll classes).find? id = hierarchy.find? id := by
  induction classes generalizing hierarchy with
  | nil => rfl
  | cons first rest ih =>
      obtain ⟨differ, absent⟩ := List.forall_mem_cons.mp absent
      exact (ih absent).trans (find?_declare_of_ne differ)

theorem isSome_find?_declareAll {declared : ClassId × List TypeExpr × Checking}
    (declarable : hierarchy.declarable classes = true) (member : declared ∈ classes) :
    ((hierarchy.declareAll classes).find? declared.1).isSome = true := by
  induction classes generalizing hierarchy with
  | nil => exact nomatch member
  | cons first rest ih =>
      obtain ⟨id, bases, checking⟩ := first
      obtain ⟨-, -, made, declarable⟩ := declarable_cons.mp declarable
      obtain rfl | later := List.mem_cons.mp member
      · obtain ⟨entry, made⟩ := Option.isSome_iff_exists.mp made
        have known := Option.isSome_of_eq_some (find?_declare_self made)
        rwa [← find?_declareAll_of_known declarable known] at known
      · exact ih declarable later

theorem exists_of_declareAll (declarable : hierarchy.declarable classes = true)
    (member : (id, bases, checking) ∈ classes) (typed : bases.all isPlain = false) :
    ∃ entry, (hierarchy.declareAll classes).find? id = some entry ∧ entry.bases = bases := by
  induction classes generalizing hierarchy with
  | nil => exact nomatch member
  | cons first rest ih =>
      obtain ⟨other, others, otherChecking⟩ := first
      obtain ⟨new, -, made, declarable⟩ := declarable_cons.mp declarable
      obtain same | later := List.mem_cons.mp member
      · cases same
        obtain ⟨entry, found, isBases⟩ := exists_declared typed made
        refine ⟨entry, ?_, isBases⟩
        rw [← found]
        exact find?_declareAll_of_known declarable (Option.isSome_of_eq_some found)
      · exact ih declarable later

end DeclareAll

theorem built_initial : initial.Built := by
  have declarable : declarable ⟨[rootEntry]⟩
      (standard.map fun declared => (.known declared.1, declared.2)) = true := by
    decide +kernel
  have built := Built.root.declareAll declarable
  rwa [declareAll, List.foldl_map] at built

section Ancestors

variable {hierarchy : Hierarchy} {cls parent ancestor other : ClassId} {entry : ClassEntry}

theorem AllSound.mem_lineage_iff (all : hierarchy.AllSound) (found : hierarchy.find? cls = some entry) :
    ancestor ∈ hierarchy.lineage cls ↔
      ancestor = cls ∨ ∃ parent ∈ entry.parents, ancestor ∈ hierarchy.lineage parent := by
  obtain ⟨rfl, sound⟩ := all.sound cls entry found
  obtain ⟨ancestors, lineage, iff⟩ := sound.lineage
  rw [Hierarchy.lineage, found]
  change ancestor ∈ entry.lineage ↔ _
  rw [lineage, List.mem_cons, iff]

/-- The lineage of a class is the order that its parents' lineages merge into. -/
theorem Built.linearizes (built : hierarchy.Built) (found : hierarchy.find? cls = some entry) :
    Linearization.linearize entry.id
        (entry.parents.map fun parent => (parent, hierarchy.lineage parent)) =
      some entry.lineage := by
  induction built generalizing cls entry with
  | root =>
      obtain rfl : entry = rootEntry := List.mem_singleton.mp (List.mem_of_find?_eq_some found)
      rfl
  | @declare before id bases built new fit checking attributes ih =>
      rw [Hierarchy.declare] at found ⊢
      cases made : before.newClass? id bases checking attributes with
      | none =>
          rw [made] at found
          exact ih found
      | some added =>
          rw [made] at found
          have known := built.allSound.known_parents fit made
          obtain ⟨-, -, rfl, -, linearizes, -⟩ := newClass?_eq_some made
          have lineages {parents : List ClassId}
              (known : ∀ parent ∈ parents, (before.find? parent).isSome = true) :
              (parents.map fun parent => (parent, (before.add added).lineage parent)) =
                parents.map fun parent => (parent, before.lineage parent) :=
            List.map_congr_left fun parent isParent => by
              rw [lineage_add_of_known new (known parent isParent)]
          by_cases own : added.id = cls
          · subst own
            rw [find?_add_self] at found
            cases found
            rw [← linearizes, lineages known]
          · rw [find?_add_of_ne own] at found
            rw [← ih found, lineages (built.allSound.sound cls entry found).2.known]

/-- A class with a single parent comes right before the lineage of that parent. -/
theorem Built.lineage_single (built : hierarchy.Built) (found : hierarchy.find? cls = some entry)
    (single : entry.parents = [parent]) :
    hierarchy.lineage cls = cls :: hierarchy.lineage parent := by
  have linearizes := built.linearizes found
  obtain ⟨rfl, sound⟩ := built.allSound.sound cls entry found
  have parentKnown : (hierarchy.find? parent).isSome = true :=
    sound.known parent (single ▸ List.mem_singleton_self parent)
  obtain ⟨declared, parentFound⟩ := Option.isSome_iff_exists.mp parentKnown
  obtain ⟨rfl, parentSound⟩ := built.allSound.sound parent declared parentFound
  obtain ⟨ancestors, lineage, -⟩ := parentSound.lineage
  have parentLineage : hierarchy.lineage declared.id = declared.id :: ancestors := by
    rw [Hierarchy.lineage, parentFound]
    exact lineage
  rw [single, List.map_singleton, parentLineage] at linearizes
  rw [parentLineage, Hierarchy.lineage, found]
  exact Linearization.linearize_single linearizes

/-- Climbs from a class to an ancestor, parent by parent. -/
theorem AllSound.climb (all : hierarchy.AllSound) {motive : ClassId → Prop}
    (here : (hierarchy.find? ancestor).isSome = true → motive ancestor)
    (step : ∀ cls entry, hierarchy.find? cls = some entry → ∀ parent ∈ entry.parents,
      ancestor ∈ hierarchy.lineage parent → motive parent → motive cls)
    (known : (hierarchy.find? cls).isSome = true) (descends : ancestor ∈ hierarchy.lineage cls) :
    motive cls := by
  induction cls using all.grounded.induction with
  | _ cls ih =>
      obtain ⟨entry, found⟩ := Option.isSome_iff_exists.mp known
      obtain rfl | ⟨parent, isParent, above⟩ := (all.mem_lineage_iff found).mp descends
      · exact here known
      · have isParentHere : parent ∈ hierarchy.parents cls := by
          rw [Hierarchy.parents, found]
          exact isParent
        have parentKnown := (all.sound cls entry found).2.known parent isParent
        exact step cls entry found parent isParent above (ih parent isParentHere parentKnown above)

/-- The ancestors of an ancestor are ancestors. -/
theorem AllSound.lineage_trans (all : hierarchy.AllSound) (known : (hierarchy.find? cls).isSome = true)
    (descends : ancestor ∈ hierarchy.lineage cls) (above : other ∈ hierarchy.lineage ancestor) :
    other ∈ hierarchy.lineage cls := by
  refine all.climb (motive := fun cls => other ∈ hierarchy.lineage cls) (fun _ => above) ?_
    known descends
  intro cls entry found parent isParent _ ih
  exact (all.mem_lineage_iff found).mpr (.inr ⟨parent, isParent, ih⟩)

end Ancestors

end Hierarchy

end GuardAlgebra
