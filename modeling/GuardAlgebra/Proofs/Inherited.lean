import GuardAlgebra.Proofs.Binding

namespace GuardAlgebra

/-! # The type that a class inherits

The library walks up the ancestors of a class, and stops at the first type argument of a post guard
that is neither a type variable nor the type of anything.
-/

namespace Hierarchy

variable {hierarchy : Hierarchy} {cls ancestor origin : ClassId} {entry : ClassEntry}
  {values : String → TypeExpr} {type base : TypeExpr} {first : String} {rest : List String}

/-- A base that the walk stops at, with the type it finds there. -/
structure StopsAt (hierarchy : Hierarchy) (base type : TypeExpr) : Prop where
  origin : ∃ origin, base.origin? = some origin ∧ hierarchy.guards origin = true
  first : base.arguments.head? = some type
  concrete : type.isConcrete = true

theorem step_eq_some_iff {value : Value} :
    (do
      let origin ← base.origin?
      if hierarchy.descends origin postGuardClass then
        let argument ← base.arguments.head?
        concrete? (.type argument)
      else none) = some value ↔ ∃ type, value = .type type ∧ hierarchy.StopsAt base type := by
  constructor
  · intro found
    obtain ⟨origin, isOrigin, found⟩ := Option.bind_eq_some_iff.mp found
    rw [Option.ite_none_right_eq_some] at found
    obtain ⟨guards, found⟩ := found
    obtain ⟨type, isFirst, found⟩ := Option.bind_eq_some_iff.mp found
    rw [concrete?, Option.ite_none_right_eq_some] at found
    obtain ⟨concrete, same⟩ := found
    exact ⟨type, (Option.some.inj same).symm, ⟨origin, isOrigin, guards⟩, isFirst, concrete⟩
  · rintro ⟨type, rfl, ⟨origin, isOrigin, guards⟩, isFirst, concrete⟩
    rw [Hierarchy.guards] at guards
    simp [isOrigin, guards, isFirst, concrete?, concrete]

theorem exists_of_mem_writtenBases (member : base ∈ hierarchy.writtenBases cls) :
    ∃ ancestor ∈ hierarchy.lineage cls, ∃ entry,
      hierarchy.find? ancestor = some entry ∧ base ∈ entry.bases := by
  rw [writtenBases] at member
  cases found : (hierarchy.lineage cls).findSome? fun ancestor =>
      (hierarchy.find? ancestor).bind ClassEntry.written with
  | none =>
      simp [found] at member
  | some bases =>
      rw [found] at member
      obtain ⟨ancestor, above, written⟩ := List.exists_of_findSome?_eq_some found
      obtain ⟨entry, declared, written⟩ := Option.bind_eq_some_iff.mp written
      refine ⟨ancestor, above, entry, declared, ?_⟩
      rw [ClassEntry.bases, written]
      exact member

namespace Grown

variable (grown : hierarchy.Grown)
include grown

/-- A base with type arguments is written where its class was declared. -/
theorem mem_writtenBases (found : hierarchy.find? cls = some entry) (isBase : base ∈ entry.bases)
    (isOrigin : base.origin? = some origin) : base ∈ hierarchy.writtenBases cls := by
  obtain ⟨rfl, sound⟩ := grown.built.allSound.sound cls entry found
  obtain ⟨ancestors, lineage, -⟩ := sound.lineage
  cases written : entry.written with
  | none =>
      rw [ClassEntry.bases, written] at isBase
      obtain ⟨parent, -, rfl⟩ := List.mem_map.mp isBase
      cases isOrigin
  | some bases =>
      rw [ClassEntry.bases, written] at isBase
      have here : hierarchy.lineage entry.id = entry.id :: ancestors := by
        rw [Hierarchy.lineage, found]
        exact lineage
      rw [writtenBases, here, List.findSome?_cons, found, Option.bind_some, written]
      exact isBase

/-- The walk stops at bases of the ancestors, as they were written. -/
theorem exists_of_inheritedType? {value : Value} (known : (hierarchy.find? cls).isSome = true)
    (inherits : hierarchy.inheritedType? cls = some value) :
    ∃ ancestor ∈ hierarchy.lineage cls, ∃ entry, hierarchy.find? ancestor = some entry ∧
      ∃ base ∈ entry.bases, ∃ type, value = .type type ∧ hierarchy.StopsAt base type := by
  obtain ⟨below, member, found⟩ := List.exists_of_findSome?_eq_some inherits
  obtain ⟨base, written, found⟩ := List.exists_of_findSome?_eq_some found
  obtain ⟨ancestor, above, entry, declared, isBase⟩ := exists_of_mem_writtenBases written
  have above := grown.built.allSound.lineage_trans known member above
  exact ⟨ancestor, above, entry, declared, base, isBase, step_eq_some_iff.mp found⟩

theorem not_stopsAt_of_inheritedType? (inherits : hierarchy.inheritedType? cls = none)
    (above : ancestor ∈ hierarchy.lineage cls) (found : hierarchy.find? ancestor = some entry)
    (isBase : base ∈ entry.bases) : ¬ hierarchy.StopsAt base type := by
  intro stops
  obtain ⟨origin, isOrigin, -⟩ := stops.origin
  have walked := List.findSome?_eq_none_iff.mp inherits ancestor above
  have step := List.findSome?_eq_none_iff.mp walked base
    (grown.mem_writtenBases found isBase isOrigin)
  rw [step_eq_some_iff.mpr ⟨type, rfl, stops⟩] at step
  contradiction

/-- Only a post guard with type arguments stops the walk. -/
theorem applied_of_stopsAt (found : hierarchy.find? cls = some entry) (isBase : base ∈ entry.bases)
    (stops : hierarchy.StopsAt base type) :
    ∃ site origin others, base = .applied site origin (type :: others) ∧
      hierarchy.guards origin = true := by
  obtain ⟨⟨origin, isOrigin, guards⟩, isFirst, -⟩ := stops
  have fit := (grown.sound found).fit base isBase
  cases base with
  | applied site cls arguments =>
      cases isOrigin
      obtain ⟨others, rfl⟩ := List.head?_eq_some_iff.mp isFirst
      exact ⟨site, origin, others, rfl, guards⟩
  | container site cls arguments =>
      cases isOrigin
      rw [not_guards_of_fits_container fit] at guards
      contradiction
  | listOf site arguments =>
      cases isOrigin
      rw [not_guards_of_fits_listOf fit List.mem_cons_self] at guards
      contradiction
  | _ => exact nomatch isOrigin

section Legible

variable (known : (hierarchy.find? cls).isSome = true) (legible : hierarchy.legible cls = true)
include known legible

/-- What the walk finds is what the variable of post guards stands for. -/
theorem binds_of_inheritedType? {value : Value}
    (inherits : hierarchy.inheritedType? cls = some value) :
    ∃ type, value = .type type ∧ type.isResolved = true ∧
      ∀ values, hierarchy.Binds cls values type := by
  obtain ⟨ancestor, above, entry, found, base, isBase, type, rfl, stops⟩ :=
    grown.exists_of_inheritedType? known inherits
  obtain ⟨site, origin, others, rfl, guards⟩ := grown.applied_of_stopsAt found isBase stops
  obtain ⟨orderly, unmixed⟩ := legible_spec legible above found isBase guards
  have closed := TypeExpr.closed_of_concrete stops.concrete unmixed
  have resolved : type.isResolved = true := by
    rw [TypeExpr.isResolved, stops.concrete, closed]
    rfl
  refine ⟨type, rfl, resolved, grown.binds_of_ancestor known above fun values => ?_⟩
  refine .applied found isBase ?_
  obtain ⟨parameter, remaining, parameters⟩ := grown.exists_parameters found isBase guards
  have binds := grown.binds_first (grown.known_of_guards guards) guards orderly parameters
    (TypeExpr.assign (parameter :: remaining) (TypeExpr.substituteAll values (type :: others)))
  rw [TypeExpr.assign_substituteAll_first, TypeExpr.substitute_of_closed _ closed] at binds
  rwa [parameters]

/-- Where the walk finds nothing, the variable of post guards stands for no type that says what values
are. The induction goes up through bases without type arguments, which leave their type variables free;
the first base with type arguments decides. -/
theorem unresolved_of_binds (inherits : hierarchy.inheritedType? cls = none)
    (above : ancestor ∈ hierarchy.lineage cls) (binds : hierarchy.Binds ancestor values type)
    (free : values = .variable) : type.isResolved = false := by
  induction binds with
  | root values =>
      rw [free]
      rfl
  | @applied ancestor parent entry site arguments values type declared isBase binds ih =>
      subst free
      have guards := grown.guards_of_binds binds
      have isParent := grown.parent_of_base declared isBase (.applied _ _) guards
      have parentAbove := grown.built.allSound.lineage_trans known above
        (grown.parent_mem_lineage declared isParent)
      cases arguments with
      | nil =>
          have length := grown.length_arguments declared isBase guards
          have none : hierarchy.parameters parent = [] := List.eq_nil_of_length_eq_zero length.symm
          refine ih parentAbove ?_
          rw [none]
          rfl
      | cons argument others =>
          obtain ⟨orderly, -⟩ := legible_spec legible above declared isBase guards
          have vague : argument.isConcrete = false := by
            rw [← Bool.not_eq_true]
            intro concrete
            exact grown.not_stopsAt_of_inheritedType? inherits above declared isBase
              ⟨⟨parent, rfl, guards⟩, rfl, concrete⟩
          obtain ⟨parameter, remaining, parameters⟩ :=
            grown.exists_parameters declared isBase guards
          rw [grown.eq_first_of_binds binds orderly parameters, parameters,
            TypeExpr.assign_substituteAll_first]
          exact TypeExpr.isResolved_substitute_of_vague vague
  | plain declared isBase binds ih =>
      have guards := grown.guards_of_binds binds
      have isParent := grown.parent_of_base declared isBase .named guards
      have parentAbove := grown.built.allSound.lineage_trans known above
        (grown.parent_mem_lineage declared isParent)
      exact ih parentAbove rfl

end Legible

/-- An orderly class with type variables inherits no type. -/
theorem inheritedType?_of_parameters (known : (hierarchy.find? cls).isSome = true)
    (orderly : hierarchy.orderly cls = true) (parameters : hierarchy.parameters cls = first :: rest) :
    hierarchy.inheritedType? cls = none := by
  rw [Option.eq_none_iff_forall_ne_some]
  intro value inherits
  obtain ⟨type, -, resolved, binds⟩ :=
    grown.binds_of_inheritedType? known (grown.legible_of_orderly orderly known) inherits
  rw [grown.eq_first_of_binds (binds .variable) orderly parameters] at resolved
  exact nomatch resolved

end Grown

end Hierarchy

end GuardAlgebra
