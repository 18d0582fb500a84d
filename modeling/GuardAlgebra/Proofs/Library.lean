import GuardAlgebra.Proofs.ResultType
import GuardAlgebra.Session.Execute

namespace GuardAlgebra

/-! # The classes of the library

An application adds classes of its own to those of the library. They come under names of their own, so
what the library says of its classes stays as it is: among others, that conjunctions of post guards have
no type but what they find in their parts.
-/

/-- Classes of the library, and of the language under it. -/
def ClassId.isKnown : ClassId → Bool
  | .known _ => true
  | .declared .. | .outside _ => false

namespace Hierarchy

/-- The second hierarchy adds classes of an application to the first. -/
def Extends (base hierarchy : Hierarchy) : Prop :=
  ∃ declared, hierarchy.entries = declared ++ base.entries ∧
    ∀ entry ∈ declared, entry.id.isKnown = false

variable {base hierarchy : Hierarchy}

theorem Extends.refl (base : Hierarchy) : base.Extends base :=
  ⟨[], (List.nil_append _).symm, List.forall_mem_nil _⟩

theorem Extends.declared (extended : base.Extends hierarchy) {entry : ClassEntry}
    (own : entry.id.isKnown = false) : base.Extends (hierarchy.add entry) := by
  obtain ⟨declared, entries, others⟩ := extended
  refine ⟨entry :: declared, ?_, List.forall_mem_cons.mpr ⟨own, others⟩⟩
  rw [Hierarchy.add, entries, List.cons_append]

theorem find?_known (extended : base.Extends hierarchy) (name : String) :
    hierarchy.find? (.known name) = base.find? (.known name) := by
  obtain ⟨declared, entries, own⟩ := extended
  have absent : (declared.find? fun entry => entry.id = .known name) = none := by
    rw [List.find?_eq_none]
    intro entry member
    have foreign := own entry member
    simp only [decide_eq_true_eq]
    rintro same
    rw [same] at foreign
    exact nomatch foreign
  rw [find?, entries, List.find?_append, absent, Option.none_or, find?]

theorem lineage_known (extended : base.Extends hierarchy) (name : String) :
    hierarchy.lineage (.known name) = base.lineage (.known name) := by
  rw [lineage, lineage, find?_known extended]

theorem members_known (extended : base.Extends hierarchy) (name : String) :
    hierarchy.members (.known name) = base.members (.known name) := by
  rw [members, members, find?_known extended]

/-- What is looked for among ancestors of the library is found where the library has it. -/
theorem findSome?_known (extended : base.Extends hierarchy) {ancestors : List ClassId}
    (known : ancestors.all ClassId.isKnown = true) {α : Type} (view : Option ClassEntry → Option α) :
    (ancestors.findSome? fun ancestor => view (hierarchy.find? ancestor)) =
      ancestors.findSome? fun ancestor => view (base.find? ancestor) := by
  induction ancestors with
  | nil => rfl
  | cons ancestor rest ih =>
      rw [List.all_cons, Bool.and_eq_true] at known
      cases ancestor with
      | known title =>
          rw [List.findSome?_cons, List.findSome?_cons, find?_known extended, ih known.2]
      | declared site title => exact nomatch known.1
      | outside title => exact nomatch known.1

theorem writtenBases_known (extended : base.Extends hierarchy) {name : String}
    (known : (base.lineage (.known name)).all ClassId.isKnown = true) :
    hierarchy.writtenBases (.known name) = base.writtenBases (.known name) := by
  rw [writtenBases, writtenBases, lineage_known extended,
    findSome?_known extended known fun entry => entry.bind ClassEntry.written]

theorem checking_known (extended : base.Extends hierarchy) {name : String}
    (known : (base.lineage (.known name)).all ClassId.isKnown = true) :
    hierarchy.checking (.known name) = base.checking (.known name) := by
  rw [checking, checking, lineage_known extended,
    findSome?_known extended known fun entry => entry.bind ClassEntry.checks?]

end Hierarchy

theorem Session.initial_extends :
    Hierarchy.initial.Extends Session.initial.scene.facts.hierarchy := by
  simp only [initial, opening, Hierarchy.declareAll_nil]
  exact .refl _

/-- Whatever classes a session declares, a conjunction of post guards is not pinned by its class and
inherits no type from it. -/
theorem conjunctionUntyped_of_extends {facts : Facts}
    (extended : Hierarchy.initial.Extends facts.hierarchy)
    (unwritten : ∀ name, facts.store.find? (.cls (.known name)) pinAttribute = none) :
    facts.ConjunctionUntyped := by
  have known : ((Hierarchy.initial.lineage (.known "PostAnd")).all fun ancestor =>
      ancestor.isKnown &&
        (Hierarchy.initial.lineage ancestor).all ClassId.isKnown &&
        (entryOf? (Hierarchy.initial.members ancestor) pinAttribute).isNone &&
        (Hierarchy.initial.writtenBases ancestor).all fun written =>
          written.arguments.head?.all fun argument => !argument.isConcrete) = true := by
    decide +kernel
  have library : ∀ ancestor ∈ Hierarchy.initial.lineage (.known "PostAnd"),
      ∃ name, ancestor = .known name ∧
        (Hierarchy.initial.lineage (.known name)).all ClassId.isKnown = true ∧
        entryOf? (Hierarchy.initial.members (.known name)) pinAttribute = none ∧
        ∀ written ∈ Hierarchy.initial.writtenBases (.known name),
          ∀ argument ∈ written.arguments.head?, concrete? (.type argument) = none := by
    intro ancestor member
    have holds := List.all_eq_true.mp known ancestor member
    simp only [Bool.and_eq_true, List.all_eq_true, Option.isNone_iff_eq_none] at holds
    obtain ⟨⟨⟨isKnown, ancestors⟩, members⟩, bases⟩ := holds
    cases ancestor with
    | declared site name => exact nomatch isKnown
    | outside name => exact nomatch isKnown
    | known name =>
        refine ⟨name, rfl, List.all_eq_true.mpr ancestors, members, ?_⟩
        intro written inBases argument isHead
        have unfixed := bases written inBases
        rw [Option.mem_def.mp isHead] at unfixed
        simp only [Option.all_some, Bool.not_eq_true'] at unfixed
        simp only [concrete?, unfixed, Bool.false_eq_true, ↓reduceIte]
  constructor
  · rw [Facts.member?, Hierarchy.lineage_known extended, List.findSome?_eq_none_iff]
    intro ancestor member
    obtain ⟨name, rfl, -, members, -⟩ := library ancestor member
    rw [Facts.memberAt?, unwritten, Hierarchy.members_known extended]
    exact members
  · rw [Hierarchy.inheritedType?, Hierarchy.lineage_known extended, List.findSome?_eq_none_iff]
    intro ancestor member
    obtain ⟨name, rfl, ancestors, -, bases⟩ := library ancestor member
    rw [Hierarchy.writtenBases_known extended ancestors, List.findSome?_eq_none_iff]
    intro written inBases
    refine Option.bind_eq_none_iff.mpr fun origin isOrigin => ?_
    cases facts.hierarchy.descends origin postGuardClass with
    | false => rfl
    | true => exact Option.bind_eq_none_iff.mpr (bases written inBases)

end GuardAlgebra
