import GuardAlgebra.Guard.Composition

namespace GuardAlgebra

/-! # Types that agree

Types are compared two at a time, and a guard without a type agrees with any. So that nothing is lost
between two guards that are never compared, equality must be an equivalence on the types at hand:
then lists of types agree as soon as each agrees in itself and their first types are equal.
-/

def Agree (types : List Value) : Prop :=
  ∀ one ∈ types, ∀ other ∈ types, one.same other = .ok true

/-- Equality is an equivalence on these types. -/
structure Comparable (types : List Value) : Prop where
  decided : ∀ one ∈ types, ∀ other ∈ types, ∃ truth, one.same other = .ok truth
  refl : ∀ one ∈ types, one.same one = .ok true
  symm : ∀ one ∈ types, ∀ other ∈ types, one.same other = .ok true → other.same one = .ok true
  trans : ∀ one ∈ types, ∀ other ∈ types, ∀ third ∈ types,
    one.same other = .ok true → other.same third = .ok true → one.same third = .ok true

/-- Two types that may both be missing are equal unless one is. -/
def Meets (first second : Option Value) : Prop :=
  ∀ one ∈ first, ∀ other ∈ second, one.same other = .ok true

variable {types others : List Value} {first second : Option Value} {facts : Facts} {site : Site}

theorem Comparable.mono (comparable : Comparable others) (within : types ⊆ others) :
    Comparable types := by
  constructor
  · intro one member other another
    exact comparable.decided one (within member) other (within another)
  · intro one member
    exact comparable.refl one (within member)
  · intro one member other another
    exact comparable.symm one (within member) other (within another)
  · intro one member other another third last
    exact comparable.trans one (within member) other (within another) third (within last)

theorem agree_toList (comparable : Comparable first.toList) : Agree first.toList := by
  intro one member other another
  rw [Option.mem_toList] at member another
  have same : one = other := Option.mem_unique member another
  rw [← same]
  exact comparable.refl one (Option.mem_toList.mpr member)

/-- Two lists agree together when each agrees and their first types are equal. -/
theorem agree_append (comparable : Comparable (types ++ others)) :
    Agree (types ++ others) ↔ Agree types ∧ Agree others ∧ Meets types.head? others.head? := by
  constructor
  · intro agree
    refine ⟨?_, ?_, ?_⟩
    · intro one member other another
      exact agree one (List.mem_append_left _ member) other (List.mem_append_left _ another)
    · intro one member other another
      exact agree one (List.mem_append_right _ member) other (List.mem_append_right _ another)
    · intro one member other another
      exact agree one (List.mem_append_left _ (List.mem_of_mem_head? member))
        other (List.mem_append_right _ (List.mem_of_mem_head? another))
  · rintro ⟨agree, agreeOthers, meets⟩
    have across : ∀ one ∈ types, ∀ other ∈ others, one.same other = .ok true := by
      intro one member other another
      obtain ⟨head, isHead⟩ : ∃ head, head ∈ types.head? := by
        cases types with
        | nil => exact nomatch member
        | cons head rest => exact ⟨head, rfl⟩
      obtain ⟨leader, isLeader⟩ : ∃ leader, leader ∈ others.head? := by
        cases others with
        | nil => exact nomatch another
        | cons leader rest => exact ⟨leader, rfl⟩
      have headIn := List.mem_of_mem_head? isHead
      have leaderIn := List.mem_of_mem_head? isLeader
      have toLeader : one.same leader = .ok true :=
        comparable.trans one (List.mem_append_left _ member) head (List.mem_append_left _ headIn)
          leader (List.mem_append_right _ leaderIn) (agree one member head headIn)
          (meets head isHead leader isLeader)
      exact comparable.trans one (List.mem_append_left _ member)
        leader (List.mem_append_right _ leaderIn) other (List.mem_append_right _ another)
        toLeader (agreeOthers leader leaderIn other another)
    intro one member other another
    rcases List.mem_append.mp member with member | member
    · rcases List.mem_append.mp another with another | another
      · exact agree one member other another
      · exact across one member other another
    · rcases List.mem_append.mp another with another | another
      · exact comparable.symm other (List.mem_append_left _ another)
          one (List.mem_append_right _ member) (across other another one member)
      · exact agreeOthers one member other another

/-- Types that do not meet are two different ones. -/
theorem exists_of_not_meets (differ : ¬ Meets first second)
    (decided : ∀ one ∈ first, ∀ other ∈ second, ∃ truth, one.same other = .ok truth) :
    ∃ one other, first = some one ∧ second = some other ∧ one.same other = .ok false := by
  cases first with
  | none => exact absurd (fun one member => nomatch member) differ
  | some one =>
      cases second with
      | none => exact absurd (fun one member other another => nomatch another) differ
      | some other =>
          obtain ⟨truth, same⟩ := decided one rfl other rfl
          cases truth with
          | false => exact ⟨one, other, rfl, rfl, same⟩
          | true =>
              have meets : Meets (some one) (some other) := by
                intro first member second another
                rw [← Option.mem_some.mp member, ← Option.mem_some.mp another]
                exact same
              exact absurd meets differ

end GuardAlgebra
