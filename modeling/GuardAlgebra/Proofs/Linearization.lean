import GuardAlgebra.Class.Linearization
import Mathlib.Data.List.Basic

namespace GuardAlgebra

/-! # Merged orders

The order of a class keeps every order it is merged of, and has nothing but what they have.
-/

namespace Linearization

variable {α : Type} [DecidableEq α] {fuel : Nat} {orders : List (List α)} {merged order : List α}

theorem mergeWithin_cases (merges : mergeWithin fuel orders = some merged) :
    (merged = [] ∧ ∀ order ∈ orders, order = []) ∨
      ∃ less chosen rest, fuel = less + 1 ∧ nextHead orders = some chosen ∧
        mergeWithin less (dropHead chosen orders) = some rest ∧ merged = chosen :: rest := by
  have empty (none : orders.all List.isEmpty = true) : ∀ order ∈ orders, order = [] := by
    simpa using none
  cases fuel with
  | zero =>
      rw [mergeWithin, Option.ite_none_right_eq_some] at merges
      obtain ⟨none, same⟩ := merges
      exact .inl ⟨(Option.some.inj same).symm, empty none⟩
  | succ less =>
      rw [mergeWithin] at merges
      split at merges
      next none => exact .inl ⟨(Option.some.inj merges).symm, empty none⟩
      next =>
        obtain ⟨chosen, next, merges⟩ := Option.bind_eq_some_iff.mp merges
        obtain ⟨rest, goesOn, same⟩ := Option.bind_eq_some_iff.mp merges
        exact .inr ⟨less, chosen, rest, rfl, next, goesOn, (Option.some.inj same).symm⟩

/-- A merge keeps every order. -/
theorem sublist_mergeWithin (merges : mergeWithin fuel orders = some merged)
    (member : order ∈ orders) : order.Sublist merged := by
  induction fuel generalizing orders merged order with
  | zero =>
      obtain ⟨rfl, empty⟩ | ⟨less, chosen, rest, impossible, -⟩ := mergeWithin_cases merges
      · exact empty order member ▸ List.Sublist.refl []
      · exact nomatch impossible
  | succ fuel ih =>
      obtain ⟨rfl, empty⟩ | ⟨less, chosen, rest, same, next, goesOn, rfl⟩ := mergeWithin_cases merges
      · exact empty order member ▸ List.Sublist.refl []
      · cases same
        have kept := ih goesOn (List.mem_map_of_mem member)
        cases order with
        | nil => exact List.nil_sublist _
        | cons first tail =>
            by_cases isNext : first = chosen
            · subst isNext
              rw [List.head?_cons, if_pos rfl] at kept
              exact kept.cons_cons first
            · rw [List.head?_cons, if_neg fun same => isNext (Option.some.inj same)] at kept
              exact kept.cons chosen

/-- A merge has nothing that is in no order. -/
theorem exists_of_mem_mergeWithin (merges : mergeWithin fuel orders = some merged) {x : α}
    (member : x ∈ merged) : ∃ order ∈ orders, x ∈ order := by
  induction fuel generalizing orders merged with
  | zero =>
      obtain ⟨rfl, -⟩ | ⟨less, chosen, rest, impossible, -⟩ := mergeWithin_cases merges
      · exact nomatch member
      · exact nomatch impossible
  | succ fuel ih =>
      obtain ⟨rfl, -⟩ | ⟨less, chosen, rest, same, next, goesOn, rfl⟩ := mergeWithin_cases merges
      · exact nomatch member
      · cases same
        obtain rfl | later := List.mem_cons.mp member
        · obtain ⟨order, present, isHead⟩ :=
            List.mem_filterMap.mp (List.mem_of_find?_eq_some next)
          exact ⟨order, present, List.mem_of_head? isHead⟩
        · obtain ⟨left, present, within⟩ := ih goesOn later
          obtain ⟨order, original, rfl⟩ := List.mem_map.mp present
          refine ⟨order, original, ?_⟩
          split at within
          · exact List.mem_of_mem_tail within
          · exact within

/-- Orders that all begin one of them merge into that one. -/
theorem mergeWithin_of_prefixes (merges : mergeWithin fuel orders = some merged)
    (member : order ∈ orders) (begins : ∀ other ∈ orders, other <+: order) : merged = order := by
  induction order generalizing fuel orders merged with
  | nil =>
      have empty : ∀ other ∈ orders, other = [] := fun other present =>
        List.prefix_nil.mp (begins other present)
      obtain ⟨rfl, -⟩ | ⟨_, chosen, _, -, next, -⟩ := mergeWithin_cases merges
      · rfl
      · obtain ⟨other, present, isHead⟩ := List.mem_filterMap.mp (List.mem_of_find?_eq_some next)
        rw [empty other present] at isHead
        exact nomatch isHead
  | cons first rest ih =>
      obtain ⟨-, empty⟩ | ⟨less, chosen, others, -, next, goesOn, rfl⟩ := mergeWithin_cases merges
      · exact nomatch empty _ member
      · obtain ⟨other, present, isHead⟩ := List.mem_filterMap.mp (List.mem_of_find?_eq_some next)
        obtain ⟨tail, rfl⟩ := List.head?_eq_some_iff.mp isHead
        obtain ⟨rfl, -⟩ := List.cons_prefix_cons.mp (begins _ present)
        refine congrArg (chosen :: ·) (ih goesOn ?_ ?_)
        · exact List.mem_map.mpr ⟨chosen :: rest, member, if_pos rfl⟩
        · intro left isLeft
          obtain ⟨original, isOriginal, rfl⟩ := List.mem_map.mp isLeft
          have begin := begins original isOriginal
          cases original with
          | nil => exact List.nil_prefix
          | cons head tail =>
              obtain ⟨rfl, shorter⟩ := List.cons_prefix_cons.mp begin
              rw [List.head?_cons, if_pos rfl]
              exact shorter

variable {cls : α} {parents : List (α × List α)} {lineage : List α}

/-- The order of a class is the class itself, and then what its parents have. -/
theorem linearize_spec (linearizes : linearize cls parents = some lineage)
    (headed : ∀ parent ∈ parents, parent.1 ∈ parent.2) :
    ∃ ancestors, lineage = cls :: ancestors ∧
      ∀ x, x ∈ ancestors ↔ ∃ parent ∈ parents, x ∈ parent.2 := by
  rw [linearize] at linearizes
  split at linearizes
  next =>
    obtain ⟨ancestors, merges, same⟩ := Option.bind_eq_some_iff.mp linearizes
    refine ⟨ancestors, (Option.some.inj same).symm, fun x => ⟨fun member => ?_, ?_⟩⟩
    · obtain ⟨order, present, within⟩ := exists_of_mem_mergeWithin merges member
      obtain inherited | own := List.mem_append.mp present
      · obtain ⟨parent, isParent, rfl⟩ := List.mem_map.mp inherited
        exact ⟨parent, isParent, within⟩
      · rw [List.mem_singleton.mp own] at within
        obtain ⟨parent, isParent, rfl⟩ := List.mem_map.mp within
        exact ⟨parent, isParent, headed parent isParent⟩
    · rintro ⟨parent, isParent, within⟩
      have kept : parent.2.Sublist ancestors :=
        sublist_mergeWithin merges (List.mem_append_left _ (List.mem_map_of_mem isParent))
      exact kept.subset within
  next => exact nomatch linearizes

/-- A single parent comes with its own order. -/
theorem linearize_single {parent : α} {ancestors : List α}
    (linearizes : linearize cls [(parent, parent :: ancestors)] = some lineage) :
    lineage = cls :: parent :: ancestors := by
  rw [linearize] at linearizes
  split at linearizes
  next =>
    obtain ⟨merged, merges, same⟩ := Option.bind_eq_some_iff.mp linearizes
    obtain rfl : merged = parent :: ancestors :=
      mergeWithin_of_prefixes merges List.mem_cons_self (by simp)
    exact (Option.some.inj same).symm
  next => exact nomatch linearizes

end Linearization

end GuardAlgebra
