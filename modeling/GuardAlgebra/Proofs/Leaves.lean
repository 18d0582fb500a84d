import GuardAlgebra.Proofs.Sequence
import GuardAlgebra.Session.Execute

namespace GuardAlgebra

/-! # Trees and their leaves

A tree of guards is made of connectives over leaves, and one leaf may stand at several places. What a
check of the tree does is told by the checks of these occurrences, each at a site of its own.
-/

/-- Something at its place in a tree: what stands there, and the site at which it is checked. -/
structure Placed (α : Type) where
  item : α
  site : Site

/-- A result that allows, or one that denies. -/
inductive Value.Decides : Value → Bool → Prop where
  | result {site : Site} {allowed error : Value} {truth : Bool} (valued : allowed.truth = .ok truth) :
      Value.Decides (.result site allowed error) truth

/-- The run ends in a result that allows or denies, unless it raises. -/
def Run.Answers (run : Run Value) : Prop :=
  ∀ value, run.result = .ok value → ∃ truth, value.Decides truth

def Run.Allows (run : Run Value) : Prop :=
  ∃ result, run.result = .ok result ∧ result.Decides true

/-- The run gives a result that denies, and carries this error. -/
def Run.DeniesWith (run : Run Value) (error : Value) : Prop :=
  ∃ site allowed, run.result = .ok (.result site allowed error) ∧ allowed.truth = .ok false

namespace Value

theorem allows_of_decides {value : Value} {truth : Bool} (facts : Facts) (site : Site)
    (decided : value.Decides truth) : value.allows facts site = .ok truth := by
  cases decided with
  | result valued =>
      simp only [allows, allowance]
      change attempt site (Value.truth _) = _
      rw [valued]
      rfl

theorem Decides.unique {value : Value} {first second : Bool}
    (one : value.Decides first) (other : value.Decides second) : first = second := by
  cases one with
  | result valued =>
      cases other with
      | result tells =>
          rw [valued] at tells
          exact Except.ok.inj tells

end Value

theorem Run.answers_of_ok {run : Run Value} {result : Value} {truth : Bool}
    (given : run.result = .ok result) (decided : result.Decides truth) : run.Answers := by
  intro value ended
  have same : result = value := Except.ok.inj (given.symm.trans ended)
  exact ⟨truth, same ▸ decided⟩

namespace Guard

/-- A guard that is no connective. -/
def isLeaf : Guard → Bool
  | .both .. | .either .. => false
  | _ => true

/-- Induction over the connectives of a tree. -/
@[elab_as_elim]
theorem treeInduction {motive : Guard → Prop}
    (both : ∀ site left right, motive left → motive right → motive (.both site left right))
    (either : ∀ site left right, motive left → motive right → motive (.either site left right))
    (leaf : ∀ leaf : Guard, leaf.isLeaf = true → motive leaf) (tree : Guard) : motive tree :=
  match tree with
  | .both site left right =>
      both site left right (treeInduction both either leaf left) (treeInduction both either leaf right)
  | .either site left right =>
      either site left right (treeInduction both either leaf left)
        (treeInduction both either leaf right)
  | .allowAll site => leaf (.allowAll site) rfl
  | .denyAll site error => leaf (.denyAll site error) rfl
  | .function site callable error name => leaf (.function site callable error name) rfl
  | .leaf site cls given => leaf (.leaf site cls given) rfl
termination_by structural tree

/-- The leaves of a tree from left to right, one for each occurrence. -/
def leaves : Guard → Site → List (Placed Guard)
  | .both _ left right, site | .either _ left right, site =>
      left.leaves (site.child 0) ++ right.leaves (site.child 1)
  | tree, site => [⟨tree, site⟩]
termination_by structural tree => tree

theorem leaves_of_leaf {leaf : Guard} (isLeaf : leaf.isLeaf = true) (site : Site) :
    leaf.leaves site = [⟨leaf, site⟩] := by
  cases leaf with
  | both site left right => simp [Guard.isLeaf] at isLeaf
  | either site left right => simp [Guard.isLeaf] at isLeaf
  | allowAll site => rfl
  | denyAll site error => rfl
  | function site callable error name => rfl
  | leaf site given => rfl

end Guard

def Placed.check (around : Surroundings) (context : Value) (leaf : Placed Guard) : Run Value :=
  leaf.item.check around context leaf.site

namespace Guard

/-- The checks of all leaves of a tree, from left to right. -/
def leafChecks (around : Surroundings) (context : Value) (tree : Guard) (site : Site) :
    List (Run Value) :=
  (tree.leaves site).map (Placed.check around context)

theorem leafChecks_both (around : Surroundings) (context : Value) (place site : Site)
    (left right : Guard) :
    (Guard.both place left right).leafChecks around context site =
      left.leafChecks around context (site.child 0) ++
        right.leafChecks around context (site.child 1) :=
  List.map_append

theorem leafChecks_either (around : Surroundings) (context : Value) (place site : Site)
    (left right : Guard) :
    (Guard.either place left right).leafChecks around context site =
      left.leafChecks around context (site.child 0) ++
        right.leafChecks around context (site.child 1) :=
  List.map_append

theorem leafChecks_of_leaf {leaf : Guard} (isLeaf : leaf.isLeaf = true) (around : Surroundings)
    (context : Value) (site : Site) :
    leaf.leafChecks around context site = [leaf.check around context site] := by
  rw [leafChecks, leaves_of_leaf isLeaf]
  rfl

end Guard

namespace PostGuard

def isLeaf : PostGuard → Bool
  | .both .. => false
  | _ => true

@[elab_as_elim]
theorem treeInduction {motive : PostGuard → Prop}
    (both : ∀ site pin left right resultType, motive left → motive right →
      motive (.both site pin left right resultType))
    (leaf : ∀ leaf : PostGuard, leaf.isLeaf = true → motive leaf) (tree : PostGuard) :
    motive tree :=
  match tree with
  | .both site pin left right resultType =>
      both site pin left right resultType (treeInduction both leaf left)
        (treeInduction both leaf right)
  | .function site pin callable error resultType name =>
      leaf (.function site pin callable error resultType name) rfl
  | .leaf site cls kin pin given => leaf (.leaf site cls kin pin given) rfl
termination_by structural tree

/-- The leaves of a conjunction from left to right, one for each occurrence. -/
def leaves : PostGuard → Site → List (Placed PostGuard)
  | .both _ _ left right _, site => left.leaves (site.child 0) ++ right.leaves (site.child 1)
  | tree, site => [⟨tree, site⟩]
termination_by structural tree => tree

theorem leaves_of_leaf {leaf : PostGuard} (isLeaf : leaf.isLeaf = true) (site : Site) :
    leaf.leaves site = [⟨leaf, site⟩] := by
  cases leaf with
  | both site pin left right resultType => simp [PostGuard.isLeaf] at isLeaf
  | function site pin callable error resultType name => rfl
  | leaf site cls kin pin given => rfl

end PostGuard

def Placed.inspect (around : Surroundings) (context value : Value) (leaf : Placed PostGuard) :
    Run Value :=
  leaf.item.check around context value leaf.site

namespace PostGuard

def leafChecks (around : Surroundings) (context value : Value) (tree : PostGuard) (site : Site) :
    List (Run Value) :=
  (tree.leaves site).map (Placed.inspect around context value)

theorem leafChecks_both (around : Surroundings) (context value pin resultType : Value)
    (place site : Site) (left right : PostGuard) :
    (PostGuard.both place pin left right resultType).leafChecks around context value site =
      left.leafChecks around context value (site.child 0) ++
        right.leafChecks around context value (site.child 1) :=
  List.map_append

theorem leafChecks_of_leaf {leaf : PostGuard} (isLeaf : leaf.isLeaf = true)
    (around : Surroundings) (context value : Value) (site : Site) :
    leaf.leafChecks around context value site = [leaf.check around context value site] := by
  rw [leafChecks, leaves_of_leaf isLeaf]
  rfl

end PostGuard

namespace Session

/-- A class of guards as applications declare them. -/
def leafClass : ClassId := .declared .root "Leaf"

/-- A class of post guards as applications declare them. -/
def postLeafClass : ClassId := .declared .root "PostLeaf"

/-- A session of an application that brings these classes along. -/
def furnished : Session :=
  .opening [(leafClass, [Hierarchy.plain "Guard"], .given),
    (postLeafClass, [Hierarchy.applied "PostGuard" [.any]], .given)]

end Session

end GuardAlgebra
