import GuardAlgebra.Value

/-!
What has been written to the attributes of objects and classes since they were made: a list of
writes, the latest first. `find?_put` and `find?_erase` say that a write is seen at its own place
alone.
-/
namespace GuardAlgebra

/-- What attributes are written to: an object, or a class. -/
inductive Place where
  | object (site : Site)
  | cls (id : ClassId)
  deriving DecidableEq, Repr

/-- A value was put into an attribute at a place, or the attribute was deleted. -/
structure Write where
  place : Place
  name : String
  value : Option Value

structure Store where
  writes : List Write

namespace Store

def empty : Store := ⟨[]⟩

/-- The latest write to an attribute: the value, or that it was deleted. -/
def find? (store : Store) (place : Place) (name : String) : Option (Option Value) :=
  (store.writes.find? fun write => write.place = place ∧ write.name = name).map Write.value

def put (store : Store) (place : Place) (name : String) (value : Value) : Store :=
  ⟨⟨place, name, some value⟩ :: store.writes⟩

def erase (store : Store) (place : Place) (name : String) : Store :=
  ⟨⟨place, name, none⟩ :: store.writes⟩

/-- The attributes of a place that were written, in the order of their first writes. -/
def namesAt (store : Store) (place : Place) : List String :=
  ((store.writes.filter fun write => write.place = place).map Write.name).reverse.eraseDups

variable {store : Store} {place other : Place} {name wanted : String} {value : Value}

@[simp] theorem find?_empty : empty.find? place name = none := rfl

theorem find?_put :
    (store.put place name value).find? other wanted =
      if place = other ∧ name = wanted then some (some value) else store.find? other wanted := by
  unfold find? put
  by_cases here : place = other ∧ name = wanted <;> simp [here]

theorem find?_erase :
    (store.erase place name).find? other wanted =
      if place = other ∧ name = wanted then some none else store.find? other wanted := by
  unfold find? erase
  by_cases here : place = other ∧ name = wanted <;> simp [here]

end Store

end GuardAlgebra
