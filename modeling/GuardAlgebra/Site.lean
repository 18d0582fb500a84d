/-!
Sites: where objects are made.

Objects of a session have an identity beside their contents. It is the site at which the object was
made: a path of turns through the session, so that what happens at one place can name what it
makes without knowing what happens elsewhere.
-/
namespace GuardAlgebra

/-- A path of turns, the latest first. Two objects are the same object when their sites agree. -/
structure Site where
  path : List Nat
  deriving DecidableEq, Repr

namespace Site

def root : Site := ⟨[]⟩

def child (site : Site) (turn : Nat) : Site := ⟨turn :: site.path⟩

@[simp] theorem child_inj {site other : Site} {turn next : Nat} :
    site.child turn = other.child next ↔ turn = next ∧ site = other := by
  cases site
  cases other
  simp [child]

end Site

end GuardAlgebra
