import GuardAlgebra.Proofs.Leaves

namespace GuardAlgebra

/-! # Connectives

Conjunction and disjunction differ in which first results have them go on to the second one. A first
value that is no result is asked to compose, by the name of the connective.
-/

/-- A connective at a site: it gives the second result where the first decides so that it `goesOn`,
and else the first; it fails where the first result does not decide. -/
structure Connects (around : Surroundings) (site : Site) (combine : Value → Value → Run Value)
    (name : String) (goesOn : Bool → Bool) : Prop where
  named : name ∈ ["and_", "or_"]
  decides : ∀ {first second truth}, first.Decides truth →
    combine first second = .done (if goesOn truth then second else first)
  fails : ∀ {place allowed error second fault}, allowed.truth = .error fault →
    (combine (.result place allowed error) second).result = .error (.fault site fault)
  asks : ∀ {first second}, (∀ place allowed error, first ≠ .result place allowed error) →
    combine first second = around.demand first name [second] site

theorem Value.allows_of_undecided {facts : Facts} {place site : Site} {allowed error : Value}
    {fault : Fault} (undecided : allowed.truth = .error fault) :
    (Value.result place allowed error).allows facts site = .error (.fault site fault) := by
  change attempt site allowed.truth = _
  rw [undecided]
  rfl

namespace Surroundings

theorem connects_meet (around : Surroundings) (site : Site) :
    Connects around site (fun first second => around.meet first second site) "and_" id where
  named := List.mem_cons_self
  decides := by
    intro first second truth decided
    have allows := Value.allows_of_decides around.facts site decided
    cases decided with
    | result valued =>
        simp only [meet, Value.meet, allows]
        cases truth <;> rfl
  fails := by
    intro place allowed error second fault undecided
    rw [meet, Run.result_ofAttempt, Value.meet, Value.allows_of_undecided undecided]
    rfl
  asks := by
    intro first second foreign
    cases first with
    | result place allowed error => exact absurd rfl (foreign place allowed error)
    | _ => rfl

theorem connects_join (around : Surroundings) (site : Site) :
    Connects around site (fun first second => around.join first second site) "or_" not where
  named := List.mem_cons_of_mem _ List.mem_cons_self
  decides := by
    intro first second truth decided
    have allows := Value.allows_of_decides around.facts site decided
    cases decided with
    | result valued =>
        simp only [join, Value.join, allows]
        cases truth <;> rfl
  fails := by
    intro place allowed error second fault undecided
    rw [join, Run.result_ofAttempt, Value.join, Value.allows_of_undecided undecided]
    rfl
  asks := by
    intro first second foreign
    cases first with
    | result place allowed error => exact absurd rfl (foreign place allowed error)
    | _ => rfl

end Surroundings

section Composing

variable {facts : Facts} {site : Site} {left right : Value}

/-- A conjunction that is made is made of two guards, at its own site. -/
theorem Guard.conjoin_eq_ok {tree : Guard} (made : Guard.conjoin site left right = .ok tree) :
    ∃ one other, tree = .both site one other := by
  obtain ⟨one, -, made⟩ := Attempt.bind_eq_ok.mp made
  obtain ⟨other, -, made⟩ := Attempt.bind_eq_ok.mp made
  cases made
  exact ⟨one, other, rfl⟩

theorem Guard.disjoin_eq_ok {tree : Guard} (made : Guard.disjoin site left right = .ok tree) :
    ∃ one other, tree = .either site one other := by
  obtain ⟨one, -, made⟩ := Attempt.bind_eq_ok.mp made
  obtain ⟨other, -, made⟩ := Attempt.bind_eq_ok.mp made
  cases made
  exact ⟨one, other, rfl⟩

theorem PostGuard.conjoin_eq_ok {pin : Value} {tree : PostGuard}
    (made : PostGuard.conjoin facts site pin left right = .ok tree) :
    ∃ one other resultType, tree = .both site pin one other resultType := by
  obtain ⟨one, -, made⟩ := Attempt.bind_eq_ok.mp made
  obtain ⟨other, -, made⟩ := Attempt.bind_eq_ok.mp made
  obtain ⟨oneType, -, made⟩ := Attempt.bind_eq_ok.mp made
  obtain ⟨otherType, -, made⟩ := Attempt.bind_eq_ok.mp made
  obtain ⟨resultType, -, made⟩ := Attempt.bind_eq_ok.mp made
  cases made
  exact ⟨one, other, resultType, rfl⟩

end Composing

end GuardAlgebra
