import GuardAlgebra.Proofs.Attributes
import GuardAlgebra.Proofs.Connective
import GuardAlgebra.Call.Routine

namespace GuardAlgebra

/-! # What cannot pass for a result

Results are told by what they have: a word on being allowed, and ways to compose. A value without
these is inert. It allows nothing, and asking it to compose fails or makes a guard, which is inert in
turn and never a result.
-/

/-- A value that is no result and cannot pass for one. It has no `allowed`, and what it has to compose
with is at most the library's own method of that name. -/
structure Inert (facts : Facts) (value : Value) : Prop where
  foreign : ∀ site allowed error, value ≠ .result site allowed error
  mute : ∃ fault, facts.read value "allowed" = .error fault
  composes : ∀ name ∈ ["and_", "or_"], ∀ held, facts.read value name = .ok held →
    ∃ method : Method, method.name = name ∧
      (held = .method method ∨ held = .bound (.method method) value)

/-- The guards and post guards that composing makes at a site. -/
inductive Joint (site : Site) : Value → Prop where
  | both (left right : Guard) : Joint site (.guard (.both site left right))
  | either (left right : Guard) : Joint site (.guard (.either site left right))
  | post (pin resultType : Value) (left right : PostGuard) :
      Joint site (.post (.both site pin left right resultType))

/-- A class to which nothing of the algebra was added: it has no `allowed`, and composes by the
library's own methods, if at all. -/
def Facts.keepsAlgebra (facts : Facts) (cls : ClassId) : Bool :=
  (facts.member? cls "allowed").isNone &&
    ["and_", "or_"].all fun name =>
      match facts.member? cls name with
      | some (.method method) => method.name = name && !method.isStatic
      | some _ => false
      | none => true

/-- Nothing that was made without an `allowed` or a way to compose, and not given one, is a result. -/
theorem inert_of_unwritten {facts : Facts} {value : Value}
    (foreign : ∀ site allowed error, value ≠ .result site allowed error)
    (object : ∀ expr, value ≠ .type expr)
    (unwritten : ∀ name ∈ ["allowed", "and_", "or_"], facts.written? value name = none)
    (own : ∀ name ∈ ["allowed", "and_", "or_"], value.derived? name = none ∧
      entryOf? value.own name = none ∧ value.slot? name = none)
    (keeps : facts.keepsAlgebra value.cls = true) : Inert facts value := by
  have shared (name : String) (algebraic : name ∈ ["allowed", "and_", "or_"]) :
      facts.read? value name = (facts.member? value.cls name).map value.boundTo := by
    obtain ⟨-, entry, slot⟩ := own name algebraic
    rw [facts.read?_of_unwritten object (unwritten name algebraic), entry, slot]
    rfl
  rw [Facts.keepsAlgebra, Bool.and_eq_true, List.all_eq_true] at keeps
  obtain ⟨mute, composes⟩ := keeps
  refine ⟨foreign, ?_, ?_⟩
  · have absent : facts.read? value "allowed" = none := by
      rw [shared "allowed" (by simp), Option.isNone_iff_eq_none.mp mute]
      rfl
    exact ⟨_, Facts.read_of_absent (own "allowed" (by simp)).1 absent (by simp)⟩
  · intro name composing held reads
    have algebraic : name ∈ ["allowed", "and_", "or_"] := List.mem_cons_of_mem _ composing
    have ordinary : name ≠ "__dict__" := by
      rintro rfl
      simp at composing
    have kept := composes name composing
    have underived := (own name algebraic).1
    cases member : facts.member? value.cls name with
    | none =>
        have absent : facts.read? value name = none := by rw [shared name algebraic, member]; rfl
        rw [Facts.read_of_absent underived absent ordinary] at reads
        exact nomatch reads
    | some given =>
        rw [member] at kept
        have present : facts.read? value name = some (value.boundTo given) := by
          rw [shared name algebraic, member]; rfl
        rw [Facts.read_of_held underived present] at reads
        cases given with
        | method method =>
            simp only [Bool.and_eq_true, decide_eq_true_eq, Bool.not_eq_true'] at kept
            cases reads
            refine ⟨method, kept.1, .inr ?_⟩
            simp [Value.boundTo, kept.2]
        | _ => exact nomatch kept

/-- What composing makes at a site to which nothing was written is inert. -/
theorem inert_of_joint {facts : Facts} {site : Site} {value : Value} (joint : Joint site value)
    (unwritten : ∀ name, facts.store.find? (.object site) name = none)
    (keeps : ∀ cls ∈ ["And", "Or", "PostAnd"], facts.keepsAlgebra (.known cls) = true) :
    Inert facts value := by
  cases joint with
  | both left right =>
      refine inert_of_unwritten nofun nofun (fun name _ => unwritten name) ?_ (keeps "And" (by simp))
      simp [Value.derived?, Value.own, Guard.own, entryOf?, Value.slot?]
  | either left right =>
      refine inert_of_unwritten nofun nofun (fun name _ => unwritten name) ?_ (keeps "Or" (by simp))
      simp [Value.derived?, Value.own, Guard.own, entryOf?, Value.slot?]
  | post pin resultType left right =>
      refine inert_of_unwritten nofun nofun (fun name _ => unwritten name) ?_
        (keeps "PostAnd" (by simp))
      cases unpinned : pin.isNone <;>
        simp [Value.derived?, Value.own, PostGuard.own, PostGuard.pin, unpinned, entryOf?,
          Value.slot?, pinAttribute]

namespace Inert

variable {facts : Facts} {value : Value}

/-- Whether an inert value allows cannot be told. -/
theorem not_allows (inert : Inert facts value) (site : Site) :
    ∃ fault, value.allows facts site = .error (.fault site fault) := by
  obtain ⟨fault, mute⟩ := inert.mute
  refine ⟨fault, ?_⟩
  have allowance : value.allowance facts = .error fault := by
    cases value with
    | result place allowed error => exact absurd rfl (inert.foreign place allowed error)
    | _ => exact mute
  rw [Value.allows, allowance]
  rfl

theorem not_meet (inert : Inert facts value) (site : Site) (other : Value) :
    ∃ fault, value.meet facts site other = .error (.fault site fault) := by
  obtain ⟨fault, silent⟩ := inert.not_allows site
  refine ⟨fault, ?_⟩
  rw [Value.meet, silent]
  rfl

theorem not_join (inert : Inert facts value) (site : Site) (other : Value) :
    ∃ fault, value.join facts site other = .error (.fault site fault) := by
  obtain ⟨fault, silent⟩ := inert.not_allows site
  refine ⟨fault, ?_⟩
  rw [Value.join, silent]
  rfl

end Inert

theorem Method.composing {method : Method} (composes : method.name ∈ ["and_", "or_"]) :
    method = .meetResults ∨ method = .joinResults ∨ method = .meetGuards ∨
      method = .joinGuards ∨ method = .meetPosts := by
  cases method <;> simp_all [Method.name]

section Demand

variable {scene : Scene} {around : Surroundings} {depth : Nat} {site : Site}
  {value other given logDenials : Value} {method : Method} {answer : Answer}

theorem atOnce_eq_ok {attempt : Attempt Value}
    (answers : (Surroundings.atOnce attempt).result = .ok answer) :
    ∃ value, attempt = .ok value ∧ answer = .now value := by
  obtain ⟨value, given, answered⟩ := Run.result_bind_eq_ok.mp answers
  rw [Run.result_ofAttempt] at given
  cases answered
  exact ⟨value, given, rfl⟩

/-- A method that composes makes a joint of an inert value, if anything. -/
theorem joint_of_callMethod (inert : Inert around.facts value)
    (composes : method.name ∈ ["and_", "or_"])
    (answers : (around.callMethod logDenials method ⟨[value, other], []⟩ site).result = .ok answer) :
    ∃ joint, Joint site joint ∧ answer = .now joint := by
  rcases Method.composing composes with rfl | rfl | rfl | rfl | rfl
  · obtain ⟨given, met, -⟩ := atOnce_eq_ok answers
    obtain ⟨fault, refused⟩ := inert.not_meet site other
    rw [refused] at met
    exact nomatch met
  · obtain ⟨given, joined, -⟩ := atOnce_eq_ok answers
    obtain ⟨fault, refused⟩ := inert.not_join site other
    rw [refused] at joined
    exact nomatch joined
  · obtain ⟨given, made, answered⟩ := atOnce_eq_ok answers
    obtain ⟨tree, joined, rfl⟩ := Attempt.map_eq_ok.mp made
    obtain ⟨left, right, rfl⟩ := Guard.conjoin_eq_ok joined
    exact ⟨_, .both left right, answered⟩
  · obtain ⟨given, made, answered⟩ := atOnce_eq_ok answers
    obtain ⟨tree, joined, rfl⟩ := Attempt.map_eq_ok.mp made
    obtain ⟨left, right, rfl⟩ := Guard.disjoin_eq_ok joined
    exact ⟨_, .either left right, answered⟩
  · obtain ⟨given, made, answered⟩ := atOnce_eq_ok answers
    obtain ⟨tree, joined, rfl⟩ := Attempt.map_eq_ok.mp made
    obtain ⟨left, right, resultType, rfl⟩ := PostGuard.conjoin_eq_ok joined
    exact ⟨_, .post .none resultType left right, answered⟩

theorem not_callMethod_alone (composes : method.name ∈ ["and_", "or_"]) :
    (around.callMethod logDenials method ⟨[other], []⟩ site).result ≠ .ok answer := by
  rcases Method.composing composes with rfl | rfl | rfl | rfl | rfl <;> exact fun given => nomatch given

/-- Asking an inert value to compose gives a joint, if anything. -/
theorem joint_of_demand {name : String} (inert : Inert scene.facts value)
    (composes : name ∈ ["and_", "or_"])
    (gives : (Surroundings.demand ⟨scene.facts, scene.callWithin depth⟩ value name [other]
      site).result = .ok given) : Joint site given := by
  obtain ⟨answer, asked, unawaited⟩ := Run.result_bind_eq_ok.mp gives
  obtain ⟨held, read, called⟩ := Run.result_bind_eq_ok.mp asked
  rw [Run.result_ofExcept] at read
  cases reads : scene.facts.read value name with
  | error fault =>
      simp only [reads] at read
      exact nomatch read
  | ok function =>
      simp only [reads] at read
      cases read
      obtain ⟨method, rfl, rfl | rfl⟩ := inert.composes name composes held reads
      · -- The method of a class comes without an object, and takes the other value for one.
        cases depth with
        | zero => exact nomatch called
        | succ rest => exact absurd called (not_callMethod_alone composes)
      · -- A bound method is two calls deep: itself, and the method with its object in front.
        rcases depth with _ | _ | rest
        · exact nomatch called
        · exact nomatch called
        · let within : Surroundings := ⟨scene.facts, scene.callWithin rest⟩
          have inertWithin : Inert within.facts value := inert
          obtain ⟨joint, isJoint, rfl⟩ := joint_of_callMethod inertWithin composes called
          cases unawaited
          exact isJoint

end Demand

end GuardAlgebra
