import GuardAlgebra.Field.Resolver

namespace GuardAlgebra

/-! # Reading attributes

An object to which nothing was written under a name has what it holds of its own, and behind that
what its class has for all instances.
-/

namespace Facts

variable {facts : Facts} {value : Value} {name : String}

theorem read?_of_unwritten (object : ∀ expr, value ≠ .type expr)
    (unwritten : facts.written? value name = none) :
    facts.read? value name =
      ((entryOf? value.own name).or ((value.slot? name).map fun content => content.getD .none)).or
        ((facts.member? value.cls name).map value.boundTo) := by
  cases value with
  | type expr => exact absurd rfl (object expr)
  | _ =>
      simp only [read?]
      rw [unwritten]

theorem read_of_held {held : Value} (underived : value.derived? name = none)
    (holds : facts.read? value name = some held) : facts.read value name = .ok held := by
  rw [read, underived]
  simp only [holds]

theorem read_of_absent (underived : value.derived? name = none)
    (absent : facts.read? value name = none) (ordinary : name ≠ "__dict__") :
    facts.read value name = .error (.missingAttribute value.typeName name) := by
  rw [read, underived]
  simp [absent, ordinary]

/-- An object that has nothing under a name has a method of its class there. -/
theorem read_method {method : Method} (object : ∀ expr, value ≠ .type expr)
    (underived : value.derived? name = none) (unwritten : facts.written? value name = none)
    (entry : entryOf? value.own name = none) (slot : value.slot? name = none)
    (member : facts.member? value.cls name = some (.method method)) (given : method.isStatic = false) :
    facts.read value name = .ok (.bound (.method method) value) := by
  apply read_of_held underived
  rw [facts.read?_of_unwritten object unwritten, entry, slot, member]
  change some (if method.isStatic then Value.method method else Value.bound (.method method) value) = _
  rw [given]
  rfl

/-- A resolver object to which nothing was written has the parts it was made with, and tells of
denials to the log. -/
theorem resolver_of_unwritten {place : Site} {before after field : Value}
    (unwritten : ∀ part, facts.store.find? (.object place) part = none)
    (logs : facts.member? (.known "FieldResolver") Method.logDenial.name =
      some (.method .logDenial)) :
    facts.resolver (.resolver place before after field) = .whole before after field := by
  have object : ∀ expr, Value.resolver place before after field ≠ .type expr := nofun
  have read? (part : String) := facts.read?_of_unwritten object (unwritten part)
  have guard : facts.read (.resolver place before after field) "guard" = .ok before :=
    read_of_held rfl (read? "guard")
  have post : facts.read (.resolver place before after field) "post_guard" = .ok after :=
    read_of_held rfl (read? "post_guard")
  have name : facts.read (.resolver place before after field) "field_name" = .ok field :=
    read_of_held rfl (read? "field_name")
  have shared : facts.read (.resolver place before after field) Method.logDenial.name =
      .ok (.bound (.method .logDenial) (.resolver place before after field)) :=
    read_method object rfl (unwritten _) rfl rfl logs rfl
  have itself : (Value.resolver place before after field).identical
      (.resolver place before after field) = true := by
    simp [Value.identical, Value.site?]
  have listener : facts.listener (.resolver place before after field) = .ok none := by
    rw [listener, shared]
    change Except.ok (if Value.identical _ _ then _ else _) = _
    rw [itself]
    rfl
  rw [resolver, guard, post, name, listener]
  rfl

end Facts

end GuardAlgebra
