import GuardAlgebra.Proofs.Attributes
import GuardAlgebra.Proofs.Hashes
import GuardAlgebra.Proofs.Pins

namespace GuardAlgebra

/-! # Frozen objects

Results, contexts, outcomes and all guards of the library are frozen: whoever writes to one or deletes
from it is refused, unless type arguments are written to a post guard. So a script that writes to
frozen objects alone can only pin post guards, and all else that frozen objects are asked for is what it
was: their checks, equality and hashes, and the types of the trees that stand above them.
-/

namespace Value

/-- The attributes by which a record is compared and hashed, in order. -/
def compared : Value → List String
  | .result .. => ["allowed", "error"]
  | .context .. => ["request", "user", "organization_id", "extra_data"]
  | .outcome .. => ["field_name", "value", "error", "resolved", "stage"]
  | .guard (.both ..) | .guard (.either ..) | .post (.both ..) => ["left", "right"]
  | .guard (.denyAll ..) => ["error"]
  | .guard (.function ..) => ["func", "error"]
  | .post (.function ..) => ["func", "error", "result_type"]
  | _ => []

def isJunction : Value → Bool
  | .guard (.both ..) | .guard (.either ..) | .post (.both ..) => true
  | _ => false

variable {value other : Value}

theorem ordinary_of_compared {name : String} (member : name ∈ value.compared) :
    name ≠ pinAttribute ∧ name ≠ "__dict__" := by
  unfold compared at member
  split at member <;> revert name <;> decide

/-- A record is compared by what it was made with. -/
theorem own_compared (frozen : value.isFrozen = true) :
    List.Forall₂ (fun name part => entryOf? value.own name = some part ∧
      value.derived? name = Option.none ∧ name ≠ pinAttribute) value.compared value.parts := by
  cases value with
  | result | context | outcome => repeat' first | constructor | decide
  | guard tree | post tree =>
      cases tree with
      | leaf => cases frozen
      | _ => repeat' first | constructor | decide
  | _ => cases frozen

theorem exists_site (frozen : value.isFrozen = true) : ∃ site, value.site? = some site := by
  cases value <;> first | exact ⟨_, rfl⟩ | cases frozen

def Kind.className : Kind → String
  | .tuple => "tuple"
  | .result => "GuardResult"
  | .context => "GuardContext"
  | .outcome => "FieldOutcome"
  | .both => "And"
  | .either => "Or"
  | .allowAll => "AllowAll"
  | .denyAll => "DenyAll"
  | .function => "FunctionGuard"
  | .bothPost => "PostAnd"
  | .functionPost => "FunctionPostGuard"

theorem Kind.className_inj {kind also : Kind} (same : kind.className = also.className) :
    kind = also := by
  cases kind <;> cases also <;> first | rfl | exact absurd same (by decide)

theorem exists_kind (frozen : value.isFrozen = true) :
    ∃ kind : Kind, value.head = .record kind ∧ value.cls = .known kind.className := by
  cases value with
  | result | context | outcome => exact ⟨_, rfl, rfl⟩
  | guard tree | post tree =>
      cases tree with
      | leaf => cases frozen
      | _ => exact ⟨_, rfl, rfl⟩
  | _ => cases frozen

/-- Records of one class are compared part by part. -/
theorem same_of_frozen (frozen : value.isFrozen = true) (otherFrozen : other.isFrozen = true)
    (alike : value.cls = other.cls) : value.same other = sameItems value.parts other.parts := by
  obtain ⟨kind, found, cls⟩ := exists_kind frozen
  obtain ⟨also, otherFound, otherCls⟩ := exists_kind otherFrozen
  have kinds : kind = also := Kind.className_inj (by simpa [cls, otherCls] using alike)
  subst kinds
  -- Lists of parts are compared to their end, records up to their last part.
  have last (outcome : Except Fault Bool) : bothHold outcome (.ok true) = outcome := by
    rcases outcome with fault | truth
    · rfl
    · cases truth <;> rfl
  fun_cases head value <;> simp only [head, reduceCtorEq, Head.record.injEq, *] at found
  all_goals
    subst found
    fun_cases head other <;> simp only [head, reduceCtorEq, Head.record.injEq, *] at otherFound
  all_goals simp only [same, Guard.same, PostGuard.same, parts, Guard.parts, PostGuard.parts,
    sameItems, last]

end Value

namespace Facts

/-- What a record is compared by, as its attributes stand. -/
def record (facts : Facts) (value : Value) : Except Fault (List Value) :=
  value.compared.mapM (facts.read value)

/-- Equality by the attributes as they stand. -/
def equal (facts : Facts) (value other : Value) : Except Fault Bool :=
  if value.isFrozen && other.isFrozen && value.cls = other.cls then do
    let parts ← facts.record value
    let others ← facts.record other
    Value.sameItems parts others
  else value.same other

/-- The hash of a record by its attributes as they stand. -/
def hash (facts : Facts) (hashing : Hashing) (value : Value) : Except Fault Int :=
  if value.isFrozen then do
    let parts ← facts.record value
    pure (Value.assemble hashing (parts.map (Value.hash hashing)) value.head)
  else .ok (value.hash hashing)

/-- Nothing was written to any object but type arguments. -/
def Unwritten (facts : Facts) : Prop :=
  ∀ place name, name ≠ pinAttribute → facts.store.find? place name = none

/-- What stands in a tree at any depth, as the attributes of its nodes tell. -/
inductive Under (facts : Facts) (root : Value) : Value → Prop where
  | root : Under facts root root
  | part {node part : Value} {name : String} (above : Under facts root node)
      (junction : node.isJunction = true) (side : name = "left" ∨ name = "right")
      (reads : facts.read node name = .ok part) : Under facts root part

variable {facts after : Facts} {value other new : Value} {site : Site} {name : String}

section Refusals

/-- Nothing can be written to a frozen object but type arguments to a post guard. -/
theorem write_frozen (frozen : value.isFrozen = true)
    (unpinned : (value.admitsPin && name = pinAttribute) = false) :
    facts.write value site name new = .error (.frozen name) := by
  obtain ⟨place, found⟩ := Value.exists_site frozen
  unfold write
  split
  next => cases frozen
  next absent =>
    rw [found] at absent
    cases absent
  next => simp [unpinned, frozen]

theorem write_pinned (frozen : value.isFrozen = true) (admits : value.admitsPin = true) :
    ∃ place, value.site? = some place ∧
      facts.write value site pinAttribute new = .ok (facts.pin place new) := by
  obtain ⟨place, found⟩ := Value.exists_site frozen
  refine ⟨place, found, ?_⟩
  unfold write
  split
  next => cases frozen
  next absent =>
    rw [found] at absent
    cases absent
  next other _ here =>
    rw [found] at here
    cases here
    simp [admits, pin]

theorem erase_frozen (frozen : value.isFrozen = true) :
    facts.erase value name = .error (.frozen name) := by
  simp [erase, frozen]

end Refusals

section Records

theorem read_of_own {part : Value} (unwritten : facts.Unwritten) (frozen : value.isFrozen = true)
    (ordinary : name ≠ pinAttribute) (own : entryOf? value.own name = some part)
    (underived : value.derived? name = none) : facts.read value name = .ok part := by
  have object : ∀ expr, value ≠ .type expr := by
    rintro expr rfl
    cases frozen
  have absent : facts.written? value name = none := by
    unfold written?
    cases value.place? with
    | none => rfl
    | some place => exact unwritten place name ordinary
  apply read_of_held underived
  rw [read?_of_unwritten object absent, own]
  rfl

theorem record_of_unwritten (unwritten : facts.Unwritten) (frozen : value.isFrozen = true) :
    facts.record value = .ok value.parts := by
  have reads : List.Forall₂ (fun name part => facts.read value name = .ok part) value.compared
      value.parts :=
    (Value.own_compared frozen).imp fun _ _ ⟨own, underived, ordinary⟩ =>
      read_of_own unwritten frozen ordinary own underived
  rw [record]
  generalize value.compared = names, value.parts = parts at reads
  induction reads with
  | nil => rfl
  | cons first _ ih =>
      rw [List.mapM_cons, first, ih]
      rfl

/-- Equality as the attributes stand is equality of what was made. -/
theorem equal_of_unwritten (unwritten : facts.Unwritten) (value other : Value) :
    facts.equal value other = value.same other := by
  unfold equal
  split
  next alike =>
    simp only [Bool.and_eq_true, decide_eq_true_eq] at alike
    obtain ⟨⟨frozen, otherFrozen⟩, alike⟩ := alike
    rw [record_of_unwritten unwritten frozen, record_of_unwritten unwritten otherFrozen,
      Value.same_of_frozen frozen otherFrozen alike]
    rfl
  next => rfl

theorem hash_of_unwritten (unwritten : facts.Unwritten) (hashing : Hashing) (value : Value) :
    facts.hash hashing value = .ok (value.hash hashing) := by
  unfold hash
  split
  next frozen =>
    rw [record_of_unwritten unwritten frozen, Value.hash_eq]
    rfl
  next => rfl

end Records

section Trees

theorem read_part (unwritten : facts.Unwritten) (junction : value.isJunction = true)
    (side : name = "left" ∨ name = "right") :
    ∃ part ∈ value.parts, facts.read value name = .ok part := by
  have ordinary : name ≠ pinAttribute := by rcases side with rfl | rfl <;> decide
  have stands (frozen : value.isFrozen = true) (two : value.compared = ["left", "right"]) :
      ∃ part ∈ value.parts, facts.read value name = .ok part := by
    have own := Value.own_compared frozen
    rw [two] at own
    obtain ⟨left, _, ⟨leftOwn, leftGiven, -⟩, rest, parts⟩ := List.forall₂_cons_left_iff.mp own
    obtain ⟨right, _, ⟨rightOwn, rightGiven, -⟩, -, rfl⟩ := List.forall₂_cons_left_iff.mp rest
    rw [parts]
    rcases side with rfl | rfl
    · exact ⟨left, List.mem_cons_self,
        read_of_own unwritten frozen ordinary leftOwn leftGiven⟩
    · exact ⟨right, List.mem_cons_of_mem _ List.mem_cons_self,
        read_of_own unwritten frozen ordinary rightOwn rightGiven⟩
  unfold Value.isJunction at junction
  split at junction
  · exact stands rfl rfl
  · exact stands rfl rfl
  · exact stands rfl rfl
  · cases junction

theorem under_guard {tree : Guard} {node : Value} (unwritten : facts.Unwritten)
    (under : facts.Under (.guard tree) node) : ∃ part, node = .guard part := by
  induction under with
  | root => exact ⟨tree, rfl⟩
  | part _ junction side reads ih =>
      obtain ⟨above, rfl⟩ := ih
      obtain ⟨part, member, found⟩ := read_part unwritten junction side
      obtain rfl := Except.ok.inj (found.symm.trans reads)
      cases above with
      | both | either =>
          simp only [Value.parts, Guard.parts, List.mem_cons, List.not_mem_nil, or_false] at member
          rcases member with rfl | rfl <;> exact ⟨_, rfl⟩
      | _ => cases junction

theorem under_post {tree : PostGuard} {node : Value} (unwritten : facts.Unwritten)
    (under : facts.Under (.post tree) node) : ∃ part, node = .post part := by
  induction under with
  | root => exact ⟨tree, rfl⟩
  | part _ junction side reads ih =>
      obtain ⟨above, rfl⟩ := ih
      obtain ⟨part, member, found⟩ := read_part unwritten junction side
      obtain rfl := Except.ok.inj (found.symm.trans reads)
      cases above with
      | both =>
          simp only [Value.parts, PostGuard.parts, List.mem_cons, List.not_mem_nil,
            or_false] at member
          rcases member with rfl | rfl <;> exact ⟨_, rfl⟩
      | _ => cases junction

end Trees

section Pins

variable {sites : List Site}

theorem record_pin : (facts.pin site new).record value = facts.record value := by
  have reads {name : String} (member : name ∈ value.compared) :
      (facts.pin site new).read value name = facts.read value name :=
    read_pin fun _ => Value.ordinary_of_compared member
  rw [record, record]
  generalize value.compared = names at reads
  induction names with
  | nil => rfl
  | cons name names ih =>
      rw [List.mapM_cons, List.mapM_cons, reads List.mem_cons_self,
        ih fun member => reads (List.mem_cons_of_mem _ member)]

theorem equal_pin : (facts.pin site new).equal value other = facts.equal value other := by
  simp only [equal, record_pin]

theorem hash_pin (hashing : Hashing) :
    (facts.pin site new).hash hashing value = facts.hash hashing value := by
  simp only [hash, record_pin]

theorem Pins.unwritten (pins : facts.Pins sites after) (unwritten : facts.Unwritten) :
    after.Unwritten := by
  intro place name ordinary
  have kept : after.store.find? place name = facts.store.find? place name :=
    pins.kept (·.store.find? place name) fun _ _ _ _ => find?_pin fun _ => ordinary
  rw [kept]
  exact unwritten place name ordinary

end Pins

end Facts

/-- The object has its place apart from these sites. -/
def Value.Apart (sites : List Site) (value : Value) : Prop :=
  ∀ site ∈ sites, value.place? ≠ some (.object site)

/-- What a scene answers as an earlier one did, when nothing happened in between but that post guards at
these sites were pinned. -/
structure Scene.Undisturbed (before : Scene) (sites : List Site) (after : Scene) : Prop where
  attributes : ∀ value name, value.Apart sites ∨ name ≠ pinAttribute ∧ name ≠ "__dict__" →
    after.facts.read value name = before.facts.read value name
  words : ∀ value, after.facts.depict value = before.facts.depict value
  equality : ∀ value other, after.facts.equal value other = before.facts.equal value other
  hashes : ∀ hashing value, after.facts.hash hashing value = before.facts.hash hashing value
  /-- The runs of checks, whatever the functions answer that they call. -/
  checks : ∀ call context site (tree : Guard),
    tree.check ⟨after.facts, call⟩ context site = tree.check ⟨before.facts, call⟩ context site
  postChecks : ∀ call context value site (tree : PostGuard),
    tree.check ⟨after.facts, call⟩ context value site =
      tree.check ⟨before.facts, call⟩ context value site
  functions : ∀ function : Callable, function.body.Direct →
    after.call (.callable function) = before.call (.callable function)
  unmoved : ∀ context site (tree : Guard), tree.Unmoved before.facts before.call after.call →
    tree.check after.surroundings context site = tree.check before.surroundings context site
  postUnmoved : ∀ context value site (tree : PostGuard),
    tree.Unmoved before.facts before.call after.call →
      tree.check after.surroundings context value site =
        tree.check before.surroundings context value site
  types : ∀ value site, value.Apart sites →
    after.facts.resultType value site = before.facts.resultType value site

theorem Scene.undisturbed_of_pins {before : Scene} {sites : List Site} {after : Facts}
    (pins : before.facts.Pins sites after) :
    before.Undisturbed sites ⟨after, before.configuration⟩ := by
  have checks call context site (tree : Guard) :
      tree.check ⟨after, call⟩ context site = tree.check ⟨before.facts, call⟩ context site :=
    pins.kept (tree.check ⟨·, call⟩ context site) fun _ _ _ _ => tree.check_pin context site
  have postChecks call context value site (tree : PostGuard) :
      tree.check ⟨after, call⟩ context value site =
        tree.check ⟨before.facts, call⟩ context value site :=
    pins.kept (tree.check ⟨·, call⟩ context value site) fun _ _ _ _ =>
      tree.check_pin context value site
  exact {
    attributes := fun value name other =>
      pins.kept (·.read value name) fun _ site _ member => Facts.read_pin fun here =>
        other.resolve_left fun apart => apart site member here
    words := fun value => pins.kept (·.depict value) fun _ _ _ _ => Facts.depict_pin
    equality := fun value other =>
      pins.kept (·.equal value other) fun _ _ _ _ => Facts.equal_pin
    hashes := fun hashing value =>
      pins.kept (·.hash hashing value) fun _ _ _ _ => Facts.hash_pin hashing
    checks := checks
    postChecks := postChecks
    functions := fun function direct =>
      pins.kept (Scene.call ⟨·, before.configuration⟩ (.callable function)) fun _ _ _ _ =>
        Scene.call_pin before.configuration direct
    unmoved := fun context site tree unmoved =>
      (checks _ context site tree).trans (Guard.check_of_unmoved unmoved)
    postUnmoved := fun context value site tree unmoved =>
      (postChecks _ context value site tree).trans (PostGuard.check_of_unmoved unmoved)
    types := fun value site apart =>
      pins.kept (·.resultType value site) fun _ place _ member =>
        Facts.resultType_pin (apart place member) site }

/-- Trees are made of what they must be made of, and what they are compared and hashed by is what they
were made with. -/
structure Facts.Sound (facts : Facts) : Prop where
  guards : ∀ (tree : Guard) node, facts.Under (.guard tree) node → ∃ part, node = .guard part
  posts : ∀ (tree : PostGuard) node, facts.Under (.post tree) node → ∃ part, node = .post part
  equality : ∀ value other, facts.equal value other = value.same other
  hashes : ∀ hashing value, facts.hash hashing value = .ok (value.hash hashing)

theorem Facts.sound_of_unwritten {facts : Facts} (unwritten : facts.Unwritten) : facts.Sound where
  guards _ _ := under_guard unwritten
  posts _ _ := under_post unwritten
  equality := equal_of_unwritten unwritten
  hashes := hash_of_unwritten unwritten

end GuardAlgebra
