import GuardAlgebra.Proofs.Binding
import GuardAlgebra.Proofs.Sequence
import GuardAlgebra.Session.Execute

namespace GuardAlgebra

/-! # Types that a session writes

Whatever a session writes as a type could stand as a base of a class: the classes it names are there,
and those that are given type arguments get as many as they have type variables. A subscript may give
an older type back that is the same; then it fits as well, for equal types fit alike.
-/

/-- What an evaluation can give, whatever is remembered when it starts. -/
def Evaluation.Gives {α : Type} (evaluation : Evaluation α) (value : α) : Prop :=
  ∃ before after, evaluation.run.run before = (.ok value, after)

namespace Evaluation

variable {α β : Type} {value other : α} {final : β}

theorem gives_pure : Gives (pure value) other ↔ value = other := by
  constructor
  · rintro ⟨before, after, ends⟩
    exact Except.ok.inj (congrArg Prod.fst ends)
  · rintro rfl
    exact ⟨.empty, .empty, rfl⟩

theorem not_gives_throw {cause : Exception} : ¬ Gives (throw cause) value := by
  rintro ⟨before, after, ends⟩
  cases congrArg Prod.fst ends

theorem gives_ite {condition : Prop} [Decidable condition] {evaluation : Evaluation α}
    {cause : Exception} (gives : Gives (if condition then evaluation else throw cause) value) :
    condition ∧ evaluation.Gives value := by
  split at gives
  next holds => exact ⟨holds, gives⟩
  next => exact absurd gives not_gives_throw

theorem gives_lift {attempt : Attempt α} (gives : Gives (liftM attempt) value) :
    attempt = .ok value := by
  obtain ⟨before, after, ends⟩ := gives
  cases attempt with
  | error cause => cases congrArg Prod.fst ends
  | ok given => exact congrArg Prod.fst ends

theorem exists_of_gives_bind {first : Evaluation α} {next : α → Evaluation β}
    (gives : Gives (first >>= next) final) :
    ∃ value, first.Gives value ∧ (next value).Gives final := by
  obtain ⟨before, after, ends⟩ := gives
  rw [ExceptT.run_bind, StateT.run_bind] at ends
  rcases given : first.run.run before with ⟨outcome, middle⟩
  rw [given] at ends
  cases outcome with
  | ok value => exact ⟨value, ⟨before, middle, given⟩, ⟨middle, after, ends⟩⟩
  | error cause => cases congrArg Prod.fst ends

theorem gives_attempt {site : Site} {outcome : Except Fault α}
    (gives : Gives (liftM (attempt site outcome)) value) : outcome = .ok value :=
  attempt_eq_ok.mp (gives_lift gives)

end Evaluation

namespace TypeExpr

theorem mem_of_mem_dedup {types : List TypeExpr} {type : TypeExpr} (member : type ∈ dedup types) :
    type ∈ types := by
  have kept : ∀ kept : List TypeExpr, type ∈ types.foldl
      (fun kept type => if kept.any (same type) then kept else kept ++ [type]) kept →
      type ∈ kept ∨ type ∈ types := by
    clear member
    induction types with
    | nil => exact fun _ member => .inl member
    | cons first rest ih =>
        intro kept member
        rw [List.foldl_cons] at member
        split at member
        · exact (ih kept member).imp_right (List.mem_cons_of_mem first)
        · obtain before | later := ih _ member
          · obtain before | new := List.mem_append.mp before
            · exact .inl before
            · exact .inr (List.mem_singleton.mp new ▸ List.mem_cons_self)
          · exact .inr (List.mem_cons_of_mem first later)
  exact (kept [] member).resolve_left List.not_mem_nil

theorem length_of_sameAll {types others : List TypeExpr} (same : sameAll types others = true) :
    types.length = others.length := by
  induction types generalizing others with
  | nil =>
      cases others with
      | nil => rfl
      | cons => simp [sameAll] at same
  | cons type types ih =>
      cases others with
      | nil => simp [sameAll] at same
      | cons other others =>
          rw [sameAll, Bool.and_eq_true] at same
          rw [List.length_cons, List.length_cons, ih same.2]

def isUnion : TypeExpr → Bool
  | .union .. => true
  | _ => false

end TypeExpr

namespace Hierarchy

variable {hierarchy : Hierarchy} {type other : TypeExpr}

/-- A type as a session writes it: what it brings along to a union could stand as a base. -/
def Writes (hierarchy : Hierarchy) (type : TypeExpr) : Prop :=
  ∀ member ∈ type.membersOf, hierarchy.fits member = true ∧ member.isUnion = false

theorem fits_of_same (same : TypeExpr.same type other = true) :
    hierarchy.fits type = hierarchy.fits other := by
  cases type <;> cases other <;> simp_all [TypeExpr.same, fits]
  case applied.applied => rw [TypeExpr.length_of_sameAll same.2]

theorem isUnion_of_same (same : TypeExpr.same type other = true) :
    type.isUnion = other.isUnion := by
  cases type <;> cases other <;> simp_all [TypeExpr.same, TypeExpr.isUnion]

theorem Writes.fits (writes : hierarchy.Writes type) : hierarchy.fits type = true := by
  cases type with
  | union | guest => rfl
  | _ => exact (writes _ List.mem_cons_self).1

theorem exists_of_sameSome {types others : List TypeExpr} (same : TypeExpr.sameSome types others = true)
    (member : type ∈ types) : ∃ other ∈ others, TypeExpr.same type other = true := by
  induction types with
  | nil => cases member
  | cons first rest ih =>
      rw [TypeExpr.sameSome, Bool.and_eq_true] at same
      obtain rfl | later := List.mem_cons.mp member
      · exact List.any_eq_true.mp same.1
      · exact ih same.2 later

namespace Grown

variable (grown : hierarchy.Grown)
include grown

theorem fits_known {name : String}
    (known : (Hierarchy.initial.find? (.known name)).isSome = true) :
    hierarchy.fits (.named (.known name)) = true := by
  rw [Hierarchy.fits, find?_known grown.extended]
  exact known

theorem fits_container {site : Site} {name : String} {arguments : List TypeExpr}
    (plain : Hierarchy.initial.fits (.container .root (.known name) []) = true) :
    hierarchy.fits (.container site (.known name) arguments) = true := by
  rw [Hierarchy.fits, find?_known grown.extended, guards, descends, lineage_known grown.extended]
  exact plain

theorem fits_listOf (site : Site) (arguments : List TypeExpr) :
    hierarchy.fits (.listOf site arguments) = true := by
  have plain : Hierarchy.initial.fits (.listOf .root []) = true := by decide +kernel
  rw [Hierarchy.fits, List.all_eq_true] at plain ⊢
  intro cls member
  have here := plain cls member
  obtain ⟨name, rfl⟩ : ∃ name, cls = .known name := by
    simp only [List.mem_cons, List.not_mem_nil, or_false, genericClass] at member
    obtain rfl | rfl := member <;> exact ⟨_, rfl⟩
  rw [find?_known grown.extended, guards, descends, lineage_known grown.extended]
  exact here

theorem writes_of_fits (fit : hierarchy.fits type = true) (single : type.isUnion = false) :
    hierarchy.Writes type := by
  intro member isMember
  cases type with
  | union => simp [TypeExpr.isUnion] at single
  | guest given =>
      obtain ⟨shown, key⟩ := given
      cases key with
      | nothing =>
          obtain rfl := List.mem_singleton.mp isMember
          exact ⟨grown.fits_known (by decide +kernel), rfl⟩
      | _ =>
          obtain rfl := List.mem_singleton.mp isMember
          exact ⟨rfl, rfl⟩
  | _ =>
      obtain rfl := List.mem_singleton.mp isMember
      exact ⟨fit, single⟩

theorem writes_unionOf {types : List TypeExpr} (writes : ∀ type ∈ types, hierarchy.Writes type)
    (site : Site) (barred : Bool) : hierarchy.Writes (TypeExpr.unionOf site barred types) := by
  have members : ∀ member ∈ TypeExpr.dedup (types.flatMap TypeExpr.membersOf),
      hierarchy.fits member = true ∧ member.isUnion = false := by
    intro member isMember
    obtain ⟨type, isType, brings⟩ := List.mem_flatMap.mp (TypeExpr.mem_of_mem_dedup isMember)
    exact writes type isType member brings
  rw [TypeExpr.unionOf]
  split
  next member alone =>
    obtain ⟨fit, single⟩ := members member (alone ▸ List.mem_cons_self)
    exact grown.writes_of_fits fit single
  next => exact members

theorem writes_of_same (same : TypeExpr.same type other = true) (writes : hierarchy.Writes other) :
    hierarchy.Writes type := by
  cases single : type.isUnion with
  | false =>
      apply grown.writes_of_fits ?_ single
      rw [fits_of_same same]
      exact writes.fits
  | true =>
      cases type <;> cases other <;> simp [TypeExpr.same, TypeExpr.isUnion] at same single
      intro member isMember
      obtain ⟨beside, isBeside, alike⟩ := exists_of_sameSome same.2 isMember
      rw [fits_of_same alike, isUnion_of_same alike]
      exact writes beside isBeside

theorem writes_of_sameAll {types others : List TypeExpr} (same : TypeExpr.sameAll types others = true)
    (writes : ∀ type ∈ others, hierarchy.Writes type) : ∀ type ∈ types, hierarchy.Writes type := by
  induction types generalizing others with
  | nil => exact List.forall_mem_nil _
  | cons first rest ih =>
      cases others with
      | nil => simp [TypeExpr.sameAll] at same
      | cons other others =>
          rw [TypeExpr.sameAll, Bool.and_eq_true] at same
          rw [List.forall_mem_cons] at writes ⊢
          exact ⟨grown.writes_of_same same.1 writes.1, ih same.2 writes.2⟩

/-- What a subscript with fitting arguments makes fits. -/
theorem writes_type {made : Subscript} (writes : ∀ type ∈ made.arguments, hierarchy.Writes type)
    (applies : ∀ cls, made.head = .cls cls →
      hierarchy.fits (.applied .root cls made.arguments) = true) : hierarchy.Writes made.type := by
  obtain ⟨head, arguments, site⟩ := made
  cases head with
  | union => exact grown.writes_unionOf writes site false
  | list => exact grown.writes_of_fits (grown.fits_listOf site arguments) rfl
  | cls cls => exact grown.writes_of_fits (applies cls rfl) rfl

end Grown

end Hierarchy

namespace Session

variable {session : Session} {site : Site} {type : TypeExpr} {arguments types : List TypeExpr}
  {head : Head}

theorem exists_of_gives_subscript (gives : (subscript site head arguments).Gives type) :
    ∃ made : Subscript, made.head = head ∧
      (made.arguments = arguments ∨ TypeExpr.sameAll made.arguments arguments = true) ∧
      made.type = type := by
  obtain ⟨before, after, ends⟩ := gives
  have given : (before.subscript site head arguments).1 = type :=
    Except.ok.inj (congrArg Prod.fst ends)
  rw [Subscripts.subscript] at given
  split at given
  next found remembered =>
    obtain ⟨made, isMade, rfl⟩ := Option.map_eq_some_iff.mp remembered
    have alike := List.find?_some isMade
    rw [Bool.and_eq_true, decide_eq_true_eq] at alike
    exact ⟨made, alike.1, .inr alike.2, given⟩
  next => exact ⟨⟨head, arguments, site⟩, rfl, .inl rfl, given⟩

/-- The hierarchy of a session is grown, and each class that a name stands for is in it. -/
structure Named (session : Session) : Prop where
  grown : session.hierarchy.Grown
  known : ∀ declared ∈ session.classes, (session.hierarchy.find? declared.2).isSome = true

section Named

variable (named : session.Named)
include named

theorem writes_subscript (writes : ∀ type ∈ arguments, session.hierarchy.Writes type)
    (applies : ∀ cls, head = .cls cls → cls = Hierarchy.genericClass ∨
      (session.hierarchy.find? cls).isSome = true ∧
        arguments.length = (session.hierarchy.parameters cls).length)
    (gives : (subscript site head arguments).Gives type) : session.hierarchy.Writes type := by
  obtain ⟨made, rfl, same, rfl⟩ := exists_of_gives_subscript gives
  have length : made.arguments.length = arguments.length := by
    obtain same | same := same
    · rw [same]
    · exact TypeExpr.length_of_sameAll same
  apply named.grown.writes_type
  · obtain same | same := same
    · rw [same]
      exact writes
    · exact named.grown.writes_of_sameAll same writes
  · intro cls isHead
    rw [Hierarchy.fits, length]
    obtain rfl | ⟨known, arity⟩ := applies cls isHead
    · have known : (session.hierarchy.find? Hierarchy.genericClass).isSome = true :=
        named.grown.fits_known (by decide +kernel)
      simp [known]
    · simp [known, arity]

theorem writes_nameType {name : String} (names : session.nameType name = .ok type) :
    session.hierarchy.Writes type := by
  unfold nameType at names
  split at names
  next =>
    cases names
    exact named.grown.writes_of_fits rfl rfl
  next =>
    split at names
    next =>
      cases names
      exact named.grown.writes_of_fits rfl rfl
    next =>
      split at names
      next cls found =>
        cases names
        refine named.grown.writes_of_fits ?_ rfl
        rw [Hierarchy.fits]
        obtain declared | ⟨-, known⟩ := Option.or_eq_some_iff.mp found
        · obtain ⟨entry, isEntry, rfl⟩ := Option.map_eq_some_iff.mp declared
          exact named.known entry (List.mem_of_find?_eq_some isEntry)
        · obtain ⟨entry, isEntry, rfl⟩ := Option.map_eq_some_iff.mp known
          rw [(named.grown.built.allSound.sound _ entry isEntry).1, isEntry]
          rfl
      next => cases names

theorem writes_typing {cause : Exception} (makes : ∀ cls, head ≠ .cls cls)
    (writes : ∀ type ∈ arguments, session.hierarchy.Writes type)
    (gives : Evaluation.Gives
      (if arguments.all TypeExpr.isArgument then subscript site head arguments else throw cause) type) :
    session.hierarchy.Writes type :=
  writes_subscript named writes (fun cls same => absurd same (makes cls))
    (Evaluation.gives_ite gives).2

theorem writes_container {name : String}
    (plain : Hierarchy.initial.fits (.container .root (.known name) []) = true)
    (gives : Evaluation.Gives (pure (.container site (.known name) arguments)) type) :
    session.hierarchy.Writes type := by
  obtain rfl := Evaluation.gives_pure.mp gives
  exact named.grown.writes_of_fits (named.grown.fits_container plain) rfl

theorem writes_applyType {text : String} (writes : ∀ type ∈ arguments, session.hierarchy.Writes type)
    (gives : (session.applyType text arguments site).Gives type) :
    session.hierarchy.Writes type := by
  unfold applyType at gives
  dsimp only at gives
  split at gives
  -- `list` and `dict`
  next => exact writes_container named (by decide +kernel) gives
  next => exact writes_container named (by decide +kernel) gives
  -- `List`, with one argument and otherwise
  next => exact writes_typing named (by simp) writes gives
  next => exact absurd gives Evaluation.not_gives_throw
  -- `Optional` is a union with the type of nothing
  next =>
    have noneType : session.hierarchy.Writes .noneType :=
      named.grown.writes_of_fits (named.grown.fits_known (by decide +kernel)) rfl
    rw [List.forall_mem_singleton] at writes
    refine writes_typing named (by simp) ?_ gives
    exact List.forall_mem_cons.mpr ⟨writes, List.forall_mem_singleton.mpr noneType⟩
  next => exact absurd gives Evaluation.not_gives_throw
  -- `Union`, without arguments and with some
  next => exact absurd gives Evaluation.not_gives_throw
  next => exact writes_typing named (by simp) writes gives
  -- `Generic` takes any number of type variables
  next =>
    apply writes_subscript named writes ?_ (Evaluation.gives_ite gives).2
    intro cls same
    cases same
    exact .inl rfl
  -- any other class takes as many as it has
  next =>
    obtain ⟨origin, names, gives⟩ := Evaluation.exists_of_gives_bind gives
    have names := Evaluation.gives_attempt names
    split at gives
    next cls =>
      obtain ⟨⟨-, arity⟩, gives⟩ := Evaluation.gives_ite gives
      apply writes_subscript named writes ?_ gives
      intro other same
      cases same
      have known := (writes_nameType named names).fits
      exact .inr ⟨known, arity.symm⟩
    next => exact absurd gives Evaluation.not_gives_throw

end Named

mutual

/-- Every type that a session writes could stand as a base, but for unions, and so could what it brings
along to a union. -/
theorem writes_type (named : session.Named) : ∀ (text : TypeText) (site : Site) {type : TypeExpr},
    (session.type text site).Gives type → session.hierarchy.Writes type
  | .name text, site, _, gives => by
      rw [Session.type] at gives
      exact writes_nameType named (Evaluation.gives_attempt gives)
  | .applied text texts, site, _, gives => by
      rw [Session.type] at gives
      obtain ⟨arguments, given, gives⟩ := Evaluation.exists_of_gives_bind gives
      exact writes_applyType named (writes_types named texts site 0 given) gives
termination_by structural text => text

theorem writes_types (named : session.Named) : ∀ (texts : List TypeText) (site : Site)
    (place : Nat) {types : List TypeExpr}, (session.types texts site place).Gives types →
      ∀ type ∈ types, session.hierarchy.Writes type
  | [], _, _, _, gives => by
      rw [Session.types] at gives
      obtain rfl := Evaluation.gives_pure.mp gives
      exact List.forall_mem_nil _
  | text :: texts, site, place, _, gives => by
      rw [Session.types] at gives
      obtain ⟨first, given, gives⟩ := Evaluation.exists_of_gives_bind gives
      obtain ⟨rest, others, gives⟩ := Evaluation.exists_of_gives_bind gives
      obtain rfl := Evaluation.gives_pure.mp gives
      exact List.forall_mem_cons.mpr
        ⟨writes_type named text _ given, writes_types named texts site (place + 1) others⟩
termination_by structural texts => texts

end

end Session

end GuardAlgebra
