import Mathlib.Data.Set.Card
import GuardAlgebra.Proofs.Likeness
import GuardAlgebra.Proofs.Numbers

namespace GuardAlgebra

/-! # Hashes of equal values

A value is something by itself and has parts. Two that can be put into a set agree when they are the
same by themselves and their parts agree, place by place, and hashes are made in just that way: so
agreeing is an equivalence, values that agree have the same hash, and a set has as many members as there
are classes of values that agree.
-/

namespace Value

/-- The records that are compared by their parts. -/
inductive Kind where
  | tuple
  | result
  | context
  | outcome
  | both
  | either
  | allowAll
  | denyAll
  | function
  | bothPost
  | functionPost

/-- What a value is by itself. -/
inductive Head where
  | nothing
  | number (quantity : Decimal.Quantity)
  | text (text : Text)
  | octets (octets : List UInt8)
  | type (expr : TypeExpr)
  | method (method : Method)
  | bound (receiver : Option Site)
  | object (site : Site)
  | record (kind : Kind)

def Head.Alike : Head → Head → Prop
  | .type expr, .type other => expr.same other = true
  | head, other => head = other

/-- What a value that can be put into a set is by itself. -/
def head : Value → Head
  | .none => .nothing
  | .bool truth => .number (.finite truth.toNat)
  | .int number => .number (.finite number)
  | .float site number =>
      match (Decimal.Real.ofFloat number).quantity? with
      | some quantity => .number quantity
      | Option.none => .object site
  | .str text => .text text
  | .bytes octets => .octets octets
  | .type expr => .type expr
  | .method given => .method given
  | .bound _ receiver => .bound receiver.site?
  | .tuple .. => .record .tuple
  | .result .. => .record .result
  | .context .. => .record .context
  | .outcome .. => .record .outcome
  | .guard (.both ..) => .record .both
  | .guard (.either ..) => .record .either
  | .guard (.allowAll _) => .record .allowAll
  | .guard (.denyAll ..) => .record .denyAll
  | .guard (.function ..) => .record .function
  | .guard (.leaf site ..) => .object site
  | .post (.both ..) => .record .bothPost
  | .post (.function ..) => .record .functionPost
  | .post (.leaf site ..) => .object site
  | .exception raised => .object raised.site
  | .callable function => .object function.site
  | .request received => .object received.site
  | .list site _ | .dict site _ | .resolver site .. | .routine site _ | .instance site _
  | .pending site => .object site

/-- Two values are the same by themselves, and their parts agree. -/
structure Matches (value other : Value) : Prop where
  heads : value.head.Alike other.head
  parts : List.Forall₂ (fun one two => one.agrees two = true) value.parts other.parts

variable {objects : Site → Value} {hashing : Hashing} {value other third : Value} {site : Site}

theorem site?_of_head (found : value.head = .object site) : value.site? = some site := by
  fun_cases head value <;> simp_all [head, site?, Guard.site, PostGuard.site]

theorem hashes_eq (items : List Value) : hashes hashing items = items.map (hash hashing) := by
  induction items with
  | nil => rfl
  | cons item items ih => rw [hashes, ih, List.map_cons]

/-- The hash of a value by what it is and the hashes of its parts. -/
def assemble (hashing : Hashing) (hashes : List Int) : Head → Int
  | .nothing => hashing.nothing
  | .number quantity => hashing.number quantity
  | .text text => hashing.text text
  | .octets octets => hashing.octets octets
  | .type expr => expr.hash hashing
  | .method given => hashing.method given
  | .bound receiver => hashing.bound (hashes.headD 0) receiver
  | .object site => hashing.object site
  | .record _ => hashing.sequence hashes

theorem hash_eq (value : Value) :
    value.hash hashing = assemble hashing (value.parts.map (hash hashing)) value.head := by
  fun_cases head value <;>
    simp_all [assemble, hash, Guard.hash, PostGuard.hash, parts, Guard.parts, PostGuard.parts,
      hashes_eq]

theorem Head.alike_refl (head : Head) : head.Alike head := by
  cases head <;> simp [Head.Alike, TypeExpr.same_refl]

theorem matches_refl (stands : value.Stands objects) : value.Matches value :=
  ⟨value.head.alike_refl, List.forall₂_same.mpr fun _ member => agrees_refl (stands.part member)⟩

theorem matches_of_identical (stands : value.Stands objects) (otherStands : other.Stands objects)
    (identical : value.identical other = true) : value.Matches other := by
  rcases eq_of_identical stands otherStands identical with rfl | ⟨site, place, rfl, rfl⟩
  · exact matches_refl stands
  · exact ⟨rfl, .nil⟩

theorem forall₂_of_sameItems {items others : List Value} (same : sameItems items others = .ok true) :
    List.Forall₂ (fun one two => one.agrees two = true) items others := by
  induction items generalizing others with
  | nil => cases others <;> simp [sameItems] at same ⊢
  | cons item items ih =>
      cases others with
      | nil => simp [sameItems] at same
      | cons other others =>
          rw [sameItems, bothHold_iff, agreement_iff] at same
          exact .cons same.1 (ih same.2)

theorem matches_of_quantity {quantity : Decimal.Quantity} (found : value.quantity? = some quantity)
    (otherFound : other.quantity? = some quantity) : value.Matches other := by
  have bare {number : Value} (denotes : number.quantity? = some quantity) :
      number.head = .number quantity ∧ number.parts = [] := by
    obtain ⟨_, rfl⟩ | ⟨_, rfl⟩ | ⟨_, _, rfl⟩ := number_cases denotes <;>
      simp_all [quantity?, head, parts]
  obtain ⟨heads, partless⟩ := bare found
  obtain ⟨otherHeads, otherPartless⟩ := bare otherFound
  constructor
  · rw [heads, otherHeads]
    rfl
  · rw [partless, otherPartless]
    exact .nil

theorem agrees_guard {tree beside : Guard} (same : tree.same beside = .ok true) :
    (Value.guard tree).agrees (.guard beside) = true := agrees_iff.mpr (.inr same)

theorem agrees_post {tree beside : PostGuard} (same : tree.same beside = .ok true) :
    (Value.post tree).agrees (.post beside) = true := agrees_iff.mpr (.inr same)

theorem matches_of_same_guard {tree beside : Guard} (stands : (Value.guard tree).Stands objects)
    (otherStands : (Value.guard beside).Stands objects) (same : tree.same beside = .ok true) :
    (Value.guard tree).Matches (.guard beside) := by
  fun_cases Guard.same tree beside
  case case1 | case2 | case4 | case5 =>
    simp only [Guard.same, bothHold_iff, agreement_guard_iff, agreement_iff] at same
    exact ⟨rfl, by simpa [parts, Guard.parts] using same⟩
  case case3 => exact ⟨rfl, .nil⟩
  case case6 =>
    simp only [Guard.same, Except.ok.injEq, decide_eq_true_eq] at same
    exact stands.eq_of_site otherStands rfl (congrArg some same.symm) ▸ matches_refl stands
  case case7 => simp_all [Guard.same]

theorem matches_of_same_post {tree beside : PostGuard} (stands : (Value.post tree).Stands objects)
    (otherStands : (Value.post beside).Stands objects)
    (hashable : tree.unhashable? = Option.none) (same : tree.same beside = .ok true) :
    (Value.post tree).Matches (.post beside) := by
  fun_cases PostGuard.same tree beside
  case case1 | case2 =>
    simp only [PostGuard.same, bothHold_iff, agreement_post_iff, agreement_iff] at same
    exact ⟨rfl, by simpa [parts, PostGuard.parts] using same⟩
  case case3 =>
    simp only [PostGuard.same, Except.ok.injEq, decide_eq_true_eq] at same
    exact stands.eq_of_site otherStands rfl (congrArg some same.symm) ▸ matches_refl stands
  case case4 | case5 => simp [PostGuard.unhashable?] at hashable
  case case6 => simp_all [PostGuard.same]

theorem matches_of_same (stands : value.Stands objects) (otherStands : other.Stands objects)
    (hashable : value.unhashable? = Option.none) (same : value.same other = .ok true) :
    value.Matches other := by
  fun_cases Value.same value other
  case case1 =>
    cases other <;> simp [Value.same, identical, site?] at same
    exact ⟨rfl, .nil⟩
  case case2 | case3 =>
    simp only [Value.same, Except.ok.injEq, decide_eq_true_eq] at same
    exact same ▸ matches_refl stands
  case case4 | case5 | case7 | case8 => simp [unhashable?] at hashable
  case case6 => exact ⟨rfl, forall₂_of_sameItems same⟩
  case case9 => exact ⟨Except.ok.inj same, .nil⟩
  case case10 | case11 | case12 =>
    simp only [Value.same, bothHold_iff, agreement_iff] at same
    exact ⟨rfl, by simpa [parts] using same⟩
  case case13 => exact matches_of_same_guard stands otherStands same
  case case14 => exact matches_of_same_post stands otherStands hashable same
  case case15 function receiver also taken =>
    simp only [Value.same, bothHold_iff, Except.ok.injEq] at same
    obtain ⟨-, whole, site, anchored, -⟩ := stands.settled
    obtain ⟨-, -, place, takenAnchored, -⟩ := otherStands.settled
    have sites := (identical_iff_of_sites anchored takenAnchored whole).mp same.2
    refine ⟨?_, .cons (agrees_iff.mpr (.inr same.1)) .nil⟩
    simp [head, Head.Alike, anchored, takenAnchored, sites]
  case case16 =>
    obtain ⟨quantity, found, otherFound⟩ : ∃ quantity, value.quantity? = some quantity ∧
        other.quantity? = some quantity := by
      apply sameNumber?_iff.mp
      simp_all [Value.same]
    exact matches_of_quantity found otherFound
  case case17 =>
    apply matches_of_identical stands otherStands
    simp_all [Value.same]

theorem matches_of_agrees (stands : value.Stands objects) (otherStands : other.Stands objects)
    (hashable : value.unhashable? = Option.none) (agrees : value.agrees other = true) :
    value.Matches other := by
  rcases agrees_iff.mp agrees with identical | same
  · exact matches_of_identical stands otherStands identical
  · exact matches_of_same stands otherStands hashable same

theorem unhashableItem?_eq_none_iff {items : List Value} :
    unhashableItem? items = Option.none ↔ ∀ item ∈ items, item.unhashable? = Option.none := by
  induction items with
  | nil => simp [unhashableItem?]
  | cons item items ih => rw [unhashableItem?, Option.or_eq_none_iff, ih, List.forall_mem_cons]

theorem unhashable?_part (hashable : value.unhashable? = Option.none) :
    ∀ part ∈ value.parts, part.unhashable? = Option.none := by
  cases value <;> simp_all [unhashable?, parts]
  case tuple => exact unhashableItem?_eq_none_iff.mp hashable
  case guard tree => cases tree <;> simp_all [Guard.unhashable?, Guard.parts, unhashable?]
  case post tree => cases tree <;> simp_all [PostGuard.unhashable?, PostGuard.parts, unhashable?]

theorem sameItems_of_forall₂ {items others : List Value}
    (all : List.Forall₂ (fun one two => one.agrees two = true) items others) :
    sameItems items others = .ok true := by
  induction all with
  | nil => rfl
  | cons agrees _ ih => exact bothHold_iff.mpr ⟨agreement_iff.mpr agrees, ih⟩

/-- The one value that is this by itself, where there is but one. -/
def Head.sole? : Head → Option Value
  | .nothing => some .none
  | .text written => some (.str written)
  | .octets written => some (.bytes written)
  | .type expr => some (.type expr)
  | .method given => some (.method given)
  | _ => Option.none

theorem eq_of_sole (found : value.head.sole? = some other) : value = other := by
  fun_cases head value <;> simp_all [head, Head.sole?]

theorem type_of_head {expr : TypeExpr} (found : value.head = .type expr) : value = .type expr :=
  eq_of_sole (by rw [found]; rfl)

theorem quantity?_of_head {quantity : Decimal.Quantity} (found : value.head = .number quantity) :
    value.quantity? = some quantity := by
  fun_cases head value <;> simp_all [head, quantity?]

theorem bound_of_head {receiver : Option Site} (found : value.head = .bound receiver) :
    ∃ function taken, value = .bound function taken ∧ taken.site? = receiver := by
  fun_cases head value <;> simp_all [head]

theorem same_of_records {kind : Kind} (found : value.head = .record kind)
    (otherFound : other.head = .record kind)
    (all : List.Forall₂ (fun one two => one.agrees two = true) value.parts other.parts) :
    value.same other = .ok true := by
  fun_cases head value <;> simp only [head, reduceCtorEq, Head.record.injEq, *] at found
  all_goals
    subst found
    fun_cases head other <;> simp only [head, reduceCtorEq, Head.record.injEq, *] at otherFound
  all_goals simp only [parts, Guard.parts, PostGuard.parts, List.forall₂_cons,
    List.forall₂_nil_left_iff, and_true] at all
  case case11.case11 => exact sameItems_of_forall₂ all
  case case17.case17 => rfl
  all_goals simpa only [Value.same, Guard.same, PostGuard.same, bothHold_iff, agreement_guard_iff,
    agreement_post_iff, agreement_iff] using all

theorem same_of_bounds {receiver : Option Site} (stands : value.Stands objects)
    (otherStands : other.Stands objects) (found : value.head = .bound receiver)
    (otherFound : other.head = .bound receiver)
    (all : List.Forall₂ (fun one two => one.agrees two = true) value.parts other.parts) :
    value.same other = .ok true := by
  obtain ⟨function, taken, rfl, rfl⟩ := bound_of_head found
  obtain ⟨also, held, rfl, sites⟩ := bound_of_head otherFound
  obtain ⟨functional, whole, site, anchored, -⟩ := stands.settled
  simp only [parts, List.forall₂_cons, List.forall₂_nil_left_iff, and_true] at all
  have functions : function = also :=
    distinct_functional (stands.part List.mem_cons_self) functional also
      (otherStands.part List.mem_cons_self) all
  have receivers := (identical_iff_of_sites anchored (sites.trans anchored) whole).mpr rfl
  have same : function.same also = .ok true := by
    rw [← functions]
    exact same_self_functional functional
  exact bothHold_iff.mpr ⟨same, congrArg Except.ok receivers⟩

theorem agrees_of_matches (stands : value.Stands objects) (otherStands : other.Stands objects)
    (paired : value.Matches other) : value.agrees other = true := by
  obtain ⟨heads, all⟩ := paired
  cases found : value.head with
  | object site =>
      rw [found] at heads
      rw [stands.eq_of_site otherStands (site?_of_head found) (site?_of_head heads.symm)]
      exact agrees_refl otherStands
  | number quantity =>
      rw [found] at heads
      exact agrees_iff.mpr (.inr
        (same_of_quantity (quantity?_of_head found) (quantity?_of_head heads.symm)))
  | record kind =>
      rw [found] at heads
      exact agrees_iff.mpr (.inr (same_of_records found heads.symm all))
  | bound receiver =>
      rw [found] at heads
      exact agrees_iff.mpr (.inr (same_of_bounds stands otherStands found heads.symm all))
  | type expr =>
      rw [found] at heads
      cases otherFound : other.head with
      | type another =>
          rw [otherFound] at heads
          rw [type_of_head found, type_of_head otherFound]
          exact agrees_iff.mpr (.inr (congrArg Except.ok heads))
      | _ =>
          rw [otherFound] at heads
          cases heads
  | _ =>
      rw [found] at heads
      have one := eq_of_sole (by rw [found]; rfl)
      have two := eq_of_sole (by rw [← heads]; rfl)
      rw [one.trans two.symm]
      exact agrees_refl otherStands

theorem sizeOf_part (value : Value) : ∀ part ∈ value.parts, sizeOf part < sizeOf value := by
  cases value <;> simp [parts]
  case tuple items =>
    intro part member
    have smaller := List.sizeOf_lt_of_mem member
    omega
  case guard tree => cases tree <;> simp [Guard.parts] <;> omega
  case post tree => cases tree <;> simp [PostGuard.parts] <;> omega
  all_goals omega

theorem partInduction {motive : Value → Prop}
    (step : ∀ value : Value, (∀ part ∈ value.parts, motive part) → motive value) (value : Value) :
    motive value := by
  apply step
  intro part member
  have smaller := sizeOf_part value part member
  exact partInduction step part
termination_by sizeOf value

/-- A value that can be put into a set, among the objects of a session. -/
structure Hashable (objects : Site → Value) (value : Value) : Prop where
  stands : value.Stands objects
  hashable : value.unhashable? = Option.none

theorem Hashable.part {piece : Value} (one : value.Hashable objects) (member : piece ∈ value.parts) :
    piece.Hashable objects := ⟨one.stands.part member, unhashable?_part one.hashable piece member⟩

theorem proper_of_head {expr : TypeExpr} (stands : value.Stands objects)
    (found : value.head = .type expr) : expr.Proper := by
  obtain rfl := type_of_head found
  exact stands.settled

section Heads

variable {head another last : Head}

theorem Head.alike_symm (proper : ∀ expr, head = .type expr → expr.Proper)
    (alike : head.Alike another) : another.Alike head := by
  cases head with
  | type expr =>
      cases another with
      | type other => exact TypeExpr.same_symm (proper expr rfl) alike
      | _ => cases alike
  | _ =>
      cases alike
      rfl

theorem Head.alike_trans (first : head.Alike another) (second : another.Alike last) :
    head.Alike last := by
  cases head with
  | type expr =>
      cases another with
      | type other =>
          cases last with
          | type third => exact TypeExpr.same_trans first second
          | _ => cases second
      | _ => cases first
  | _ =>
      cases first
      exact second

theorem assemble_eq_of_alike (proper : ∀ expr, head = .type expr → expr.Proper)
    (alike : head.Alike another) (hashes : List Int) :
    assemble hashing hashes head = assemble hashing hashes another := by
  cases head with
  | type expr =>
      cases another with
      | type other => exact TypeExpr.hash_eq_of_same (proper expr rfl) alike
      | _ => cases alike
  | _ => rw [show another = _ from alike.symm]

end Heads

theorem agrees_symm (one : value.Hashable objects) (two : other.Hashable objects)
    (agrees : value.agrees other = true) : other.agrees value = true := by
  induction value using partInduction generalizing other with
  | step value ih =>
      obtain ⟨heads, all⟩ := matches_of_agrees one.stands two.stands one.hashable agrees
      refine agrees_of_matches two.stands one.stands ⟨?_, ?_⟩
      · exact Head.alike_symm (fun expr => proper_of_head one.stands) heads
      · exact forall₂_symm
          (fun part member other another => ih part member (one.part member) (two.part another)) all

theorem agrees_trans (one : value.Hashable objects) (two : other.Hashable objects)
    (three : third.Hashable objects) (first : value.agrees other = true)
    (second : other.agrees third = true) : value.agrees third = true := by
  induction value using partInduction generalizing other third with
  | step value ih =>
      obtain ⟨heads, all⟩ := matches_of_agrees one.stands two.stands one.hashable first
      obtain ⟨nextHeads, next⟩ := matches_of_agrees two.stands three.stands two.hashable second
      refine agrees_of_matches one.stands three.stands ⟨Head.alike_trans heads nextHeads, ?_⟩
      exact forall₂_trans (fun part member other another third last =>
        ih part member (one.part member) (two.part another) (three.part last)) all next

theorem hash_eq_of_agrees (one : value.Hashable objects) (two : other.Hashable objects)
    (agrees : value.agrees other = true) : value.hash hashing = other.hash hashing := by
  induction value using partInduction generalizing other with
  | step value ih =>
      obtain ⟨heads, all⟩ := matches_of_agrees one.stands two.stands one.hashable agrees
      have hashed := map_eq_of_forall₂
        (fun part member other another => ih part member (one.part member) (two.part another)) all
      rw [hash_eq, hash_eq, hashed]
      exact assemble_eq_of_alike (fun expr => proper_of_head one.stands) heads _

section Sets

variable {values : List Value}

/-- The values that agree with one of these. -/
def classOf (values : List Value) (value : Value) : Set Value :=
  {other | other ∈ values ∧ value.agrees other = true}

/-- The classes of values that agree. -/
def classes (values : List Value) : Set (Set Value) := {cls | ∃ value ∈ values, cls = classOf values value}

/-- Looking for values by their hashes first makes no difference. -/
theorem members_eq_dedup (all : ∀ value ∈ values, value.Hashable objects) :
    hashing.members values = dedup values := by
  apply keep_congr
  intro one isOne other isOther
  cases agrees : one.agrees other with
  | false => simp [Hashing.finds, agrees]
  | true => simp [Hashing.finds, agrees, hash_eq_of_agrees (all one isOne) (all other isOther) agrees]

theorem classOf_eq_of_agrees (all : ∀ value ∈ values, value.Hashable objects) (member : value ∈ values)
    (another : other ∈ values) (agrees : value.agrees other = true) :
    classOf values value = classOf values other := by
  have one := all value member
  have two := all other another
  ext third
  refine and_congr_right fun last => ⟨fun found => ?_, fun found => ?_⟩
  · exact agrees_trans two one (all third last) (agrees_symm one two agrees) found
  · exact agrees_trans one two (all third last) agrees found

theorem mem_of_mem_dedup (member : value ∈ dedup values) : value ∈ values :=
  (mem_of_mem_keep member).resolve_left List.not_mem_nil

theorem exists_mem_dedup (member : value ∈ values) :
    value ∈ dedup values ∨ ∃ other ∈ dedup values, value.agrees other = true :=
  exists_mem_keep member

/-- A set has a member for each class. -/
theorem length_dedup (all : ∀ value ∈ values, value.Hashable objects) :
    (dedup values).length = (classes values).ncard := by
  classical
  have nodup : ((dedup values).map (classOf values)).Nodup := by
    refine List.pairwise_map.mpr ?_
    have apart : (dedup values).Pairwise fun one two => two.agrees one = false := pairwise_keep .nil
    refine apart.imp_of_mem fun {one two} isOne isTwo differ equal => ?_
    have member := mem_of_mem_dedup isOne
    have inClass : one ∈ classOf values one := ⟨member, agrees_refl (all one member).stands⟩
    rw [equal] at inClass
    rw [inClass.2] at differ
    cases differ
  have covered : classes values = ((dedup values).map (classOf values)).toFinset := by
    ext cls
    simp only [classes, Set.mem_ofPred_eq, List.coe_toFinset, List.mem_map]
    constructor
    · rintro ⟨value, member, rfl⟩
      rcases exists_mem_dedup member with kept | ⟨other, kept, agrees⟩
      · exact ⟨value, kept, rfl⟩
      · exact ⟨other, kept, (classOf_eq_of_agrees all member (mem_of_mem_dedup kept) agrees).symm⟩
    · rintro ⟨value, kept, rfl⟩
      exact ⟨value, mem_of_mem_dedup kept, rfl⟩
  rw [covered, Set.ncard_coe_finset, List.toFinset_card_of_nodup nodup, List.length_map]

end Sets

end Value

end GuardAlgebra
