import Mathlib.Data.List.Forall2
import Mathlib.Tactic.Tauto
import GuardAlgebra.Proofs.Agreement
import GuardAlgebra.Proofs.Evaluating
import GuardAlgebra.Value.Hash

namespace GuardAlgebra

/-! # Equal types

Equality of types is an equivalence, and equal types have equal hashes, as long as no union has a member
twice. Members of unions are compared in any order: what makes up for the order is that two different
members cannot both be equal to one.
-/

section Arranging

variable {α β : Type} {relates : α → β → Prop} {members : List α} {others : List β}

/-- Where no two members are related to one thing, finding something for each is to arrange them. -/
theorem exists_arranged
    (apart : members.Pairwise fun one two => ∀ other, relates one other → ¬ relates two other)
    (matched : ∀ member ∈ members, ∃ other ∈ others, relates member other)
    (lengths : members.length = others.length) :
    ∃ arranged, arranged.Perm others ∧ List.Forall₂ relates members arranged := by
  induction members generalizing others with
  | nil => exact ⟨[], by rw [List.length_eq_zero_iff.mp lengths.symm], .nil⟩
  | cons first rest ih =>
      obtain ⟨others', apart⟩ := List.pairwise_cons.mp apart
      obtain ⟨other, isOther, related⟩ := matched first List.mem_cons_self
      obtain ⟨before, after, rfl⟩ := List.append_of_mem isOther
      have remaining : ∀ member ∈ rest, ∃ other ∈ before ++ after, relates member other := by
        intro member isMember
        obtain ⟨another, isAnother, relatedTo⟩ := matched member (List.mem_cons_of_mem _ isMember)
        refine ⟨another, ?_, relatedTo⟩
        have different : another ≠ other := by
          rintro rfl
          exact others' member isMember another related relatedTo
        simpa [different] using isAnother
      obtain ⟨arranged, perm, all⟩ := ih apart remaining (by simp at lengths ⊢; omega)
      exact ⟨other :: arranged, (perm.cons other).trans List.perm_middle.symm, .cons related all⟩

end Arranging

section Keeping

variable {α : Type} {found : α → α → Bool} {values kept : List α} {value : α}

/-- The values that are found among the earlier ones are left out. -/
def keep (found : α → α → Bool) (values kept : List α) : List α :=
  values.foldl (fun kept value => if kept.any (found value) then kept else kept ++ [value]) kept

theorem keep_cons : keep found (value :: values) kept =
    keep found values (if kept.any (found value) then kept else kept ++ [value]) := rfl

theorem mem_of_mem_keep (member : value ∈ keep found values kept) : value ∈ kept ∨ value ∈ values := by
  induction values generalizing kept with
  | nil => exact .inl member
  | cons first rest ih =>
      rw [keep_cons] at member
      split at member
      · exact (ih member).imp_right (List.mem_cons_of_mem _)
      · rcases ih member with before | later
        · rcases List.mem_append.mp before with before | new
          · exact .inl before
          · exact .inr (List.mem_singleton.mp new ▸ List.mem_cons_self)
        · exact .inr (List.mem_cons_of_mem _ later)

theorem mem_keep_of_mem (member : value ∈ kept) : value ∈ keep found values kept := by
  induction values generalizing kept with
  | nil => exact member
  | cons first rest ih =>
      rw [keep_cons]
      split
      · exact ih member
      · exact ih (List.mem_append_left _ member)

/-- Every value is kept or found among those that are. -/
theorem exists_mem_keep (member : value ∈ values) :
    value ∈ keep found values kept ∨ ∃ other ∈ keep found values kept, found value other = true := by
  induction values generalizing kept with
  | nil => cases member
  | cons first rest ih =>
      rw [keep_cons]
      rcases List.mem_cons.mp member with rfl | later
      · split
        · rename_i present
          obtain ⟨other, isOther, same⟩ := List.any_eq_true.mp present
          exact .inr ⟨other, mem_keep_of_mem isOther, same⟩
        · exact .inl (mem_keep_of_mem (by simp))
      · exact ih later

theorem pairwise_keep (apart : kept.Pairwise fun one two => found two one = false) :
    (keep found values kept).Pairwise fun one two => found two one = false := by
  induction values generalizing kept with
  | nil => exact apart
  | cons first rest ih =>
      rw [keep_cons]
      split
      · exact ih apart
      · rename_i absent
        simp only [List.any_eq_true, not_exists, not_and, Bool.not_eq_true] at absent
        apply ih
        refine List.pairwise_append.mpr ⟨apart, List.pairwise_singleton _ _, ?_⟩
        intro one member two isFirst
        rw [List.mem_singleton.mp isFirst]
        exact absent one member

theorem keep_congr {also : α → α → Bool}
    (same : ∀ one ∈ values, ∀ other ∈ kept ++ values, found one other = also one other) :
    keep found values kept = keep also values kept := by
  induction values generalizing kept with
  | nil => rfl
  | cons first rest ih =>
      have present : kept.any (found first) = kept.any (also first) := by
        rw [Bool.eq_iff_iff, List.any_eq_true, List.any_eq_true]
        refine exists_congr fun other => and_congr_right fun member => ?_
        rw [same first List.mem_cons_self other (List.mem_append_left _ member)]
      rw [keep_cons, keep_cons, present]
      apply ih
      intro one later other member
      apply same one (List.mem_cons_of_mem _ later) other
      split at member <;> simp at member ⊢ <;> tauto

end Keeping

section Places

variable {α : Type} {relates : α → α → Prop} {items others thirds : List α}

theorem forall₂_symm
    (symm : ∀ item ∈ items, ∀ other ∈ others, relates item other → relates other item)
    (all : List.Forall₂ relates items others) : List.Forall₂ relates others items := by
  induction all with
  | nil => exact .nil
  | cons related _ ih =>
      simp only [List.forall_mem_cons] at symm
      exact .cons (symm.1.1 related) (ih fun item member => (symm.2 item member).2)

theorem forall₂_trans
    (trans : ∀ item ∈ items, ∀ other ∈ others, ∀ third ∈ thirds,
      relates item other → relates other third → relates item third)
    (first : List.Forall₂ relates items others) (second : List.Forall₂ relates others thirds) :
    List.Forall₂ relates items thirds := by
  induction first generalizing thirds with
  | nil => exact second
  | cons related _ ih =>
      cases second with
      | cons next rest =>
          simp only [List.forall_mem_cons] at trans
          refine .cons (trans.1.1.1 related next) (ih ?_ rest)
          exact fun item member other another => ((trans.2 item member).2 other another).2

theorem exists_of_forall₂ {item : α} (all : List.Forall₂ relates items others) (member : item ∈ items) :
    ∃ other ∈ others, relates item other := by
  induction all with
  | nil => cases member
  | cons related _ ih =>
      rcases List.mem_cons.mp member with rfl | later
      · exact ⟨_, List.mem_cons_self, related⟩
      · obtain ⟨other, isOther, relatedTo⟩ := ih later
        exact ⟨other, List.mem_cons_of_mem _ isOther, relatedTo⟩

theorem map_eq_of_forall₂ {β : Type} {image : α → β}
    (equal : ∀ item ∈ items, ∀ other ∈ others, relates item other → image item = image other)
    (all : List.Forall₂ relates items others) : items.map image = others.map image := by
  induction all with
  | nil => rfl
  | cons related _ ih =>
      simp only [List.forall_mem_cons] at equal
      rw [List.map_cons, List.map_cons, equal.1.1 related,
        ih fun item member => (equal.2 item member).2]

end Places

namespace TypeExpr

variable {expr other third : TypeExpr} {types others : List TypeExpr} {hashing : Hashing}

/-- Every union in the type has its members once. -/
inductive Proper : TypeExpr → Prop where
  | intro {expr : TypeExpr} (parts : ∀ part ∈ expr.arguments, Proper part)
      (distinct : ∀ site barred, expr = .union site barred expr.arguments →
        expr.arguments.Pairwise fun one two => two.same one = false) : Proper expr

theorem partInduction {motive : TypeExpr → Prop}
    (step : ∀ expr : TypeExpr, (∀ part ∈ expr.arguments, motive part) → motive expr)
    (expr : TypeExpr) : motive expr := by
  apply step
  intro part member
  have smaller : sizeOf part < sizeOf expr := by
    cases expr <;> simp only [arguments, List.not_mem_nil] at member
    all_goals
      have := List.sizeOf_lt_of_mem member
      simp
      omega
  exact partInduction step part
termination_by sizeOf expr

theorem sameAll_iff :
    sameAll types others = true ↔ List.Forall₂ (fun one two => one.same two = true) types others := by
  induction types generalizing others with
  | nil => cases others <;> simp [sameAll]
  | cons type types ih => cases others <;> simp [sameAll, ih]

theorem sameSome_iff :
    sameSome types others = true ↔ ∀ type ∈ types, ∃ other ∈ others, type.same other = true := by
  induction types with
  | nil => simp [sameSome]
  | cons type types ih => simp [sameSome, ih]

theorem hashes_eq (types : List TypeExpr) : hashes hashing types = types.map (hash hashing) := by
  induction types with
  | nil => rfl
  | cons type types ih => rw [hashes, ih, List.map_cons]

theorem same_refl (expr : TypeExpr) : expr.same expr = true := by
  induction expr using partInduction with
  | step expr ih =>
      cases expr <;> simp only [same, decide_true, Bool.true_and, sameAll_iff, sameSome_iff]
      case union => exact fun type member => ⟨type, member, ih type member⟩
      all_goals exact List.forall₂_same.mpr ih

theorem same_trans (first : expr.same other = true) (second : other.same third = true) :
    expr.same third = true := by
  induction expr using partInduction generalizing other third with
  | step expr ih =>
      cases expr <;> cases other <;> simp only [same, Bool.false_eq_true] at first
      all_goals cases third <;> simp only [same, Bool.false_eq_true] at second
      all_goals simp only [same, Bool.and_eq_true, decide_eq_true_eq, sameAll_iff, sameSome_iff]
        at first second ⊢
      case variable.variable.variable | named.named.named | guest.guest.guest =>
        exact first.trans second
      case listOf.listOf.listOf => exact forall₂_trans (fun type member _ _ _ _ => ih type member) first second
      case union.union.union =>
        refine ⟨first.1.trans second.1, fun type member => ?_⟩
        obtain ⟨beside, isBeside, toBeside⟩ := first.2 type member
        obtain ⟨last, isLast, toLast⟩ := second.2 beside isBeside
        exact ⟨last, isLast, ih type member toBeside toLast⟩
      all_goals
        exact ⟨first.1.trans second.1,
          forall₂_trans (fun type member _ _ _ _ => ih type member) first.2 second.2⟩

/-- Members that are found among those of another union of the same length make it up. -/
theorem exists_arranged_members
    (distinct : types.Pairwise fun one two => two.same one = false)
    (symm : ∀ type ∈ types, ∀ other, type.same other = true → other.same type = true)
    (lengths : types.length = others.length) (found : sameSome types others = true) :
    ∃ arranged, arranged.Perm others ∧
      List.Forall₂ (fun one two => one.same two = true) types arranged := by
  refine exists_arranged ?_ (sameSome_iff.mp found) lengths
  refine distinct.imp_of_mem ?_
  intro one two isOne _ differ other toOther again
  have equal := same_trans again (symm one isOne other toOther)
  rw [differ] at equal
  cases equal

theorem same_symm (proper : expr.Proper) (equal : expr.same other = true) :
    other.same expr = true := by
  induction expr using partInduction generalizing other with
  | step expr ih =>
      have ⟨parts, distinct⟩ := proper
      have symm : ∀ type ∈ expr.arguments, ∀ other, type.same other = true → other.same type = true :=
        fun type member other => ih type member (parts type member)
      have turned {types : List TypeExpr}
          (all : List.Forall₂ (fun one two => one.same two = true) expr.arguments types) :
          List.Forall₂ (fun one two => one.same two = true) types expr.arguments :=
        forall₂_symm (fun type member other _ => symm type member other) all
      cases expr <;> cases other <;> simp only [same, Bool.false_eq_true] at equal
      all_goals
        simp only [same, Bool.and_eq_true, decide_eq_true_eq, sameAll_iff] at equal ⊢
      case union.union =>
        obtain ⟨lengths, found⟩ := equal
        obtain ⟨arranged, perm, all⟩ := exists_arranged_members (distinct _ _ rfl) symm lengths found
        refine ⟨lengths.symm, sameSome_iff.mpr fun type member => ?_⟩
        exact exists_of_forall₂ (turned all) (perm.mem_iff.mpr member)
      case variable.variable | named.named | guest.guest => exact equal.symm
      case listOf.listOf => exact turned equal
      all_goals exact ⟨equal.1.symm, turned equal.2⟩

theorem hash_eq_of_same (proper : expr.Proper) (equal : expr.same other = true) :
    expr.hash hashing = other.hash hashing := by
  induction expr using partInduction generalizing other with
  | step expr ih =>
      have ⟨parts, distinct⟩ := proper
      have symm : ∀ type ∈ expr.arguments, ∀ other, type.same other = true → other.same type = true :=
        fun type member other => same_symm (parts type member)
      have hashed {types : List TypeExpr}
          (all : List.Forall₂ (fun one two => one.same two = true) expr.arguments types) :
          expr.arguments.map (hash hashing) = types.map (hash hashing) :=
        map_eq_of_forall₂ (fun type member other _ => ih type member (parts type member)) all
      cases expr <;> cases other <;> simp only [same, Bool.false_eq_true] at equal
      case any.any => rfl
      all_goals
        simp only [Bool.and_eq_true, decide_eq_true_eq, sameAll_iff] at equal
        simp only [hash, hashes_eq]
        simp only [arguments] at hashed
      case union.union =>
        obtain ⟨lengths, found⟩ := equal
        obtain ⟨arranged, perm, all⟩ := exists_arranged_members (distinct _ _ rfl) symm lengths found
        rw [hashed all]
        exact hashing.unordered_perm (perm.map _)
      case listOf.listOf => rw [hashed equal]
      case container.container | applied.applied => rw [equal.1, hashed equal.2]
      all_goals rw [equal]

theorem proper_of_atom {expr : TypeExpr} (parts : expr.arguments = []) : expr.Proper := by
  constructor <;> simp [parts]

/-- Equality is an equivalence on types. -/
theorem comparable_types (proper : ∀ type ∈ types, type.Proper) :
    Comparable (types.map Value.type) where
  decided one isOne other isOther := by
    obtain ⟨type, -, rfl⟩ := List.mem_map.mp isOne
    obtain ⟨also, -, rfl⟩ := List.mem_map.mp isOther
    exact ⟨_, rfl⟩
  refl one isOne := by
    obtain ⟨type, -, rfl⟩ := List.mem_map.mp isOne
    exact congrArg Except.ok (same_refl type)
  symm one isOne other isOther equal := by
    obtain ⟨type, member, rfl⟩ := List.mem_map.mp isOne
    obtain ⟨also, -, rfl⟩ := List.mem_map.mp isOther
    exact congrArg Except.ok (same_symm (proper type member) (Except.ok.inj equal))
  trans one isOne other isOther third isThird first second := by
    obtain ⟨type, -, rfl⟩ := List.mem_map.mp isOne
    obtain ⟨also, -, rfl⟩ := List.mem_map.mp isOther
    obtain ⟨last, -, rfl⟩ := List.mem_map.mp isThird
    exact congrArg Except.ok (same_trans (Except.ok.inj first) (Except.ok.inj second))

end TypeExpr
end GuardAlgebra
