import GuardAlgebra.Proofs.Evaluating
import GuardAlgebra.Proofs.ParameterType

namespace GuardAlgebra

/-! # The classes of a session

A session declares classes and never takes one away. Each comes under the site of the step that declares
it, so it is new; and what it is declared over was written in the session. So the hierarchy of a
session has grown by declarations, however many steps were made.
-/

namespace Facts

variable {facts after : Facts} {value new : Value} {site : Site} {name : String}

theorem hierarchy_foldl_put (writes : List (String × Value)) (place : Place) (facts : Facts) :
    (writes.foldl (fun facts entry => facts.put place entry.1 entry.2) facts).hierarchy =
      facts.hierarchy := by
  induction writes generalizing facts with
  | nil => rfl
  | cons first rest ih => exact ih _

theorem hierarchy_writeType {type : TypeExpr} (writes : facts.writeType type name new = .ok after) :
    after.hierarchy = facts.hierarchy := by
  unfold writeType at writes
  dsimp only at writes
  repeat' split at writes
  all_goals cases writes
  all_goals rfl

theorem hierarchy_writeSlot {place : Place} (writes : (do
    let entries ← value.intoSlot site name new
    pure (entries.foldl (fun facts (entry : String × Value) =>
      Facts.put facts place entry.1 entry.2) facts)) = .ok after) :
    after.hierarchy = facts.hierarchy := by
  cases given : value.intoSlot site name new with
  | error fault =>
      rw [given] at writes
      cases writes
  | ok entries =>
      rw [given] at writes
      cases writes
      exact hierarchy_foldl_put entries place facts

theorem hierarchy_write (writes : facts.write value site name new = .ok after) :
    after.hierarchy = facts.hierarchy := by
  unfold write at writes
  dsimp only at writes
  split at writes
  next => exact hierarchy_writeType writes
  next => cases writes
  next =>
    repeat' split at writes
    all_goals first | exact hierarchy_writeSlot writes | cases writes
    all_goals rfl

theorem hierarchy_eraseType {type : TypeExpr} (erases : facts.eraseType type name = .ok after) :
    after.hierarchy = facts.hierarchy := by
  unfold eraseType at erases
  dsimp only at erases
  repeat' split at erases
  all_goals cases erases
  all_goals rfl

theorem hierarchy_erase (erases : facts.erase value name = .ok after) :
    after.hierarchy = facts.hierarchy := by
  unfold erase at erases
  dsimp only at erases
  split at erases
  next => cases erases
  next =>
    split at erases
    next => exact hierarchy_eraseType erases
    next => cases erases
    next =>
      repeat' split at erases
      all_goals cases erases
      all_goals rfl

end Facts

namespace Session

variable {session next : Session} {site : Site} {value : Value} {product : Product}

/-- What a step can do to the classes of a session: nothing, or declare one over types that were written
in it. -/
inductive Advances (session : Session) (site : Site) (next : Session) : Prop where
  | same (hierarchy : next.hierarchy = session.hierarchy) (classes : next.classes = session.classes)
  | declared (name : String) (bases : List TypeExpr) (checking : Checking)
      (attributes : List (String × Value)) (entry : ClassEntry)
      (made : session.hierarchy.newClass? (.declared site name) bases checking attributes =
        some entry)
      (fit : bases.all session.hierarchy.fits = true)
      (hierarchy : next.hierarchy =
        session.hierarchy.declare (.declared site name) bases checking attributes)
      (classes : next.classes = (name, .declared site name) :: session.classes)

theorem advances_withFacts {facts : Facts} (same : facts.hierarchy = session.facts.hierarchy) :
    session.Advances site (session.withFacts facts) :=
  .same same rfl

theorem advances_declareClass {name : String} {bases : List TypeExpr}
    {attributes : List (String × Value)} {isAbstract : Bool}
    (fit : bases.all session.hierarchy.fits = true)
    (declares : session.declareClass site name bases attributes isAbstract = .ok (value, next)) :
    session.Advances site next := by
  unfold declareClass at declares
  dsimp only at declares
  split at declares
  next => cases declares
  next entry made =>
    cases declares
    refine .declared name bases _ attributes entry made fit ?_ rfl
    rw [Hierarchy.declare, made]
    rfl

theorem advances_change (named : session.Named) {change : Change} {run : Run (Value × Session)}
    (gives : (session.change site change).Gives run) (ends : run.result = .ok (value, next)) :
    session.Advances site next := by
  cases change with
  | declareClass name bases attributes isAbstract =>
      obtain ⟨types, written, gives⟩ := Evaluation.exists_of_gives_bind gives
      obtain ⟨given, -, gives⟩ := Evaluation.exists_of_gives_bind gives
      obtain rfl := Evaluation.gives_pure.mp gives
      rw [Run.result_ofAttempt] at ends
      refine advances_declareClass (List.all_eq_true.mpr fun type member => ?_) ends
      exact (writes_types named bases _ _ written type member).fits
  | write object name value =>
      obtain ⟨⟨object, new⟩, -, gives⟩ := Evaluation.exists_of_gives_bind gives
      obtain rfl := Evaluation.gives_pure.mp gives
      obtain ⟨facts, writes, ends⟩ := Run.result_bind_eq_ok.mp ends
      rw [Run.result_ofExcept] at writes
      cases ends
      exact advances_withFacts (Facts.hierarchy_write (attempt_eq_ok.mp writes))
  | erase object name =>
      obtain ⟨object, -, gives⟩ := Evaluation.exists_of_gives_bind gives
      obtain rfl := Evaluation.gives_pure.mp gives
      obtain ⟨facts, erases, ends⟩ := Run.result_bind_eq_ok.mp ends
      rw [Run.result_ofExcept] at erases
      cases ends
      exact advances_withFacts (Facts.hierarchy_erase (attempt_eq_ok.mp erases))
  | setSetting name value =>
      obtain ⟨value, -, gives⟩ := Evaluation.exists_of_gives_bind gives
      obtain rfl := Evaluation.gives_pure.mp gives
      obtain ⟨configuration, -, ends⟩ := Run.result_bind_eq_ok.mp ends
      cases ends
      exact .same rfl rfl
  | configureLogging arguments =>
      obtain ⟨arguments, -, gives⟩ := Evaluation.exists_of_gives_bind gives
      obtain rfl := Evaluation.gives_pure.mp gives
      split at ends
      next =>
        obtain ⟨level, -, ends⟩ := Run.result_bind_eq_ok.mp ends
        cases ends
        exact .same rfl rfl
      next => cases ends

theorem advances_execute (named : session.Named) {operation : Operation}
    {run : Run (Product × Session)} (gives : (session.execute site operation).Gives run)
    (ends : run.result = .ok (product, next)) : session.Advances site next := by
  cases operation with
  | ask question =>
      obtain ⟨value, -, gives⟩ := Evaluation.exists_of_gives_bind gives
      obtain rfl := Evaluation.gives_pure.mp gives
      cases ends
      exact .same rfl rfl
  | act action =>
      obtain ⟨acted, -, gives⟩ := Evaluation.exists_of_gives_bind gives
      obtain rfl := Evaluation.gives_pure.mp gives
      obtain ⟨product, -, ends⟩ := Run.result_bind_eq_ok.mp ends
      cases ends
      exact .same rfl rfl
  | change change =>
      obtain ⟨changed, given, gives⟩ := Evaluation.exists_of_gives_bind gives
      obtain rfl := Evaluation.gives_pure.mp gives
      obtain ⟨⟨value, after⟩, ended, ends⟩ := Run.result_bind_eq_ok.mp ends
      cases ends
      exact advances_change named given ended

/-- No class of the session bears the site of a step to come. -/
structure Regular (session : Session) : Prop extends session.Named where
  coming : ∀ turn name, session.turn ≤ turn →
    session.hierarchy.find? (.declared (Site.root.child turn) name) = none

theorem regular_of_advances (regular : session.Regular)
    (advances : session.Advances (Site.root.child session.turn) next)
    (turns : next.turn = session.turn + 1) : next.Regular := by
  cases advances with
  | same hierarchy classes =>
      refine ⟨⟨?_, ?_⟩, ?_⟩
      · rw [hierarchy]
        exact regular.grown
      · rw [hierarchy, classes]
        exact regular.known
      · intro turn name later
        rw [hierarchy]
        exact regular.coming turn name (by omega)
  | declared name bases checking attributes entry made fit hierarchy classes =>
      have new := regular.coming session.turn name (Nat.le_refl _)
      have kept {id : ClassId} (known : (session.hierarchy.find? id).isSome = true) :
          next.hierarchy.find? id = session.hierarchy.find? id := by
        rw [hierarchy]
        apply Hierarchy.find?_declare_of_ne
        rintro rfl
        rw [new] at known
        cases known
      refine ⟨⟨?_, ?_⟩, ?_⟩
      · rw [hierarchy]
        exact regular.grown.declare rfl new fit checking attributes
      · rw [classes, List.forall_mem_cons]
        constructor
        · rw [hierarchy, Hierarchy.find?_declare_self made]
          rfl
        · intro declared member
          have known := regular.known declared member
          rw [kept known]
          exact known
      · intro turn other later
        have differ : ClassId.declared (Site.root.child session.turn) name ≠
            .declared (Site.root.child turn) other := by
          rintro same
          have same := (Site.child_inj.mp (ClassId.declared.inj same).1).1
          omega
        rw [hierarchy, Hierarchy.find?_declare_of_ne differ]
        exact regular.coming turn other (by omega)

theorem Advances.congr {other : Session} (advances : session.Advances site next)
    (hierarchy : other.hierarchy = next.hierarchy) (classes : other.classes = next.classes) :
    session.Advances site other := by
  cases advances with
  | same kept keptClasses => exact .same (hierarchy.trans kept) (classes.trans keptClasses)
  | declared name bases checking attributes entry made fit declared added =>
      exact .declared name bases checking attributes entry made fit (hierarchy.trans declared)
        (classes.trans added)

theorem hierarchy_keep (session : Session) (name : Option String) (value : Value)
    (origin : Option Site) : (session.keep name value origin).hierarchy = session.hierarchy := by
  cases name <;> rfl

theorem classes_keep (session : Session) (name : Option String) (value : Value)
    (origin : Option Site) : (session.keep name value origin).classes = session.classes := by
  cases name <;> rfl

/-- What a step preserves, whether it succeeds or fails. -/
theorem regular_step (regular : session.Regular) (step : Step) : (session.step step).2.Regular := by
  refine regular_of_advances regular ?_ rfl
  have kept (name : Option String) (value : Value) (origin : Option Site) :
      session.Advances (Site.root.child session.turn) (session.keep name value origin) :=
    .same (hierarchy_keep ..) (classes_keep ..)
  rw [Session.step]
  rcases evaluated : (session.execute (Site.root.child session.turn) step.operation).run.run
    session.subscripts with ⟨outcome, subscripts⟩
  cases outcome with
  | error cause => exact (kept step.caught (.exception cause) none).congr rfl rfl
  | ok run =>
      have gives : (session.execute (Site.root.child session.turn) step.operation).Gives run :=
        ⟨session.subscripts, subscripts, evaluated⟩
      dsimp only
      cases ended : run.result with
      | error cause => exact (kept step.caught (.exception cause) none).congr rfl rfl
      | ok outcome =>
          obtain ⟨product, next⟩ := outcome
          have advances := advances_execute regular.toNamed gives ended
          cases product with
          | value value => exact advances.congr (hierarchy_keep ..) (classes_keep ..)
          | _ => exact advances.congr rfl rfl

/-- What all steps of a script preserve. -/
theorem regular_perform (regular : session.Regular) (steps : List Step) :
    ∀ entry ∈ session.perform steps, entry.2.Regular := by
  induction steps generalizing session with
  | nil => exact List.forall_mem_nil _
  | cons step steps ih =>
      rw [perform]
      exact List.forall_mem_cons.mpr ⟨regular_step regular step, ih (regular_step regular step)⟩

/-- Classes that an application can bring along: none is one of the library's or bears the site of a
step, and each can be declared after those in front of it. -/
structure Foreign (classes : List (ClassId × List TypeExpr × Checking)) : Prop where
  own : classes.all (fun declared => !declared.1.isKnown) = true
  unstepped : ∀ declared ∈ classes, ∀ turn name,
    declared.1 ≠ .declared (Site.root.child turn) name
  declarable : Hierarchy.initial.declarable classes = true

variable {classes : List (ClassId × List TypeExpr × Checking)}

theorem regular_opening (foreign : Foreign classes) : (opening classes).Regular := by
  have library : Hierarchy.initial.entries.all (fun entry => ClassId.isKnown entry.id) = true := by
    decide +kernel
  refine ⟨⟨?_, ?_⟩, fun turn name _ => ?_⟩
  · exact Hierarchy.Grown.initial.declareAll foreign.own foreign.declarable
  · intro declared member
    obtain ⟨brought, isBrought, rfl⟩ := List.mem_map.mp (List.mem_reverse.mp member)
    exact Hierarchy.isSome_find?_declareAll foreign.declarable isBrought
  · have absent : (Hierarchy.initial.declareAll classes).find? (.declared (Site.root.child turn) name) =
        Hierarchy.initial.find? (.declared (Site.root.child turn) name) :=
      Hierarchy.find?_declareAll_of_absent fun declared member =>
        foreign.unstepped declared member turn name
    refine absent.trans (Option.eq_none_iff_forall_ne_some.mpr fun entry found => ?_)
    have same := (Hierarchy.built_initial.allSound.sound _ entry found).1
    rw [Hierarchy.find?] at found
    have own := List.all_eq_true.mp library entry (List.mem_of_find?_eq_some found)
    rw [same] at own
    cases own

/-- Whatever a script does, the hierarchy of the session has grown by declarations. -/
theorem grown_of_perform (foreign : Foreign classes) (steps : List Step) :
    ∀ entry ∈ (opening classes).perform steps, entry.2.hierarchy.Grown :=
  fun entry member => (regular_perform (regular_opening foreign) steps entry member).grown

/-- In whatever session a script comes to, the type of a post guard is what the variable of post guards
stands for in its class. -/
theorem resultType_of_perform (foreign : Foreign classes) (steps : List Step) :
    ∀ entry ∈ (opening classes).perform steps, ∀ tree values site,
      PostGuard.Bare entry.2.facts tree → PostGuard.Created entry.2.hierarchy tree values →
        ∃ type? : Option TypeExpr,
          entry.2.facts.resultType (.post tree) site = .ok (type?.map .type) ∧
            PostGuard.Reflects entry.2.hierarchy tree.cls values type? :=
  fun entry member _ _ site bare created =>
    PostGuard.exists_resultType (grown_of_perform foreign steps entry member) bare created site

end Session

end GuardAlgebra
