import GuardAlgebra.Proofs.Evaluating
import GuardAlgebra.Proofs.Frozen

namespace GuardAlgebra

/-! # Scripts that edit frozen objects

A script may make, compose and check whatever it wants, and write to frozen objects and delete from them.
Each of these edits is refused or pins a post guard, so what the session knows of objects after any
number of steps is what it knew before, and pins.
-/

theorem Evaluation.run_bind {α β : Type} (first : Evaluation α) (next : α → Evaluation β)
    (before : Subscripts) :
    (first >>= next).run.run before =
      match first.run.run before with
      | (.ok value, after) => (next value).run.run after
      | (.error cause, after) => (.error cause, after) := by
  rw [ExceptT.run_bind, StateT.run_bind]
  rcases first.run.run before with ⟨outcome, after⟩
  cases outcome <;> rfl

namespace Session

/-- A write to an attribute of an object, or its deletion. -/
inductive Edit where
  | write (subject : Value) (name : String) (new : Value)
  | erase (subject : Value) (name : String)

namespace Edit

def subject : Edit → Value
  | .write subject .. | .erase subject _ => subject

/-- What the edit makes of what is known of objects. -/
def apply (facts : Facts) (site : Site) : Edit → Except Fault Facts
  | .write subject name new => facts.write subject (site.child 2) name new
  | .erase subject name => facts.erase subject name

/-- Type arguments are written to a post guard. -/
def isPin : Edit → Bool
  | .write subject name _ => subject.admitsPin && name = pinAttribute
  | .erase .. => false

variable {edit : Edit}

theorem apply_of_unpinned (facts : Facts) (site : Site) (frozen : edit.subject.isFrozen = true)
    (unpinned : edit.isPin = false) :
    ∃ name, edit.apply facts site = .error (.frozen name) := by
  cases edit with
  | write subject name new => exact ⟨name, Facts.write_frozen frozen unpinned⟩
  | erase subject name => exact ⟨name, Facts.erase_frozen frozen⟩

theorem apply_of_pin (facts : Facts) (site : Site) (frozen : edit.subject.isFrozen = true)
    (isPin : edit.isPin = true) :
    ∃ place new, edit.subject.site? = some place ∧
      edit.apply facts site = .ok (facts.pin place new) := by
  cases edit with
  | write subject name new =>
      simp only [Edit.isPin, Bool.and_eq_true, decide_eq_true_eq] at isPin
      obtain ⟨admits, rfl⟩ := isPin
      obtain ⟨place, found, writes⟩ := Facts.write_pinned frozen admits
      exact ⟨place, new, found, writes⟩
  | erase => cases isPin

end Edit

/-- Evaluates what a change writes or deletes, if it is one that does. -/
def evalEdit? (session : Session) (site : Site) : Change → Option (Evaluation Edit)
  | .write object name value => some do
      let (subject, new) ← session.evalPair site object value
      pure (.write subject name new)
  | .erase object name => some do
      let subject ← session.eval object (site.child 0)
      pure (.erase subject name)
  | _ => none

/-- What a step is about to write or to delete, if it gets so far. -/
def edit? (session : Session) (step : Step) : Option Edit :=
  match step.operation with
  | .change change => do
      let evaluation ← session.evalEdit? (Site.root.child session.turn) change
      (evaluation.run.run session.subscripts).1.toOption
  | _ => none

/-- Whether a step makes, composes, checks or asks for something, or edits a frozen object. -/
def handles (session : Session) (step : Step) : Bool :=
  match step.operation with
  | .ask _ | .act _ => true
  | .change change => (session.evalEdit? (Site.root.child session.turn) change).isSome &&
      (session.edit? step).all fun edit => edit.subject.isFrozen

def handlesAll (session : Session) : List Step → Bool
  | [] => true
  | step :: steps => session.handles step && (session.step step).2.handlesAll steps

/-- The site of the post guard that a step pins. -/
def pins (session : Session) (step : Step) : List Site :=
  match session.edit? step with
  | some edit => if edit.isPin then edit.subject.site?.toList else []
  | none => []

def allPins (session : Session) : List Step → List Site
  | [] => []
  | step :: steps => session.pins step ++ (session.step step).2.allPins steps

/-- A step is refused, and leaves nothing behind but its exception, where it has a variable for it. -/
def Refuses (session : Session) (step : Step) : Prop :=
  ∃ cause subscripts, (session.step step).1.outcome = .error cause ∧
    cause.cls.name = "FrozenInstanceError" ∧
    (session.step step).2 = { session.keep step.caught (.exception cause) none with
      turn := session.turn + 1, subscripts := subscripts }

/-- A step writes type arguments to the object at a site. -/
def Repins (session : Session) (step : Step) (site : Site) : Prop :=
  ∃ new, (session.step step).1.outcome = .ok (.value .none) ∧
    (session.step step).2.scene = ⟨session.facts.pin site new, session.scene.configuration⟩

variable {session : Session} {step : Step} {edit : Edit}

section Steps

variable {run : Run (Product × Session)} {subscripts : Subscripts} {cause : Exception}

theorem step_of_error
    (evaluated : (session.execute (Site.root.child session.turn) step.operation).run.run
      session.subscripts = (.ok run, subscripts)) (ended : run.result = .error cause) :
    (session.step step).1.outcome = .error cause ∧
      (session.step step).2 = { session.keep step.caught (.exception cause) none with
        turn := session.turn + 1, subscripts := subscripts } := by
  rw [Session.step, evaluated]
  simp only [ended, Except.map, and_self]

theorem step_of_value {value : Value} {next : Session}
    (evaluated : (session.execute (Site.root.child session.turn) step.operation).run.run
      session.subscripts = (.ok run, subscripts)) (ended : run.result = .ok (.value value, next)) :
    (session.step step).1.outcome = .ok (.value value) ∧
      (session.step step).2.scene = next.scene := by
  rw [Session.step, evaluated]
  simp only [ended, Except.map, true_and]
  unfold keep
  split <;> rfl

/-- What an edit does once it is evaluated. -/
def editing (session : Session) (site : Site) (edit : Edit) : Run (Product × Session) :=
  (fun (value, next) => (Product.value value, next)) <$> (do
    let facts ← Run.ofExcept site (edit.apply session.facts site)
    pure (Value.none, session.withFacts facts))

theorem result_editing (session : Session) (site : Site) (edit : Edit) :
    (session.editing site edit).result = (attempt site (edit.apply session.facts site)).map
      fun facts => (Product.value .none, session.withFacts facts) := by
  rw [editing, Run.result_map]
  cases edit.apply session.facts site <;> rfl

theorem execute_change {site : Site} {change : Change} {evaluation : Evaluation Edit}
    (found : session.evalEdit? site change = some evaluation) :
    session.execute site (.change change) =
      evaluation >>= fun edit => pure (session.editing site edit) := by
  cases change with
  | write | erase =>
      cases found
      simp only [execute, Session.change, bind_assoc, pure_bind]
      rfl
  | _ => cases found

/-- A step that edits an object does so, once it has evaluated what it is about. -/
theorem execute_edit (given : session.edit? step = some edit) :
    ∃ subscripts, (session.execute (Site.root.child session.turn) step.operation).run.run
      session.subscripts =
        (.ok (session.editing (Site.root.child session.turn) edit), subscripts) := by
  unfold edit? at given
  split at given
  next change operation =>
    obtain ⟨evaluation, found, given⟩ := Option.bind_eq_some_iff.mp given
    rcases evaluated : evaluation.run.run session.subscripts with ⟨outcome, after⟩
    rw [evaluated] at given
    cases outcome with
    | error cause => cases given
    | ok edit =>
        cases given
        refine ⟨after, ?_⟩
        rw [operation, execute_change found, Evaluation.run_bind, evaluated]
        rfl
  next => cases given

theorem refuses_edit (given : session.edit? step = some edit)
    (frozen : edit.subject.isFrozen = true) (unpinned : edit.isPin = false) :
    session.Refuses step := by
  obtain ⟨subscripts, evaluated⟩ := execute_edit given
  obtain ⟨name, refused⟩ := Edit.apply_of_unpinned session.facts
    (Site.root.child session.turn) frozen unpinned
  have ended := result_editing session (Site.root.child session.turn) edit
  rw [refused] at ended
  obtain ⟨outcome, next⟩ := step_of_error evaluated ended
  exact ⟨_, subscripts, outcome, rfl, next⟩

theorem repins_edit (given : session.edit? step = some edit)
    (frozen : edit.subject.isFrozen = true) (isPin : edit.isPin = true) :
    ∃ place, edit.subject.site? = some place ∧ session.Repins step place := by
  obtain ⟨subscripts, evaluated⟩ := execute_edit given
  obtain ⟨place, new, found, writes⟩ := Edit.apply_of_pin session.facts
    (Site.root.child session.turn) frozen isPin
  have ended := result_editing session (Site.root.child session.turn) edit
  rw [writes] at ended
  obtain ⟨outcome, scene⟩ := step_of_value evaluated ended
  exact ⟨place, found, new, outcome, scene⟩

theorem scene_keep (session : Session) (name : Option String) (value : Value)
    (origin : Option Site) : (session.keep name value origin).scene = session.scene := by
  cases name <;> rfl

theorem scene_step (kept : ∀ run subscripts product next,
      (session.execute (Site.root.child session.turn) step.operation).run.run session.subscripts =
        (.ok run, subscripts) →
      run.result = .ok (product, next) → next.scene = session.scene) :
    (session.step step).2.scene = session.scene := by
  rw [Session.step]
  rcases evaluated : (session.execute (Site.root.child session.turn) step.operation).run.run
    session.subscripts with ⟨outcome, subscripts⟩
  cases outcome with
  | error cause => exact scene_keep ..
  | ok run =>
      dsimp only
      cases ended : run.result with
      | error cause => exact scene_keep ..
      | ok outcome =>
          obtain ⟨product, next⟩ := outcome
          have same := kept run subscripts product next evaluated ended
          cases product with
          | value value => exact (scene_keep ..).trans same
          | _ => exact same

theorem scene_of_unedited (handled : session.handles step = true)
    (unedited : session.edit? step = none) : (session.step step).2.scene = session.scene := by
  refine scene_step fun run subscripts product next evaluated ended => ?_
  have gives : (session.execute (Site.root.child session.turn) step.operation).Gives run :=
    ⟨session.subscripts, subscripts, evaluated⟩
  cases operation : step.operation with
  | ask question =>
      rw [operation] at gives
      obtain ⟨value, -, gives⟩ := Evaluation.exists_of_gives_bind gives
      obtain rfl := Evaluation.gives_pure.mp gives
      cases ended
      rfl
  | act action =>
      rw [operation] at gives
      obtain ⟨acted, -, gives⟩ := Evaluation.exists_of_gives_bind gives
      obtain rfl := Evaluation.gives_pure.mp gives
      obtain ⟨product, -, ended⟩ := Run.result_bind_eq_ok.mp ended
      cases ended
      rfl
  | change change =>
      -- Where there is no edit, what it is about could not be evaluated.
      simp only [handles, operation, Bool.and_eq_true] at handled
      obtain ⟨evaluation, found⟩ := Option.isSome_iff_exists.mp handled.1
      rw [edit?, operation] at unedited
      simp only [found, Option.bind_eq_bind, Option.bind_some] at unedited
      rw [operation, execute_change found, Evaluation.run_bind] at evaluated
      rcases about : evaluation.run.run session.subscripts with ⟨outcome, after⟩
      rw [about] at evaluated unedited
      cases outcome with
      | error cause => cases evaluated
      | ok edit => cases unedited

end Steps

section Runs

theorem frozen_of_handles (handled : session.handles step = true)
    (given : session.edit? step = some edit) : edit.subject.isFrozen = true := by
  cases operation : step.operation with
  | ask | act =>
      rw [edit?, operation] at given
      cases given
  | change change =>
      simp only [handles, operation, given, Bool.and_eq_true] at handled
      exact handled.2

/-- What a step does to what is known of objects. -/
theorem pins_step (handled : session.handles step = true) :
    ∃ facts, session.facts.Pins (session.pins step) facts ∧
      (session.step step).2.scene = ⟨facts, session.scene.configuration⟩ := by
  cases given : session.edit? step with
  | none => exact ⟨session.facts, .none, scene_of_unedited handled given⟩
  | some edit =>
      have frozen := frozen_of_handles handled given
      cases isPin : edit.isPin with
      | false =>
          obtain ⟨cause, subscripts, -, -, next⟩ := refuses_edit given frozen isPin
          rw [next]
          exact ⟨session.facts, .none, scene_keep ..⟩
      | true =>
          obtain ⟨place, found, new, -, scene⟩ := repins_edit given frozen isPin
          have member : place ∈ session.pins step := by
            simp [pins, given, isPin, found]
          exact ⟨_, Facts.Pins.none.pin new member, scene⟩

/-- What a whole script does to it. -/
theorem pins_perform (steps : List Step) (handled : session.handlesAll steps = true) :
    ∀ entry ∈ session.perform steps, ∃ facts, session.facts.Pins (session.allPins steps) facts ∧
      entry.2.scene = ⟨facts, session.scene.configuration⟩ := by
  induction steps generalizing session with
  | nil => exact List.forall_mem_nil _
  | cons step steps ih =>
      simp only [handlesAll, Bool.and_eq_true] at handled
      obtain ⟨facts, pins, scene⟩ := pins_step handled.1
      have first : session.facts.Pins (session.allPins (step :: steps)) facts :=
        pins.mono (List.subset_append_left ..)
      rw [perform, List.forall_mem_cons]
      refine ⟨⟨facts, first, scene⟩, fun entry member => ?_⟩
      obtain ⟨last, later, ends⟩ := ih handled.2 entry member
      -- The rest of the script pins on from what this step left.
      have known : (session.step step).2.facts = facts := by rw [Session.facts, scene]
      have same : (session.step step).2.scene.configuration = session.scene.configuration := by
        rw [scene]
      rw [known] at later
      rw [same] at ends
      exact ⟨last, first.trans (later.mono (List.subset_append_right ..)), ends⟩

end Runs

/-- Every edit of a frozen object is refused but those that pin a post guard. After any script that edits
frozen objects alone, everything is answered as it was, but for the type arguments of the post guards that
were pinned, and the types of these very guards; and where nothing else was ever written to, trees are
made of guards all through. -/
theorem frozen_objects_stay (session : Session) (steps : List Step)
    (handled : session.handlesAll steps = true) :
    (∀ (before : Session) step edit, before.edit? step = some edit → edit.subject.isFrozen = true →
      if edit.isPin then ∃ site, edit.subject.site? = some site ∧ before.Repins step site
      else before.Refuses step) ∧
    (∀ entry ∈ session.perform steps,
      session.scene.Undisturbed (session.allPins steps) entry.2.scene) ∧
    (session.facts.Unwritten → ∀ entry ∈ session.perform steps, entry.2.facts.Sound) := by
  refine ⟨fun before step edit given frozen => ?_, fun entry member => ?_,
    fun unwritten entry member => ?_⟩
  · split
    next isPin => exact repins_edit given frozen isPin
    next unpinned => exact refuses_edit given frozen (Bool.eq_false_iff.mpr unpinned)
  · obtain ⟨facts, pins, scene⟩ := pins_perform steps handled entry member
    rw [scene]
    exact Scene.undisturbed_of_pins pins
  · obtain ⟨facts, pins, scene⟩ := pins_perform steps handled entry member
    rw [Session.facts, scene]
    exact Facts.sound_of_unwritten (pins.unwritten unwritten)

section Example

def asking (place : Site) (function : Value) : PostGuard :=
  .function place .none function (.str "no") .none (.str "ask")

def assenting (place : Site) : PostGuard :=
  asking place (.callable ⟨⟨[0]⟩, some "ask", "ask", .sync, 0, .reply (.gives (.bool true))⟩)

/-- A session that has these post guards in its variables. -/
def holding (trees : List (String × PostGuard)) : Session :=
  { initial with bindings := trees.map fun (name, tree) => ⟨name, .post tree, none⟩ }

def pinTo (name type : String) : Step :=
  ⟨.change (.write (.reference name) pinAttribute
    (.type (.applied "FunctionPostGuard" [.name type]))), none, none⟩

/-- A conjunction is as it was after one of its parts was pinned, and after nothing could be deleted from
it. -/
theorem conjunction_stays_after_pin :
    let tree : PostGuard := .both ⟨[3]⟩ .none (assenting ⟨[1]⟩) (assenting ⟨[2]⟩) .none
    let session := holding [("part", assenting ⟨[1]⟩), ("tree", tree)]
    let steps := [pinTo "part" "int", ⟨.change (.erase (.reference "tree") "left"), none, none⟩]
    session.handlesAll steps = true ∧ session.allPins steps = [⟨[1]⟩] ∧
      ∀ entry ∈ session.perform steps, entry.2.facts.Sound ∧
        (∀ site, entry.2.facts.resultType (.post tree) site =
          session.facts.resultType (.post tree) site) ∧
        ∀ context value site, tree.check entry.2.scene.surroundings context value site =
          tree.check session.scene.surroundings context value site := by
  intro tree session steps
  have handled : session.handlesAll steps = true := by decide +kernel
  have sites : session.allPins steps = [⟨[1]⟩] := by decide +kernel
  obtain ⟨-, undisturbed, sound⟩ := frozen_objects_stay session steps handled
  have unwritten : session.facts.Unwritten := fun _ _ _ => rfl
  refine ⟨handled, sites, fun entry member => ?_⟩
  have stays := undisturbed entry member
  rw [sites] at stays
  refine ⟨sound unwritten entry member, fun site => ?_, fun context value site => ?_⟩
  · refine stays.types _ site fun place pinned here => ?_
    cases List.mem_singleton.mp pinned
    exact absurd here (by decide)
  · have answers := stays.functions
      ⟨⟨[0]⟩, some "ask", "ask", .sync, 0, .reply (.gives (.bool true))⟩ trivial
    exact stays.postUnmoved context value site tree ⟨answers, answers⟩

def raisedBy (run : Run Value) : Option String :=
  match run.result with
  | .ok _ => none
  | .error cause => some cause.cls.name

/-- A check that composes post guards itself tells that they were pinned. -/
theorem composing_check_tells_of_pins :
    let one := assenting ⟨[1]⟩
    let two := assenting ⟨[2]⟩
    let tree := asking ⟨[3]⟩ (.type (.named (.known "PostAnd")))
    let session := holding [("one", one), ("two", two)]
    let steps := [pinTo "one" "int", pinTo "two" "str"]
    session.handlesAll steps = true ∧
      raisedBy (tree.check session.scene.surroundings (.post one) (.post two) .root) =
        some "TypeError" ∧
      ∃ entry ∈ session.perform steps,
        raisedBy (tree.check entry.2.scene.surroundings (.post one) (.post two) .root) =
          some "GuardCompositionError" := by
  intro one two tree session steps
  refine ⟨by decide +kernel, by decide +kernel, ?_⟩
  have told : (session.perform steps).any (fun entry =>
      raisedBy (tree.check entry.2.scene.surroundings (.post one) (.post two) .root) =
        some "GuardCompositionError") = true := by decide +kernel
  obtain ⟨entry, member, tells⟩ := List.any_eq_true.mp told
  exact ⟨entry, member, of_decide_eq_true tells⟩

end Example

end Session

end GuardAlgebra
