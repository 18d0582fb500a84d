import GuardAlgebra.Proofs.Levels
import GuardAlgebra.Proofs.Styles
import GuardAlgebra.Proofs.Warnings

namespace GuardAlgebra

/-! # Logging

The log observes runs and decides nothing. With the log on or off a run ends the same and invokes the
same, provided that every denial in it can be put into words; with the log on it has a record for each
of them, and with the log off none.
-/

namespace Scene

variable (scene : Scene) (tell : Teller)

/-- The scene where the log is on or off. -/
def logging (logs : Bool) : Scene :=
  ⟨scene.facts, { scene.configuration with logDenials := .bool logs }⟩

/-- Calls a value, and tells of a denial if that is what the call comes to. -/
def callTelling (call : Call) (value : Value) (arguments : Arguments) (site : Site) : Run Answer :=
  let around : Surroundings := ⟨scene.facts, call⟩
  match value with
  | .method .resolve =>
      let count := Method.resolve.parameters.length
      match Arguments.bindOpen? Method.resolve.parameters (arguments.positional.take count)
          arguments.named with
      | some ([some object, some context, some function], named) =>
          pure (.later (around.resolveTelling tell (scene.facts.resolver object) context function
            ⟨arguments.positional.drop count, named⟩ site))
      | _ => Surroundings.misused .resolve site
  | .method .logDenial =>
      match arguments.bind? Method.logDenial.parameters with
      | some [some object, some stage, some error] => do
          tell (.field (scene.facts.resolver object).field stage error) site
          pure (.now .none)
      | _ => Surroundings.misused .logDenial site
  | .routine _ (.admission guard factory) =>
      match arguments.bind? [.mandatory "request"] with
      | some [some received] =>
          pure (.later (Admission.admissionTelling around tell scene.configuration guard factory
            received site))
      | _ => failed site "dependency"
  | value => scene.callValue call value arguments site

/-- Calls to a given depth, telling of denials. -/
def callTellingWithin : Nat → Call
  | 0 => fun _ _ site => .fail site .tooDeep
  | depth + 1 => scene.callTelling tell (callTellingWithin depth)

theorem callTelling_logging (call : Call) (value : Value) (arguments : Arguments) (site : Site) :
    scene.callTelling (.logging scene.facts scene.configuration.logDenials) call value arguments
        site =
      scene.callValue call value arguments site := by
  unfold callTelling
  dsimp only
  split
  · change _ = Surroundings.callResolve ⟨scene.facts, call⟩ _ _ _
    unfold Surroundings.callResolve
    dsimp only
    generalize Arguments.bindOpen? .. = bound
    -- All arguments but three values are a misuse either way.
    obtain _ | ⟨_ | ⟨_ | object, _ | ⟨_ | context, _ | ⟨_ | function, _ | _⟩⟩⟩, named⟩ := bound
    any_goals rfl
    simp only [Surroundings.resolveTelling_logging ⟨scene.facts, call⟩]
  · split
    next object stage error bound =>
      have told : Teller.logging scene.facts scene.configuration.logDenials
          (.field (scene.facts.resolver object).field stage error) site =
            Surroundings.noteDenial ⟨scene.facts, call⟩ scene.configuration.logDenials
              (scene.facts.resolver object) stage error site := (Surroundings.note_after _ _).symm
      simp only [callValue, Surroundings.callMethod, bound, told]
    next unbound =>
      simp only [callValue, Surroundings.callMethod]
      split
      any_goals contradiction
      next bound => exact absurd bound (unbound _ _ _)
      next => rfl
  · split
    next received bound =>
      simp only [callValue, callRoutine, bound,
        ← Admission.admissionTelling_logging ⟨scene.facts, call⟩]
    next unbound =>
      simp only [callValue, callRoutine]
  · rfl

/-- Calls are what they come to where the log is told of denials. -/
theorem callTellingWithin_logging (depth : Nat) :
    scene.callTellingWithin (.logging scene.facts scene.configuration.logDenials) depth =
      scene.callWithin depth := by
  induction depth with
  | zero => rfl
  | succ depth ih =>
      funext value arguments site
      rw [callTellingWithin, ih]
      exact scene.callTelling_logging _ value arguments site

variable {scene : Scene} {logs : Bool} {call other : Call}

/-- A call that is no resolving, reporting or admitting. -/
theorem retells_callValue (calls : call.Retells scene.facts logs other) {value : Value}
    (noResolve : value ≠ .method .resolve) (noLog : value ≠ .method .logDenial)
    (noAdmission : ∀ place guard factory, value ≠ .routine place (.admission guard factory))
    (arguments : Arguments) (site : Site) :
    Run.Retells scene.facts logs (Answer.Retells scene.facts logs)
      (scene.callValue call value arguments site)
      ((scene.logging logs).callValue other value arguments site) := by
  cases value with
  | callable function => exact Surroundings.retells_callable calls function arguments site
  | type expr => exact Answer.retells_now _
  | method method =>
      exact Surroundings.retells_callMethod calls (fun same => noResolve (congrArg Value.method same))
        (fun same => noLog (congrArg Value.method same)) _ _ arguments site
  | bound function receiver => exact calls function _ site
  | routine place routine =>
      cases routine with
      | guardedField resolver function name held =>
          exact Surroundings.retells_callGuarded calls resolver function name arguments site
      | admission guard factory => exact absurd rfl (noAdmission place guard factory)
      | guardMaker error | postMaker error =>
          simp only [callValue, callRoutine]
          split
          · exact .done (.now _)
          · exact .raised _
      | fieldMaker before after field =>
          simp only [callValue, callRoutine]
          split
          · exact Answer.retells_now _
          · exact .raised _
  | _ => exact .raised _

theorem retells_callTelling (calls : call.Retells scene.facts logs other) (value : Value)
    (arguments : Arguments) (site : Site) :
    Run.Retells scene.facts logs (Answer.Retells scene.facts logs)
      (scene.callTelling .keeping call value arguments site)
      ((scene.logging logs).callTelling (.logging scene.facts (.bool logs)) other value arguments
        site) := by
  -- Three values tell of denials when they are called, and only there the two definitions differ.
  by_cases isResolve : value = .method .resolve
  · subst isResolve
    simp only [callTelling]
    split
    · exact .done (.later (Surroundings.retells_resolve calls _ _ _ _ site))
    · exact .raised _
  by_cases isLog : value = .method .logDenial
  · subst isLog
    simp only [callTelling]
    split
    · exact (Run.retells_logging scene.facts logs _ site).andThen fun _ => .done (.now .none)
    · exact .raised _
  by_cases isAdmission : ∃ place guard factory, value = .routine place (.admission guard factory)
  · obtain ⟨place, guard, factory, rfl⟩ := isAdmission
    simp only [callTelling]
    split
    · exact .done (.later (Surroundings.retells_admission calls _ guard factory _ site))
    · exact .raised _
  · have noAdmission (place : Site) (guard : Guard) (factory : Option Value) :
        value ≠ .routine place (.admission guard factory) :=
      fun same => isAdmission ⟨place, guard, factory, same⟩
    rw [callTelling.eq_4 _ _ _ _ _ _ isResolve isLog noAdmission,
      callTelling.eq_4 _ _ _ _ _ _ isResolve isLog noAdmission]
    exact retells_callValue calls isResolve isLog noAdmission arguments site

/-- Calls with the log on or off retell calls that keep their denials. -/
theorem retells_within (scene : Scene) (logs : Bool) (depth : Nat) :
    (scene.callTellingWithin .keeping depth).Retells scene.facts logs
      ((scene.logging logs).callWithin depth) := by
  rw [← callTellingWithin_logging]
  change Call.Retells scene.facts logs _
    ((scene.logging logs).callTellingWithin (.logging scene.facts (.bool logs)) depth)
  induction depth with
  | zero => exact fun _ _ _ => .raised _
  | succ depth ih => exact retells_callTelling ih

end Scene

/-- Runs with the log off and on that differ in their records alone. With the log off there are none,
and with the log on there is one for each denial that is kept, in order, if all can be put into words. -/
structure Observes {α : Type} (facts : Facts) (kept : Run α) (run : Bool → Run α) : Prop where
  hushed : (run false).records = []
  same : kept.Sayable facts →
    (run true).result = (run false).result ∧ (run true).invocations = (run false).invocations
  worded : kept.Sayable facts → ∃ denials : List Denial, kept.records = denials.map Denial.note ∧
    List.Forall₂ (fun denial record => denial.words facts = .ok record) denials (run true).records

theorem observes_of_retells {α : Type} {facts : Facts} {kept : Run α} {run : Bool → Run α}
    (retells : ∀ logs, Run.Retells facts logs (· = ·) kept (run logs)) : Observes facts kept run := by
  obtain ⟨off, offInvocations, hushed⟩ := (retells false).hushed_eq
  refine ⟨hushed, fun sayable => ?_, fun sayable => ((retells true).worded_eq sayable).2.2⟩
  obtain ⟨on, onInvocations, -⟩ := (retells true).worded_eq sayable
  exact ⟨on.trans off.symm, onInvocations.trans offInvocations.symm⟩

namespace Resolution

variable (field : Resolution) (scene : Scene) (depth : Nat)

def logging (logs : Bool) : Resolution :=
  { field with around := (scene.logging logs).within depth, logDenials := .bool logs }

/-- Resolves the field, and keeps all denials. -/
def keeping : Run Value :=
  Surroundings.resolveTelling ⟨scene.facts, scene.callTellingWithin .keeping depth⟩ .keeping
    field.resolver field.context field.function field.arguments field.site

theorem retells_keeping (logs : Bool) :
    Run.Retells scene.facts logs (· = ·) (field.keeping scene depth)
      (field.logging scene depth logs).run := by
  have told := Surroundings.resolveTelling_logging ((scene.logging logs).within depth) (.bool logs)
    field.resolver field.context field.function field.arguments field.site
  change Run.Retells _ _ _ _ (Surroundings.resolve ..)
  exact told ▸ Surroundings.retells_resolve (Scene.retells_within scene logs depth) _ _ _ _ _

end Resolution

namespace Admittance

variable (entry : Admittance) (scene : Scene) (depth : Nat)

def logging (logs : Bool) : Admittance :=
  { entry with
    around := (scene.logging logs).within depth
    configuration := (scene.logging logs).configuration }

/-- Admits the request or not, and keeps all denials. -/
def keeping : Run Value :=
  Admission.admissionTelling ⟨scene.facts, scene.callTellingWithin .keeping depth⟩ .keeping
    scene.configuration entry.guard entry.factory entry.request entry.site

theorem retells_keeping (logs : Bool) :
    Run.Retells scene.facts logs (· = ·) (entry.keeping scene depth)
      (entry.logging scene depth logs).run := by
  have told := Admission.admissionTelling_logging ((scene.logging logs).within depth)
    (scene.logging logs).configuration entry.guard entry.factory entry.request entry.site
  change Run.Retells _ _ _ _ (Admission.admission ..)
  exact told ▸ Surroundings.retells_admission (Scene.retells_within scene logs depth) _ _ _ _ _

end Admittance

/-- Whatever is called, the log decides neither how that ends nor what is invoked, as long as denials
can be put into words. Of a field or a request it has a record more if that is denied, and no other;
trees add none. And the level of the log says what is admitted, and nothing else. -/
theorem logging_never_decides (session : Session) (depth : Nat) :
    let scene := session.scene
    (∀ (value : Value) (arguments : Arguments) (site : Site),
      Observes scene.facts
        (scene.callTellingWithin .keeping depth value arguments site >>= Answer.settle)
        fun logs => (scene.logging logs).callWithin depth value arguments site >>= Answer.settle) ∧
    (∀ field : Resolution,
      Observes scene.facts (field.keeping scene depth)
        (fun logs => (field.logging scene depth logs).run) ∧
      (field.logging scene depth true).Logs) ∧
    (∀ entry : Admittance,
      Observes scene.facts (entry.keeping scene depth)
        (fun logs => (entry.logging scene depth logs).run) ∧
      (entry.logging scene depth true).Logs) ∧
    (∀ call : Call, call.Silent →
      (∀ (tree : Guard) (context : Value) (site : Site),
        (tree.check ⟨scene.facts, call⟩ context site).records = []) ∧
      (∀ (tree : PostGuard) (context value : Value) (site : Site),
        (tree.check ⟨scene.facts, call⟩ context value site).records = []) ∧
      (∀ field : Resolution, field.around = ⟨scene.facts, call⟩ → field.deciding.records = []) ∧
      ∀ entry : Admittance, entry.around = ⟨scene.facts, call⟩ → entry.deciding.records = []) ∧
    ∀ level : Int,
      (∀ steps : List Session.Step, List.Forall₂ (fun entry given => Session.Agree entry.1 given.1)
        (session.perform steps) ((session.atLevel level).perform steps)) ∧
      ∀ records, (session.atLevel level).admitted records = if level ≤ 30 then records else [] := by
  intro scene
  refine ⟨?_, ?_, ?_, ?_, ?_⟩
  · intro value arguments site
    exact observes_of_retells fun logs => (Scene.retells_within scene logs depth value arguments
      site).bind fun _ _ answers => answers.settle
  · intro field
    exact ⟨observes_of_retells (field.retells_keeping scene depth), Resolution.logs rfl⟩
  · intro entry
    exact ⟨observes_of_retells (entry.retells_keeping scene depth), Admittance.logs rfl⟩
  · intro call silent
    exact ⟨Guard.records_check silent, PostGuard.records_check silent,
      fun field => Resolution.records_deciding silent, fun entry => Admittance.records_deciding silent⟩
  · intro level
    refine ⟨Session.perform_alike (session.alike_atLevel level), fun records => ?_⟩
    by_cases admits : level ≤ 30 <;>
      simp [Session.admitted, Session.atLevel, Level.admitsWarnings, Level.warning, admits]

/-- Two leaves of a guard deny, before a field and before a request, and one error is told. -/
theorem logging_of_two_denials :
    let scene := Session.initial.scene
    let answers (name : String) (value : Value) : Value :=
      .callable ⟨⟨[0]⟩, some name, name, .sync, 0, .reply (.gives value)⟩
    let refuses (place : Nat) (name error : String) : Guard :=
      .function ⟨[place]⟩ (answers name (.bool false)) (.str error) .none
    let tree : Guard :=
      .both ⟨[1]⟩ (.either ⟨[2]⟩ (refuses 3 "isMember" "outsider") (.allowAll ⟨[4]⟩))
        (refuses 5 "isOpen" "closed")
    let field : Resolution :=
      ⟨scene.within 2, .none, some tree, none, .str "salary", .none, .none, ⟨[], []⟩, .root⟩
    let entry : Admittance :=
      ⟨scene.within 2, scene.configuration, tree, some (answers "context" .none),
        .request ⟨⟨[6]⟩, "GET", "/salaries", "", "http://test/salaries", .ok "/salaries", [], none⟩,
        .root⟩
    let call : Call := fun _ arguments _ => do
      Run.invoke "member" arguments
      pure (.now (.bool false))
    (field.keeping scene 2).Sayable scene.facts ∧ (entry.keeping scene 2).Sayable scene.facts ∧
      call.Silent ∧
      (field.logging scene 2 true).run.result = (field.logging scene 2 false).run.result ∧
      (field.logging scene 2 false).run.records = [] ∧
      (field.logging scene 2 true).run.records.map Record.message =
        ["Field 'salary' denied by guard: closed"] ∧
      (entry.logging scene 2 true).run.result = (entry.logging scene 2 false).run.result ∧
      (entry.logging scene 2 true).run.records.map Record.message =
        ["Guard denied GET /salaries: closed"] ∧
      (tree.check ⟨scene.facts, call⟩ .none .root).records = [] := by
  intro scene answers refuses tree field entry call
  have kept : (field.keeping scene 2).records =
      [Denial.field (.ok (.str "salary")) (.str "guard") (.str "closed")].map Denial.note := rfl
  have entryKept : (entry.keeping scene 2).records =
      [Denial.request ⟨.ok (.str "GET"), .ok (.str "http://test/salaries"), .ok (.str "/salaries")⟩
        (.str "closed")].map Denial.note := rfl
  have silent : call.Silent := fun _ _ _ => ⟨rfl, fun _ later => nomatch later⟩
  have sayable : (field.keeping scene 2).Sayable scene.facts :=
    Run.sayable_of_words kept (List.forall_mem_singleton.mpr ⟨_, rfl⟩)
  have entrySayable : (entry.keeping scene 2).Sayable scene.facts :=
    Run.sayable_of_words entryKept (List.forall_mem_singleton.mpr ⟨_, rfl⟩)
  obtain ⟨-, fields, entries, trees, -⟩ := logging_never_decides Session.initial 2
  obtain ⟨result, -⟩ := (fields field).1.same sayable
  obtain ⟨entryResult, -⟩ := (entries entry).1.same entrySayable
  refine ⟨sayable, entrySayable, silent, result, (fields field).1.hushed, rfl, entryResult, rfl,
    (trees call silent).1 tree .none .root⟩

/-- A denial that can be said, of a field whose name is an integer of too many digits: with the log off
it is the outcome, and with the log on its report fails. -/
theorem log_decides_on_denial_of_long_name :
    let scene := Session.initial.scene
    let name : Value := .int (Nat.pow 10 Text.digitBound : Nat)
    let field : Resolution :=
      ⟨scene.within 2, .none, some (.denyAll ⟨[0]⟩ (.str "x")), none, name, .none, .none, ⟨[], []⟩,
        .root⟩
    scene.facts.say (.str "x") = .ok "x" ∧
      (field.logging scene 2 false).run.result = .ok (.deniedBefore .root name (.str "x")) ∧
      (field.logging scene 2 true).run.result = .error (.fault (Site.root.child 4) .unspellable) ∧
      Fault.unspellable.className = "ValueError" := by
  intro scene name
  have unsaid : scene.facts.say name = .error .unspellable := by
    simp only [name, Facts.say, Facts.obstacle?, Value.obstacle?, isSpelled_pow, Bool.false_eq_true,
      if_false]
  generalize name = number at unsaid
  intro field
  have denies : (field.logging scene 2 true).deciding.result =
      .ok (.deniedBefore .root number (.str "x"), some ("guard", .str "x")) := rfl
  have untold : (field.logging scene 2 true).warning "guard" (.str "x") = .error .unspellable := by
    rw [Resolution.warning, Resolver.denialRecord]
    change (scene.facts.say number >>= _) = _
    rw [unsaid]
    rfl
  refine ⟨rfl, rfl, ?_, rfl⟩
  rw [Resolution.run_eq_deciding, Run.result_bind_of_ok denies]
  simp only [Resolution.closing, untold]
  rfl

end GuardAlgebra
