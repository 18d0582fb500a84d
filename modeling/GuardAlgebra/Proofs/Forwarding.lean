import GuardAlgebra.Proofs.Folding
import GuardAlgebra.Proofs.Stages
import GuardAlgebra.Proofs.Styles

namespace GuardAlgebra

/-! # Forwarding arguments

A function behind guards is called through its wrapper, and the wrapper asks a resolver, which calls the
function. Arguments by position come behind those of the resolver, and named arguments are handed on under
their own names. So a name that the resolver has for a parameter of its own never gets through to the
function.
-/

namespace Arguments

variable {name : String} {names : List String} {values : List Value} {named : List (String × Value)}

theorem takeNamed_of_absent (absent : name ∉ named.map Prod.fst) :
    takeNamed name named = (Option.none, named) := by
  induction named with
  | nil => rfl
  | cons entry rest IH =>
      rw [List.map_cons, List.mem_cons, not_or] at absent
      simp only [takeNamed, if_neg (Ne.symm absent.1), IH absent.2]

theorem takeNamed_of_given (given : name ∈ named.map Prod.fst) :
    (takeNamed name named).1.isSome = true := by
  induction named with
  | nil => exact nomatch given
  | cons entry rest IH =>
      rw [List.map_cons, List.mem_cons] at given
      by_cases same : entry.1 = name
      · simp only [takeNamed, if_pos same, Option.isSome_some]
      · simp only [takeNamed, if_neg same]
        exact IH (given.resolve_left (Ne.symm same))

/-- Parameters that are filled by position leave named arguments with other names alone. -/
theorem bindOpen?_of_foreign (names : List String) (filled : values.length = names.length)
    (foreign : ∀ name ∈ names, name ∉ named.map Prod.fst) :
    bindOpen? (names.map .mandatory) values named = some (values.map some, named) := by
  induction names generalizing values with
  | nil =>
      rw [List.length_eq_zero_iff.mp filled]
      rfl
  | cons name names IH =>
      obtain ⟨value, rest, rfl⟩ := List.exists_cons_of_length_eq_add_one filled
      rw [List.forall_mem_cons] at foreign
      have others := IH (Nat.succ.inj filled) foreign.2
      simp [bindOpen?, Parameter.mandatory, takeNamed_of_absent foreign.1] at others ⊢
      simp [others]

theorem bindOpen?_of_clash (filled : values.length = names.length) (present : name ∈ names)
    (clash : name ∈ named.map Prod.fst) :
    bindOpen? (names.map .mandatory) values named = Option.none := by
  induction names generalizing values with
  | nil => exact nomatch present
  | cons first names IH =>
      obtain ⟨value, rest, rfl⟩ := List.exists_cons_of_length_eq_add_one filled
      by_cases given : first ∈ named.map Prod.fst
      · simp [bindOpen?, Parameter.mandatory, takeNamed_of_given given]
      · have member : name ∈ names := by
          rcases List.mem_cons.mp present with rfl | member
          · exact absurd clash given
          · exact member
        -- The first parameter takes none of the named arguments, so they reach the others whole.
        have others := IH (Nat.succ.inj filled) member
        simp [bindOpen?, Parameter.mandatory, takeNamed_of_absent given] at others ⊢
        exact others

end Arguments

namespace Resolution

variable {field : Resolution}

theorem run_of_raise {cause : Exception} (allows : field.guarding.Allows)
    (raises : field.resolving.result = .error cause) :
    field.run.result = .error cause ∧
      field.run.events = field.guarding.events ++ field.resolving.events := by
  refine ⟨(resolver_raises allows raises).1, ?_⟩
  rw [run_eq_stages, Surroundings.events_stage_allows allows, Run.events_bind_of_error raises]

theorem run_of_release {value : Value} (allows : field.guarding.Allows)
    (resolved : field.resolving.result = .ok value) (releases : (field.releasing value).Allows) :
    field.run.result = .ok (.released field.site field.name value) ∧
      field.run.events =
        field.guarding.events ++ (field.resolving.events ++ (field.releasing value).events) := by
  constructor
  · rw [(run_of_resolved allows resolved).1, conclude_eq_stage, (Surroundings.stage_allows releases).1]
    rfl
  · rw [run_eq_stages, Surroundings.events_stage_allows allows, Run.events_bind_of_ok resolved,
      conclude_eq_stage, Surroundings.events_stage_allows releases]
    exact congrArg (_ ++ ·) (congrArg (_ ++ ·) (List.append_nil _))

end Resolution

/-- The application left alone what the library resolves fields by. -/
structure Facts.Resolves (facts : Facts) : Prop where
  extended : Hierarchy.initial.Extends facts.hierarchy
  unwritten : ∀ place, ∀ method ∈ [Method.resolve, .logDenial],
    facts.store.find? place (Method.name method) = none

/-- Nobody wrote a name to any object or class. -/
def Facts.Unrenamed (facts : Facts) : Prop :=
  ∀ part ∈ [nameAttribute, "__qualname__"], ∀ place, facts.store.find? place part = none

namespace Facts.Resolves

variable {facts : Facts}

theorem member?_resolver (resolves : facts.Resolves) :
    ∀ method ∈ [Method.resolve, .logDenial],
      facts.member? (.known "FieldResolver") (Method.name method) = some (.method method) := by
  have library : ([Method.resolve, .logDenial].all fun method =>
      Hierarchy.initial.brings "FieldResolver" method.name method) = true := by
    decide +kernel
  intro method member
  exact Facts.member?_of_brings resolves.extended (resolves.unwritten · method member)
    (List.all_eq_true.mp library method member)

theorem read_resolve (resolves : facts.Resolves) (place : Site) (before after field : Value) :
    facts.read (.resolver place before after field) Method.resolve.name =
      .ok (.bound (.method .resolve) (.resolver place before after field)) := by
  have listed : Method.resolve ∈ [Method.resolve, .logDenial] := List.mem_cons_self
  exact Facts.read_method nofun rfl (resolves.unwritten _ _ listed) rfl rfl
    (resolves.member?_resolver _ listed) rfl

section Names

variable (resolves : facts.Resolves) (unrenamed : facts.Unrenamed) (function : Callable)

include resolves unrenamed

theorem member?_function :
    ∀ part ∈ [nameAttribute, "__qualname__"], facts.member? (.known "Fn") part = none := by
  have known : (Hierarchy.initial.lineage (.known "Fn")).all ClassId.isKnown = true := by
    decide +kernel
  have lacks : ([nameAttribute, "__qualname__"].all fun part =>
      ((Hierarchy.initial.lineage (.known "Fn")).findSome? fun ancestor =>
        entryOf? (Hierarchy.initial.members ancestor) part).isNone) = true := by
    decide +kernel
  intro part member
  rw [Facts.member?, Hierarchy.lineage_known resolves.extended,
    Facts.findSome?_memberAt? resolves.extended (unrenamed part member) known]
  exact Option.isNone_iff_eq_none.mp (List.all_eq_true.mp lacks part member)

theorem read?_function :
    facts.read? (.callable function) nameAttribute = function.name.map Value.str ∧
      facts.read? (.callable function) "__qualname__" = none := by
  have members : ∀ part ∈ [nameAttribute, "__qualname__"],
      facts.member? (Value.callable function).cls part = none := resolves.member?_function unrenamed
  have object : ∀ expr, Value.callable function ≠ .type expr := nofun
  simp only [Unrenamed, List.forall_mem_cons] at members unrenamed
  constructor
  · rw [Facts.read?_of_unwritten object (unrenamed.1 _), members.1]
    cases named : function.name <;> simp [Value.own, named, entryOf?, Value.slot?]
  · rw [Facts.read?_of_unwritten object (unrenamed.2.1 _), members.2.1]
    cases named : function.name <;> simp [Value.own, named, entryOf?, Value.slot?, nameAttribute]

theorem exists_wrapperName (site : Site) :
    ∃ shown, facts.wrapperName site (.callable function) = .ok shown := by
  obtain ⟨named, unqualified⟩ := resolves.read?_function unrenamed function
  simp only [Facts.wrapperName, named, unqualified]
  cases function.name <;> exact ⟨_, rfl⟩

theorem read_name {text : String} (isText : function.name = some text) :
    facts.read (.callable function) nameAttribute = .ok (.str text) := by
  apply Facts.read_of_held rfl
  rw [(resolves.read?_function unrenamed function).1, isText]
  rfl

end Names

end Facts.Resolves

/-- A function that is put behind guards, under a name for the field if one is given, and a call of what
that gives. -/
structure Decorated where
  scene : Scene
  depth : Nat
  guard : Option Guard
  post : Option PostGuard
  given : Value
  function : Value
  context : Value
  positional : List Value
  named : List (String × Value)
  declaring : Site
  making : Site
  site : Site
  resolves : scene.facts.Resolves
  fresh : ∀ part, scene.facts.store.find? (.object (making.child 0)) part = none

namespace Decorated

variable (field : Decorated)

def around : Surroundings := field.scene.within (field.depth + 4)

def before : Value := field.guard.elim .none .guard

def after : Value := field.post.elim .none .post

def arguments : Arguments := ⟨field.context :: field.positional, field.named⟩

def wrapping : Run Value := do
  let maker ← field.around.declare field.declaring .field ⟨[field.before, field.after, field.given], []⟩
  let answer ← field.around.call maker ⟨[field.function], []⟩ field.making
  pure (answer.unawaited field.making)

def run : Run Value := do
  let wrapper ← field.wrapping
  let answer ← field.around.call wrapper field.arguments field.site
  answer.await field.site

/-- The name of the field: the one that is given, or else that of the function. -/
def title : Except Fault Value := do
  if ← field.given.truth then pure field.given
  else field.scene.facts.read field.function nameAttribute

/-- The field has this name, and the wrapper takes over that of the function. -/
structure Titled (name : Value) (shown : Text) : Prop where
  title : field.title = .ok name
  shown : field.scene.facts.wrapperName field.making field.function = .ok shown

def object (name : Value) : Value :=
  .resolver (field.making.child 0) field.before field.after name

def resolution (name : Value) : Resolution where
  around := field.scene.within (field.depth + 1)
  logDenials := field.scene.configuration.logDenials
  guard := field.guard
  post := field.post
  name := name
  context := field.context
  function := field.function
  arguments := field.arguments
  site := field.site.child 0

variable {field} {name : Value} {shown : Text}

theorem make_object (name : Value) :
    Resolver.make field.scene.facts (field.making.child 0) field.before field.after name =
      .ok (field.object name) := by
  simp only [object, before, after]
  cases field.guard <;> cases field.post <;> rfl

theorem guardField_of_titled (titled : field.Titled name shown) :
    field.scene.facts.guardField field.making field.before field.after field.given field.function =
      .ok (.routine field.making (.guardedField (field.object name) field.function shown
        (field.scene.facts.held field.function))) := by
  obtain ⟨isGiven, truth, names⟩ := Attempt.bind_eq_ok.mp titled.title
  have tells : attempt field.making field.given.truth = .ok isGiven :=
    congrArg (attempt field.making) truth
  refine Attempt.bind_eq_ok.mpr ⟨isGiven, tells, ?_⟩
  -- Only where no name is given is the function asked for its own.
  cases isGiven with
  | true =>
      cases names
      exact Attempt.bind_eq_ok.mpr ⟨_, rfl, Attempt.bind_eq_ok.mpr ⟨_, field.make_object _,
        Attempt.bind_eq_ok.mpr ⟨_, titled.shown, rfl⟩⟩⟩
  | false =>
      have read : attempt field.making (field.scene.facts.read field.function nameAttribute) =
          .ok name := congrArg (attempt field.making) names
      exact Attempt.bind_eq_ok.mpr ⟨_, read, Attempt.bind_eq_ok.mpr ⟨_, field.make_object _,
        Attempt.bind_eq_ok.mpr ⟨_, titled.shown, rfl⟩⟩⟩

theorem guardField_of_untitled {fault : Fault} (untitled : field.title = .error fault) :
    field.scene.facts.guardField field.making field.before field.after field.given field.function =
      .error (.fault field.making fault) := by
  rw [title] at untitled
  rw [Facts.guardField]
  cases truth : field.given.truth with
  | error silent =>
      rw [truth] at untitled
      cases untitled
      rfl
  | ok isGiven =>
      rw [truth] at untitled
      cases isGiven with
      | true => exact nomatch untitled
      | false =>
          have unread : field.scene.facts.read field.function nameAttribute = .error fault := untitled
          change attempt _ (field.scene.facts.read _ _) >>= _ = _
          rw [unread]
          rfl

theorem wrapping_eq :
    field.wrapping = Scene.answered (field.scene.facts.guardField field.making field.before field.after
      field.given field.function) >>= fun answer => pure (answer.unawaited field.making) := rfl

/-- The wrapper asks the resolver object, and hands on all arguments with the context in front. -/
theorem run_eq_asked (titled : field.Titled name shown)
    (foreign : "context" ∉ field.named.map Prod.fst) :
    field.run = (do
      let answer ← (field.scene.within (field.depth + 1)).callMethod
        field.scene.configuration.logDenials .resolve
        ⟨field.object name :: field.context :: field.function :: field.context :: field.positional,
          field.named⟩ (field.site.child 0)
      answer.await (field.site.child 1)) := by
  have bound : Arguments.bindOpen? [.mandatory "context"] (field.arguments.positional.take 1)
      field.arguments.named = some ([some field.context], field.named) :=
    Arguments.bindOpen?_of_foreign ["context"] rfl (List.forall_mem_singleton.mpr foreign)
  have reads : (field.scene.within (field.depth + 3)).facts.read (field.object name)
      Method.resolve.name = .ok (.bound (.method .resolve) (field.object name)) :=
    field.resolves.read_resolve _ _ _ _
  rw [run, wrapping_eq, guardField_of_titled titled]
  change Scene.callGuarded (field.scene.within (field.depth + 3)) (field.object name) field.function
    shown field.arguments field.site >>= _ = _
  simp only [Scene.callGuarded, bound]
  change (field.scene.within (field.depth + 3)).ask (field.object name) _ _ _ >>= _ = _
  rw [Surroundings.ask, reads]
  -- What is left are the calls of the bound method and of the method itself, each one level deeper.
  rfl

theorem run_eq_resolution (titled : field.Titled name shown)
    (foreign : ∀ parameter ∈ ["self", "context", "resolver"],
      parameter ∉ field.named.map Prod.fst) :
    field.run = (field.resolution name).run := by
  have logs : field.scene.facts.member? (.known "FieldResolver") Method.logDenial.name =
      some (.method .logDenial) := field.resolves.member?_resolver _ (by simp)
  have handsOn : ∀ parameter ∈ ["self", "context", "resolver"].map Parameter.mandatory,
      Arguments.takeNamed parameter.name field.named = (none, field.named) :=
    List.forall_mem_map.mpr fun name member => Arguments.takeNamed_of_absent (foreign name member)
  have resolves := (field.resolution name).callMethod_resolve field.fresh logs handsOn
  rw [run_eq_asked titled (foreign _ (by simp))]
  exact congrArg (· >>= Answer.await (field.site.child 1)) resolves

theorem run_of_clash (titled : field.Titled name shown)
    (foreign : "context" ∉ field.named.map Prod.fst) {parameter : String}
    (reserved : parameter ∈ ["self", "context", "resolver"])
    (clash : parameter ∈ field.named.map Prod.fst) :
    field.run = Run.fail (field.site.child 0) (.badArguments "resolve") := by
  have unbound : Arguments.bindOpen? Method.resolve.parameters
      [field.object name, field.context, field.function] field.named = none :=
    Arguments.bindOpen?_of_clash rfl reserved clash
  have taken : (field.object name :: field.context :: field.function :: field.context ::
      field.positional).take Method.resolve.parameters.length =
        [field.object name, field.context, field.function] := rfl
  rw [run_eq_asked titled foreign]
  change Surroundings.callResolve _ _ _ _ >>= _ = _
  simp only [Surroundings.callResolve, taken, unbound]
  rfl

theorem titled_of_name {function : Callable} {text : String}
    (unrenamed : field.scene.facts.Unrenamed) (isFunction : field.function = .callable function)
    (empty : field.given.truth = .ok false) (isText : function.name = some text) :
    ∃ shown, field.Titled (.str text) shown := by
  obtain ⟨shown, shows⟩ := field.resolves.exists_wrapperName unrenamed function field.making
  rw [← isFunction] at shows
  refine ⟨shown, ?_, shows⟩
  rw [title, empty, isFunction]
  exact field.resolves.read_name unrenamed function isText

theorem exists_titled {function : Callable} (unrenamed : field.scene.facts.Unrenamed)
    (isFunction : field.function = .callable function)
    (nameable : field.given.truth = .ok true ∨
      field.given.truth = .ok false ∧ function.name.isSome = true) :
    ∃ name shown, field.Titled name shown := by
  rcases nameable with given | ⟨empty, named⟩
  · obtain ⟨shown, shows⟩ := field.resolves.exists_wrapperName unrenamed function field.making
    rw [← isFunction] at shows
    refine ⟨field.given, shown, ?_, shows⟩
    rw [title, given]
    rfl
  · obtain ⟨text, isText⟩ := Option.isSome_iff_exists.mp named
    exact ⟨_, titled_of_name unrenamed isFunction empty isText⟩

/-- The guards and the function have their turns, and what the function raises or gives comes through. -/
structure Forwards (field : Decorated) (name : Value) : Prop where
  raises : ∀ {cause}, (field.resolution name).resolving.result = .error cause →
    field.run.result = .error cause ∧
      field.run.events = (field.resolution name).guarding.events ++
        (field.resolution name).resolving.events
  gives : ∀ {value}, (field.resolution name).resolving.result = .ok value →
    ((field.resolution name).releasing value).Allows →
      field.run.result = .ok (.released (field.site.child 0) name value) ∧
        field.run.events = (field.resolution name).guarding.events ++
          ((field.resolution name).resolving.events ++ ((field.resolution name).releasing value).events)

/-- A wrapper hands on all of its arguments to the function, and what that gives or raises comes through.
This is not so where the arguments name a parameter of the resolver: then the call fails, and nobody is
asked. Functions that have a name can be wrapped, and others under a name that is given for the field. -/
theorem forwards_unless_reserved (field : Decorated)
    (foreign : "context" ∉ field.named.map Prod.fst) :
    (∀ name shown, field.Titled name shown →
      ("self" ∉ field.named.map Prod.fst → "resolver" ∉ field.named.map Prod.fst →
        (field.resolution name).guarding.Allows → field.Forwards name) ∧
      ("self" ∈ field.named.map Prod.fst ∨ "resolver" ∈ field.named.map Prod.fst →
        field.run.result = .error (.fault (field.site.child 0) (.badArguments "resolve")) ∧
          field.run.events = [])) ∧
    (∀ fault, field.title = .error fault →
      field.run.result = .error (.fault field.making fault) ∧ field.run.events = []) ∧
    ∀ function : Callable, field.function = .callable function →
      (function.mode ≠ .sync → ∀ name, (field.resolution name).resolving.Agrees (do
        Run.invoke function.label ⟨field.context :: field.positional, field.named⟩
        function.reply (field.scene.within field.depth) field.arguments
          ((field.site.child 0).child 1))) ∧
      (field.scene.facts.Unrenamed →
        field.given.truth = .ok true ∨ field.given.truth = .ok false ∧ function.name.isSome = true →
        ∃ name shown, field.Titled name shown) := by
  refine ⟨fun name shown titled => ⟨?_, ?_⟩, ?_, ?_⟩
  · intro noSelf noResolver allows
    have apart : ∀ parameter ∈ ["self", "context", "resolver"],
        parameter ∉ field.named.map Prod.fst := by
      simp only [List.forall_mem_cons]
      exact ⟨noSelf, foreign, noResolver, List.forall_mem_nil _⟩
    have resolves := run_eq_resolution titled apart
    constructor
    · intro cause raises
      rw [resolves]
      exact Resolution.run_of_raise allows raises
    · intro value gives releases
      rw [resolves]
      exact Resolution.run_of_release allows gives releases
  · intro clash
    have failed : field.run = Run.fail (field.site.child 0) (.badArguments "resolve") := by
      rcases clash with clash | clash
      · exact run_of_clash titled foreign (by simp) clash
      · exact run_of_clash titled foreign (by simp) clash
    rw [failed]
    exact ⟨rfl, rfl⟩
  · intro fault untitled
    rw [run, wrapping_eq, guardField_of_untitled untitled]
    exact ⟨rfl, rfl⟩
  · intro function isFunction
    refine ⟨fun later name => ?_, fun unrenamed => exists_titled unrenamed isFunction⟩
    rw [Resolution.resolving, resolution, isFunction]
    exact function.await_call later _

theorem initial_resolves : Session.initial.scene.facts.Resolves where
  extended := Session.initial_extends
  unwritten := fun _ _ _ => rfl

/-- A function without guards that gives its second argument, and a call with one named argument. -/
def paged (name : String) : Decorated where
  scene := Session.initial.scene
  depth := 0
  guard := none
  post := none
  given := .none
  function := .callable ⟨⟨[0]⟩, some "page", "page", .async, 1, .argument 1⟩
  context := .none
  positional := [.int 7]
  named := [(name, .str "dns")]
  declaring := ⟨[1]⟩
  making := ⟨[2]⟩
  site := ⟨[3]⟩
  resolves := initial_resolves
  fresh := fun _ => rfl

theorem paged_titled (name : String) : ∃ shown, (paged name).Titled (.str "page") shown :=
  titled_of_name (fun _ _ _ => rfl) rfl rfl rfl

theorem forwards_named_limit :
    (paged "limit").run.result =
        .ok (.released ((paged "limit").site.child 0) (.str "page") (.int 7)) ∧
      (paged "limit").run.events = [.invoked "page" ⟨[.none, .int 7], [("limit", .str "dns")]⟩] := by
  obtain ⟨shown, titled⟩ := paged_titled "limit"
  have foreign : "context" ∉ (paged "limit").named.map Prod.fst := by simp [paged]
  obtain ⟨called, -⟩ := forwards_unless_reserved (paged "limit") foreign
  have forwards := (called _ _ titled).1 (by simp [paged]) (by simp [paged]) ⟨_, rfl, .result rfl⟩
  exact forwards.gives rfl ⟨_, rfl, .result rfl⟩

/-- The function is not asked where an argument has the name of a parameter of the resolver. -/
theorem not_forwards_named_resolver :
    "context" ∉ (paged "resolver").named.map Prod.fst ∧
      ((paged "resolver").resolution (.str "page")).guarding.Allows ∧
      ((paged "resolver").resolution (.str "page")).resolving.result = .ok (.int 7) ∧
      (paged "resolver").run.result =
        .error (.fault ((paged "resolver").site.child 0) (.badArguments "resolve")) ∧
      (paged "resolver").run.events = [] := by
  obtain ⟨shown, titled⟩ := paged_titled "resolver"
  have foreign : "context" ∉ (paged "resolver").named.map Prod.fst := by simp [paged]
  have failed : (paged "resolver").run = Run.fail _ (.badArguments "resolve") :=
    run_of_clash titled foreign (by simp) (List.mem_singleton_self "resolver")
  rw [failed]
  exact ⟨foreign, ⟨_, rfl, .result rfl⟩, rfl, rfl, rfl⟩

end Decorated

end GuardAlgebra
