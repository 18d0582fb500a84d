import GuardAlgebra.Call.Routine
import GuardAlgebra.Proofs.Pairs

namespace GuardAlgebra

/-! # Calling styles

A callable of the application answers at once, or with a coroutine or another awaitable object. A guard
over it makes the same of the reply, and neither the style nor the number of pauses is to be seen in the
result of a tree or in what its check does. A computation is the one reply that cannot be given at once:
it would be awaited, as a coroutine is.
-/

namespace Scene

def within (scene : Scene) (depth : Nat) : Surroundings := ⟨scene.facts, scene.callWithin depth⟩

end Scene

namespace Callable

variable {around : Surroundings} {one other function : Callable} {arguments : Arguments} {site : Site}

/-- What the callable replies with once it was waited for, which can be another computation. -/
def reply (around : Surroundings) (function : Callable) (arguments : Arguments) (site : Site) :
    Run Value :=
  if function.mode = .nested then .done (.pending site) else function.outcome around arguments site

/-- The callable answers at once with values that are no computations, if it answers at once. -/
def Plain (around : Surroundings) (function : Callable) (arguments : Arguments) (site : Site) : Prop :=
  function.mode = .sync →
    ∀ value place, (function.outcome around arguments site).result = .ok value → value ≠ .pending place

/-- The same callable in another style, and with other pauses. -/
structure Restyles (one other : Callable) : Prop where
  label : one.label = other.label
  body : one.body = other.body
  nested : one.mode = .nested ↔ other.mode = .nested

theorem Restyles.reply_eq (restyles : one.Restyles other) :
    one.reply around arguments site = other.reply around arguments site := by
  simp only [reply, outcome, restyles.label, restyles.body, restyles.nested]

theorem settle_call (around : Surroundings) (function : Callable) (arguments : Arguments) (site : Site) :
    (function.call around arguments site >>= Answer.settle).Agrees
      (Run.invoke function.label arguments >>= fun _ => function.reply around arguments site) := by
  rw [call, bind_assoc]
  refine (Run.Agrees.refl _).bind fun _ _ => ?_
  cases mode : function.mode with
  | sync =>
      rw [reply, mode, if_neg nofun, bind_assoc]
      change (function.outcome around arguments site >>= pure).Agrees _
      rw [bind_pure]
      exact .refl _
  | async | awaitable =>
      rw [reply, mode, if_neg nofun]
      exact .pauses _ 0 (.refl _)
  | nested =>
      rw [reply, mode, if_pos rfl]
      exact .pauses _ 0 (.refl _)

theorem await_call (later : function.mode ≠ .sync) (place : Site) :
    (function.call around arguments site >>= Answer.await place).Agrees
      (Run.invoke function.label arguments >>= fun _ => function.reply around arguments site) := by
  have same : function.call around arguments site >>= Answer.await place =
      function.call around arguments site >>= Answer.settle := by
    rw [call, bind_assoc, bind_assoc]
    congr 1
    funext _
    cases mode : function.mode with
    | sync => exact absurd mode later
    | async | awaitable | nested => rfl
  rw [same]
  exact function.settle_call around arguments site

end Callable

/-- What a guard over a callable gives for a reply: a result comes through, and what is neither a result
nor a truth value is refused. -/
inductive Judges (site : Site) (error : Value) : Attempt Value → Attempt Value → Prop where
  | allows : Judges site error (.ok (.bool true)) (.ok (.result site (.bool true) .none))
  | denies : Judges site error (.ok (.bool false)) (.ok (.result site (.bool false) error))
  | passes {place : Site} {allowed carried : Value} :
      Judges site error (.ok (.result place allowed carried)) (.ok (.result place allowed carried))
  | refuses {value : Value} {fault : Fault} (noTruth : ∀ truth, value ≠ .bool truth)
      (noResult : ∀ place allowed carried, value ≠ .result place allowed carried)
      (isBadReply : fault = .badReply value.typeName) (isTypeError : fault.className = "TypeError") :
      Judges site error (.ok value) (.error (.fault site fault))
  | raises {cause : Exception} : Judges site error (.error cause) (.error cause)

/-- A computation that a callable replies with is not waited for. -/
theorem Judges.refused {site place : Site} {error : Value} {outcome : Attempt Value}
    (judges : Judges site error (.ok (.pending place)) outcome) :
    outcome = .error (.fault site (.badReply "coroutine")) := by
  cases judges with
  | refuses noTruth noResult isBadReply isTypeError => rw [isBadReply]; rfl

theorem Value.judges_verdict (site : Site) (reply error : Value) :
    Judges site error (.ok reply) (reply.verdict site error) := by
  cases reply with
  | result place allowed carried => exact .passes
  | bool truth => cases truth with
    | true => exact .allows
    | false => exact .denies
  | _ => exact .refuses nofun nofun rfl rfl

namespace Callable

def judged (around : Surroundings) (function : Callable) (error : Value) (arguments : List Value)
    (site : Site) : Run Value := do
  Run.invoke function.label ⟨arguments, []⟩
  let reply ← function.reply around ⟨arguments, []⟩ (site.child 0)
  .ofAttempt (reply.verdict site error)

theorem Restyles.judged_eq {around : Surroundings} {one other : Callable} {error : Value}
    {arguments : List Value} {site : Site} (restyles : one.Restyles other) :
    one.judged around error arguments site = other.judged around error arguments site := by
  simp only [judged, restyles.label, restyles.reply_eq]

theorem judges_judged (around : Surroundings) (function : Callable) (error : Value)
    (arguments : List Value) (site : Site) :
    Judges site error (function.reply around ⟨arguments, []⟩ (site.child 0)).result
      (function.judged around error arguments site).result := by
  change Judges site error _ (function.reply around ⟨arguments, []⟩ (site.child 0) >>= _).result
  cases ended : (function.reply around ⟨arguments, []⟩ (site.child 0)).result with
  | ok reply =>
      rw [Run.result_bind_of_ok ended, Run.result_ofAttempt]
      exact reply.judges_verdict site error
  | error cause =>
      rw [Run.result_bind_of_error ended]
      exact .raises

end Callable

namespace Scene

variable {scene : Scene} {depth : Nat} {error : Value} {arguments : List Value} {site : Site}

theorem consult_callable (function : Callable) :
    ((scene.within (depth + 1)).consult (.callable function) error arguments site).Agrees
      (function.judged (scene.within depth) error arguments site) := by
  have settled := function.settle_call (scene.within depth) ⟨arguments, []⟩ (site.child 0)
  have judged := settled.bind fun reply _ => .refl (.ofAttempt (reply.verdict site error))
  rw [bind_assoc, bind_assoc] at judged
  exact judged

theorem consult_restyled {one other : Callable} (restyles : one.Restyles other) :
    ((scene.within (depth + 1)).consult (.callable one) error arguments site).Agrees
      ((scene.within (depth + 1)).consult (.callable other) error arguments site) := by
  refine (scene.consult_callable one).trans ?_
  rw [restyles.judged_eq]
  exact (scene.consult_callable other).symm

theorem judges_consult (function : Callable) (depth : Nat) (error : Value) (arguments : List Value)
    (site : Site) :
    Judges site error (function.reply (scene.within depth) ⟨arguments, []⟩ (site.child 0)).result
      ((scene.within (depth + 1)).consult (.callable function) error arguments site).result := by
  rw [(scene.consult_callable function).result]
  exact function.judges_judged (scene.within depth) error arguments site

end Scene

variable {scene : Scene} {depth : Nat} {context value : Value}

/-- Leaves at one site, the same but for the styles and pauses of callables and the pauses of
application leaves. -/
inductive Guard.Restyled (scene : Scene) (depth : Nat) (context : Value) :
    Placed Guard → Placed Guard → Prop where
  | kept (leaf : Placed Guard) : Restyled scene depth context leaf leaf
  | function {place site : Site} {one other : Callable} {error name : Value}
      (restyles : one.Restyles other)
      (plain : one.Plain (scene.within depth) ⟨[context], []⟩ (site.child 0))
      (otherPlain : other.Plain (scene.within depth) ⟨[context], []⟩ (site.child 0)) :
      Restyled scene depth context ⟨.function place (.callable one) error name, site⟩
        ⟨.function place (.callable other) error name, site⟩
  | leaf {place site : Site} {cls : ClassId} {given other : Leaf} (name : given.name = other.name)
      (reply : given.reply = other.reply)
      (itself : scene.facts.checksItself (.guard (.leaf place cls given)) = true)
      (otherItself : scene.facts.checksItself (.guard (.leaf place cls other)) = true) :
      Restyled scene depth context ⟨.leaf place cls given, site⟩ ⟨.leaf place cls other, site⟩

inductive PostGuard.Restyled (scene : Scene) (depth : Nat) (context value : Value) :
    Placed PostGuard → Placed PostGuard → Prop where
  | kept (leaf : Placed PostGuard) : Restyled scene depth context value leaf leaf
  | function {place site : Site} {one other : Callable} {pin error resultType name : Value}
      (restyles : one.Restyles other)
      (plain : one.Plain (scene.within depth) ⟨[context, value], []⟩ (site.child 0))
      (otherPlain : other.Plain (scene.within depth) ⟨[context, value], []⟩ (site.child 0)) :
      Restyled scene depth context value
        ⟨.function place pin (.callable one) error resultType name, site⟩
        ⟨.function place pin (.callable other) error resultType name, site⟩
  | leaf {place site : Site} {cls : ClassId} {kin : List String} {pin : Value} {given other : Leaf}
      (name : given.name = other.name) (reply : given.reply = other.reply)
      (itself : scene.facts.checksItself (.post (.leaf place cls kin pin given)) = true)
      (otherItself : scene.facts.checksItself (.post (.leaf place cls kin pin other)) = true) :
      Restyled scene depth context value ⟨.leaf place cls kin pin given, site⟩
        ⟨.leaf place cls kin pin other, site⟩

namespace Guard

theorem Restyled.agrees {one other : Placed Guard} (restyled : Restyled scene depth context one other) :
    one.site = other.site ∧
      (one.check (scene.within (depth + 1)) context).Agrees
        (other.check (scene.within (depth + 1)) context) := by
  cases restyled with
  | kept => exact ⟨rfl, .refl _⟩
  | function restyles plain otherPlain => exact ⟨rfl, scene.consult_restyled restyles⟩
  | leaf name reply itself otherItself =>
      refine ⟨rfl, ?_, ?_⟩
      · simp only [Placed.check]
        rw [events_leaf_check _ _ itself, events_leaf_check _ _ otherItself, name]
      · simp only [Placed.check]
        rw [result_leaf_check _ _ itself, result_leaf_check _ _ otherItself, reply]

theorem Paired.agrees {around : Surroundings} {relates : Placed Guard → Placed Guard → Prop}
    {one other : Placed Guard} (paired : Paired relates one other)
    (agree : ∀ leaf another, relates leaf another →
      leaf.site = another.site ∧ (leaf.check around context).Agrees (another.check around context)) :
    one.site = other.site ∧ (one.check around context).Agrees (other.check around context) := by
  induction paired with
  | leaf isLeaf isOther related => exact agree _ _ related
  | pair operator place away before after leftIH rightIH =>
      obtain ⟨sites, left⟩ := leftIH
      obtain ⟨-, right⟩ := rightIH
      -- The leaves stand at one site in both trees, so what is made of their results is made at one too.
      obtain ⟨-, rfl⟩ := Site.child_inj.mp sites
      refine ⟨rfl, ?_⟩
      simp only [Placed.check, check_pair]
      exact left.bind fun first _ => right.bind fun second _ => .refl _

end Guard

namespace PostGuard

theorem Restyled.agrees {one other : Placed PostGuard}
    (restyled : Restyled scene depth context value one other) :
    one.site = other.site ∧
      (one.inspect (scene.within (depth + 1)) context value).Agrees
        (other.inspect (scene.within (depth + 1)) context value) := by
  cases restyled with
  | kept => exact ⟨rfl, .refl _⟩
  | function restyles plain otherPlain => exact ⟨rfl, scene.consult_restyled restyles⟩
  | leaf name reply itself otherItself =>
      refine ⟨rfl, ?_, ?_⟩
      · simp only [Placed.inspect]
        rw [events_leaf_check _ _ _ itself, events_leaf_check _ _ _ otherItself, name]
      · simp only [Placed.inspect]
        rw [result_leaf_check _ _ _ itself, result_leaf_check _ _ _ otherItself, reply]

theorem Paired.agrees {around : Surroundings} {relates : Placed PostGuard → Placed PostGuard → Prop}
    {one other : Placed PostGuard} (paired : Paired relates one other)
    (agree : ∀ leaf another, relates leaf another → leaf.site = another.site ∧
      (leaf.inspect around context value).Agrees (another.inspect around context value)) :
    one.site = other.site ∧
      (one.inspect around context value).Agrees (other.inspect around context value) := by
  induction paired with
  | leaf isLeaf isOther related => exact agree _ _ related
  | both before after leftIH rightIH =>
      obtain ⟨sites, left⟩ := leftIH
      obtain ⟨-, right⟩ := rightIH
      obtain ⟨-, rfl⟩ := Site.child_inj.mp sites
      refine ⟨rfl, left.bind fun first _ => (Run.Agrees.refl _).bind fun allows _ => ?_⟩
      -- The right part is not asked in either tree unless the left one allows.
      cases allows with
      | true => exact right
      | false => exact .refl _

end PostGuard

/-- Neither the calling styles of callables nor the pauses of callables and leaves are to be seen in what
a check of a tree does and how it ends. Whatever the style, a guard over a callable makes the same of the
reply, and a reply that is another computation is refused. -/
theorem styles_make_no_difference (scene : Scene) (depth : Nat) (context value : Value) (site : Site) :
    (∀ tree other : Guard,
      Guard.Paired (Guard.Restyled scene depth context) ⟨tree, site⟩ ⟨other, site⟩ →
        (tree.check (scene.within (depth + 1)) context site).Agrees
          (other.check (scene.within (depth + 1)) context site)) ∧
    (∀ tree other : PostGuard,
      PostGuard.Paired (PostGuard.Restyled scene depth context value) ⟨tree, site⟩ ⟨other, site⟩ →
        (tree.check (scene.within (depth + 1)) context value site).Agrees
          (other.check (scene.within (depth + 1)) context value site)) ∧
    (∀ place function error name,
      let reply := Callable.reply (scene.within depth) function ⟨[context], []⟩ (site.child 0)
      let check := (Guard.function place (.callable function) error name).check
        (scene.within (depth + 1)) context site
      function.Plain (scene.within depth) ⟨[context], []⟩ (site.child 0) →
        Judges site error reply.result check.result ∧
        ∀ pending, reply.result = .ok (.pending pending) →
          check.result = .error (.fault site (.badReply "coroutine"))) ∧
    ∀ place pin function error resultType name,
      let reply := Callable.reply (scene.within depth) function ⟨[context, value], []⟩ (site.child 0)
      let check := (PostGuard.function place pin (.callable function) error resultType name).check
        (scene.within (depth + 1)) context value site
      function.Plain (scene.within depth) ⟨[context, value], []⟩ (site.child 0) →
        Judges site error reply.result check.result ∧
        ∀ pending, reply.result = .ok (.pending pending) →
          check.result = .error (.fault site (.badReply "coroutine")) := by
  refine ⟨?_, ?_, ?_, ?_⟩
  · intro tree other paired
    exact (paired.agrees fun _ _ restyled => restyled.agrees).2
  · intro tree other paired
    exact (paired.agrees fun _ _ restyled => restyled.agrees).2
  · intro place function error name reply check plain
    have judges := scene.judges_consult function depth error [context] site
    exact ⟨judges, fun pending replied => (replied ▸ judges : Judges site error _ _).refused⟩
  · intro place pin function error resultType name reply check plain
    have judges := scene.judges_consult function depth error [context, value] site
    exact ⟨judges, fun pending replied => (replied ▸ judges : Judges site error _ _).refused⟩

/-- A test that is answered at once, or by a coroutine or another awaitable object that pauses, beside a
leaf that pauses or does not; and a coroutine that gives a computation. -/
theorem styles_of_test :
    let scene := Session.furnished.scene
    let around := scene.within 1
    let test (mode : Mode) (pauses : Nat) : Callable :=
      ⟨⟨[0]⟩, some "isMember", "isMember", mode, pauses, .test .authenticated⟩
    let audit (pauses : Nat) : Guard :=
      .leaf ⟨[1]⟩ Session.leafClass ⟨"audit", pauses, .gives (.result ⟨[2]⟩ (.bool true) .none)⟩
    let guard (mode : Mode) (pauses : Nat) : Guard :=
      .function ⟨[3]⟩ (.callable (test mode pauses)) (.str "unknown") .none
    let tree (mode : Mode) (pauses leafPauses : Nat) : Guard :=
      .both ⟨[4]⟩ (audit leafPauses) (guard mode pauses)
    let nobody := Value.context ⟨[5]⟩ .none .none .none (.dict ⟨[6]⟩ [])
    ((tree .sync 0 0).check around nobody .root).Agrees
        ((tree .awaitable 3 1).check around nobody .root) ∧
      ((guard .async 2).check around nobody .root).result =
        .ok (.result .root (.bool false) (.str "unknown")) ∧
      ((guard .nested 2).check around nobody .root).result =
        .error (.fault .root (.badReply "coroutine")) := by
  intro scene around test audit guard tree nobody
  have itself : scene.facts.checksItself (.guard (audit 0)) = true := by decide +kernel
  have pausing : scene.facts.checksItself (.guard (audit 1)) = true := by decide +kernel
  clear_value scene
  obtain ⟨trees, -, guards, -⟩ := styles_make_no_difference scene 0 nobody .none .root
  have plain (mode : Mode) (pauses : Nat) (site : Site) :
      (test mode pauses).Plain (scene.within 0) ⟨[nobody], []⟩ site := by
    rintro - value place given rfl
    exact nomatch given
  refine ⟨trees _ _ ?_, ?_, ?_⟩
  · refine .pair .and _ _ (.leaf rfl rfl (.leaf rfl rfl itself pausing)) (.leaf rfl rfl ?_)
    exact .function ⟨rfl, rfl, by decide⟩ (plain _ _ _) (plain _ _ _)
  · rfl
  · exact (guards ⟨[3]⟩ (test .nested 2) (.str "unknown") .none (plain _ _ _)).2 _ rfl

end GuardAlgebra
