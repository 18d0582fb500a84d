import GuardAlgebra.Proofs.Denials
import GuardAlgebra.Proofs.Eagerness
import GuardAlgebra.Proofs.Inert
import GuardAlgebra.Request.Admission

namespace GuardAlgebra

/-! # Closed unless allowed

A leaf can give anything at all, and connectives hand on what they are given. What is no result does
not get through as long as it is inert: whatever a check gives is inert in turn, or a result that
allows only where the formula of the tree says so.
-/

/-- What a check may give, where the formula says whether it should allow: a result that allows only
if the formula holds, or an inert value. -/
inductive Honest (facts : Facts) (formula : Prop) : Value → Prop where
  | result {place : Site} {allowed error : Value} (sound : allowed.truth = .ok true → formula) :
      Honest facts formula (.result place allowed error)
  | inert {value : Value} (inert : Inert facts value) : Honest facts formula value

/-- A formula over two parts that holds as soon as those parts do which the given result speaks for:
both if it is the second one and the first allowed, and else the one it is of. -/
structure Speaks (goesOn : Bool → Bool) (left right formula : Prop) : Prop where
  second : ∀ truth, goesOn truth = true → (truth = true → left) → right → formula
  first : goesOn true = false → left → formula

theorem speaks_and {left right : Prop} : Speaks id left right (left ∧ right) where
  second _ allows one other := ⟨one allows, other⟩
  first stops := nomatch stops

theorem speaks_or {left right : Prop} : Speaks not left right (left ∨ right) where
  second _ _ _ other := .inr other
  first _ one := .inl one

section Connective

variable {scene : Scene} {depth : Nat} {site : Site} {left right formula : Prop} {name : String}
  {goesOn : Bool → Bool} {combine : Value → Value → Run Value} {first second given : Value}

theorem honest_of_connects
    (connects : Connects ⟨scene.facts, scene.callWithin depth⟩ site combine name goesOn)
    (jointsInert : ∀ value, Joint site value → Inert scene.facts value)
    (speaks : Speaks goesOn left right formula)
    (one : Honest scene.facts left first) (other : Honest scene.facts right second)
    (gives : (combine first second).result = .ok given) : Honest scene.facts formula given := by
  cases one with
  | inert inert =>
      rw [connects.asks inert.foreign] at gives
      exact .inert (jointsInert given (joint_of_demand inert connects.named gives))
  | @result place allowed error sound =>
      cases valued : allowed.truth with
      | error fault =>
          rw [connects.fails valued] at gives
          exact nomatch gives
      | ok truth =>
          rw [connects.decides (.result valued), Run.result_done, Except.ok.injEq] at gives
          cases choice : goesOn truth with
          | true =>
              -- The second value is handed on unseen, so it may be inert after all.
              simp only [choice, ↓reduceIte] at gives
              rw [← gives]
              cases other with
              | inert inert => exact .inert inert
              | result tells =>
                  refine .result fun allows => speaks.second truth choice ?_ (tells allows)
                  rintro rfl
                  exact sound valued
          | false =>
              simp only [choice, Bool.false_eq_true, ↓reduceIte] at gives
              rw [← gives]
              refine .result fun allows => ?_
              rw [valued, Except.ok.injEq] at allows
              subst allows
              exact speaks.first choice (sound valued)

theorem honest_of_parts {leftRun rightRun : Run Value} {leftQuiet rightQuiet : Prop}
    (connects : Connects ⟨scene.facts, scene.callWithin depth⟩ site combine name goesOn)
    (jointsInert : ∀ value, Joint site value → Inert scene.facts value)
    (speaks : Speaks goesOn left right formula)
    (leftHonest : ∀ {first}, leftRun.result = .ok first →
      leftQuiet ∧ Honest scene.facts left first)
    (rightHonest : ∀ {second}, rightRun.result = .ok second →
      rightQuiet ∧ Honest scene.facts right second)
    (gives : (leftRun >>= fun first => rightRun >>= fun second => combine first second).result =
      .ok given) :
    (leftQuiet ∧ rightQuiet) ∧ Honest scene.facts formula given := by
  obtain ⟨first, leftGives, gives⟩ := Run.result_bind_eq_ok.mp gives
  obtain ⟨second, rightGives, gives⟩ := Run.result_bind_eq_ok.mp gives
  obtain ⟨leftQuiet, one⟩ := leftHonest leftGives
  obtain ⟨rightQuiet, other⟩ := rightHonest rightGives
  exact ⟨⟨leftQuiet, rightQuiet⟩,
    honest_of_connects connects jointsInert speaks one other gives⟩

end Connective

namespace Guard

/-- Whether the formula of a tree holds, where each leaf counts as true when it gives a result that
allows. A function leaf counts by what its function comes to answer: such a result, or true. -/
def Holds (around : Surroundings) (context : Value) : Guard → Site → Prop
  | .both _ left right, site =>
      left.Holds around context (site.child 0) ∧ right.Holds around context (site.child 1)
  | .either _ left right, site =>
      left.Holds around context (site.child 0) ∨ right.Holds around context (site.child 1)
  | .function _ callable _ _, site =>
      ∃ answer reply, (around.call callable ⟨[context], []⟩ (site.child 0)).result = .ok answer ∧
        answer.settle.result = .ok reply ∧ (reply = .bool true ∨ reply.Decides true)
  | tree, site => (tree.check around context site).Allows
termination_by structural tree => tree

/-- No leaf of the tree raises, and its formula holds. -/
def Clears (around : Surroundings) (context : Value) (tree : Guard) (site : Site) : Prop :=
  (∀ leaf ∈ tree.leaves site, ∃ value, (leaf.check around context).result = .ok value) ∧
    tree.Holds around context site

/-- Whatever leaves of the tree give is a result or inert, and so are the guards that its connectives
make of what is no result. -/
structure Tame (around : Surroundings) (context : Value) (tree : Guard) (site : Site) : Prop where
  leaves : ∀ leaf ∈ tree.leaves site, ∀ value, (leaf.check around context).result = .ok value →
    (∃ place allowed error, value = .result place allowed error) ∨ Inert around.facts value
  joints : ∀ turns value, Joint ⟨turns ++ site.path⟩ value → Inert around.facts value

section Tree

variable {scene : Scene} {depth : Nat} {context given : Value} {tree left right : Guard}
  {site : Site}

/-- What stands below a part of a tree stands below the tree. -/
theorem Tame.part {around : Surroundings} {whole part : Guard} {turn : Nat}
    (tame : Tame around context whole site)
    (within : ∀ leaf ∈ part.leaves (site.child turn), leaf ∈ whole.leaves site) :
    Tame around context part (site.child turn) := by
  constructor
  · intro leaf member value gives
    exact tame.leaves leaf (within leaf member) value gives
  · intro turns value joint
    apply tame.joints (turns ++ [turn]) value
    rw [List.append_assoc]
    exact joint

theorem Tame.joint {around : Surroundings} {value : Value} {turn : Nat}
    (tame : Tame around context tree site) (joint : Joint (site.child turn) value) :
    Inert around.facts value := tame.joints [turn] value joint

/-- A function leaf allows only what its function answers with true or a result that allows. -/
theorem function_holds {around : Surroundings} {place : Site} {callable error name : Value}
    (allows : ((Guard.function place callable error name).check around context site).Allows) :
    (Guard.function place callable error name).Holds around context site := by
  obtain ⟨result, gives, decided⟩ := allows
  obtain ⟨answer, called, gives⟩ := Run.result_bind_eq_ok.mp gives
  obtain ⟨reply, settled, verdict⟩ := Run.result_bind_eq_ok.mp gives
  refine ⟨answer, reply, called, settled, ?_⟩
  rw [Run.result_ofAttempt] at verdict
  cases reply with
  | result place allowed error =>
      cases verdict
      exact .inr decided
  | bool truth =>
      cases truth with
      | true => exact .inl rfl
      | false =>
          cases verdict
          exact nomatch decided
  | _ => exact nomatch verdict

theorem holds_of_leaf {around : Surroundings} (isLeaf : tree.isLeaf = true)
    (allows : (tree.check around context site).Allows) : tree.Holds around context site := by
  cases tree with
  | both place left right => exact nomatch isLeaf
  | either place left right => exact nomatch isLeaf
  | function place callable error name => exact function_holds allows
  | allowAll place => exact allows
  | denyAll place error => exact allows
  | leaf place given => exact allows

/-- A check that gives anything has asked every leaf, and gives something honest about the formula. -/
theorem honest_of_check
    (tame : tree.Tame ⟨scene.facts, scene.callWithin depth⟩ context site)
    (gives : (tree.check ⟨scene.facts, scene.callWithin depth⟩ context site).result = .ok given) :
    (∀ leaf ∈ tree.leaves site, ∃ value,
        (leaf.check ⟨scene.facts, scene.callWithin depth⟩ context).result = .ok value) ∧
      Honest scene.facts (tree.Holds ⟨scene.facts, scene.callWithin depth⟩ context site) given := by
  induction tree using treeInduction generalizing site given with
  | both place left right leftIH rightIH =>
      have leftTame := tame.part fun leaf member => List.mem_append_left _ member
      have rightTame := tame.part fun leaf member => List.mem_append_right _ member
      obtain ⟨quiet, honest⟩ := honest_of_parts (Surroundings.connects_meet _ _)
        (fun value joint => tame.joint joint) speaks_and (leftIH leftTame) (rightIH rightTame) gives
      exact ⟨List.forall_mem_append.mpr quiet, honest⟩
  | either place left right leftIH rightIH =>
      have leftTame := tame.part fun leaf member => List.mem_append_left _ member
      have rightTame := tame.part fun leaf member => List.mem_append_right _ member
      obtain ⟨quiet, honest⟩ := honest_of_parts (Surroundings.connects_join _ _)
        (fun value joint => tame.joint joint) speaks_or (leftIH leftTame) (rightIH rightTame) gives
      exact ⟨List.forall_mem_append.mpr quiet, honest⟩
  | leaf tree isLeaf =>
      have leaves := leaves_of_leaf isLeaf site
      have only : Placed.mk tree site ∈ tree.leaves site := by
        rw [leaves]
        exact List.mem_singleton_self _
      constructor
      · rw [leaves]
        exact List.forall_mem_singleton.mpr ⟨given, gives⟩
      · rcases tame.leaves _ only given gives with ⟨place, allowed, error, rfl⟩ | inert
        · exact .result fun valued => holds_of_leaf isLeaf ⟨_, gives, .result valued⟩
        · exact .inert inert

/-- A stage lets a run go on only if its guard clears. -/
theorem clears_of_denial? (tame : tree.Tame ⟨scene.facts, scene.callWithin depth⟩ context
      (site.child 0))
    (passes : (Surroundings.denial? ⟨scene.facts, scene.callWithin depth⟩ (.guard tree) [context]
      site).result = .ok none) :
    tree.Clears ⟨scene.facts, scene.callWithin depth⟩ context (site.child 0) := by
  rw [Surroundings.denial?_guard] at passes
  obtain ⟨result, gives, judged⟩ := Run.result_bind_eq_ok.mp passes
  obtain ⟨quiet, honest⟩ := honest_of_check tame gives
  obtain ⟨truth, allows, judged⟩ := Run.result_bind_eq_ok.mp judged
  rw [Run.result_ofAttempt] at allows
  refine ⟨quiet, ?_⟩
  cases honest with
  | inert inert =>
      obtain ⟨fault, silent⟩ := inert.not_allows (site.child 1)
      exact nomatch silent.symm.trans allows
  | @result place allowed error sound =>
      cases valued : allowed.truth with
      | error fault => exact nomatch (Value.allows_of_undecided valued).symm.trans allows
      | ok verdict =>
          cases (Value.allows_of_decides scene.facts (site.child 1) (.result valued)).symm.trans allows
          cases truth with
          | true => exact sound valued
          | false =>
              obtain ⟨error, carried, given⟩ := Run.result_bind_eq_ok.mp judged
              exact nomatch given

/-- Where a guard does not let a run go on, how the field would be resolved makes no difference: the
run asks the guard and nothing else, then raises or gives a denial. -/
theorem closed_of_shut (around : Surroundings) (logDenials after name function : Value)
    (arguments : Arguments)
    (shut : (around.denial? (.guard tree) [context] (site.child 0)).result ≠ .ok none) :
    let resolve (function : Value) (arguments : Arguments) : Run Value :=
      around.resolve logDenials (.whole (.guard tree) after name) context function arguments site
    (∀ other others, resolve other others = resolve function arguments) ∧
      (resolve function arguments).invocations =
        (tree.check around context ((site.child 0).child 0)).invocations ∧
      ((∃ cause, (resolve function arguments).result = .error cause) ∨
        ∃ error, (resolve function arguments).result = .ok (.deniedBefore site name error)) := by
  intro resolve
  have asked : (around.denial? (.guard tree) [context] (site.child 0)).invocations =
      (tree.check around context ((site.child 0).child 0)).invocations := by
    rw [Surroundings.denial?_guard, Surroundings.invocations_judge]
  let refuse (error : Value) : Run Value :=
    around.refuse logDenials (.whole (.guard tree) after name) "guard" error
      (.deniedBefore site name error) (site.child 4)
  have staged (function : Value) (arguments : Arguments) : ∃ next : Option Value → Run Value,
      resolve function arguments =
          around.denial? (.guard tree) [context] (site.child 0) >>= next ∧
        ∀ error, next (some error) = refuse error := ⟨_, rfl, fun _ => rfl⟩
  obtain ⟨next, first, refuses⟩ := staged function arguments
  constructor
  · intro other others
    obtain ⟨last, second, refusesToo⟩ := staged other others
    rw [first, second]
    apply Run.bind_congr_of_result
    rintro (_ | error) given
    · exact absurd given shut
    · rw [refuses, refusesToo]
  · rw [first]
    cases denied : (around.denial? (.guard tree) [context] (site.child 0)).result with
    | error cause =>
        constructor
        · rw [Run.invocations_bind_of_error denied, asked]
        · exact .inl ⟨cause, Run.result_bind_of_error denied⟩
    | ok verdict =>
        cases verdict with
        | none => exact absurd denied shut
        | some error =>
            obtain ⟨silent, ends⟩ := around.refuse_ends logDenials (.guard tree) after name error
              (.deniedBefore site name error) "guard" (site.child 4)
            rw [Run.invocations_bind_of_ok denied, Run.result_bind_of_ok denied, refuses, asked]
            constructor
            · rw [silent, List.append_nil]
            · rcases ends with raised | ended
              · exact .inl raised
              · exact .inr ⟨error, ended⟩

end Tree

/-- A field whose guard does not clear stays closed. What its resolution does and how it ends do not
depend on the function that would resolve it: it asks the guard and nothing else, then raises or
gives a denial. A request is admitted only with a context that clears the guard. -/
theorem opens_only_if_cleared (scene : Scene) (depth : Nat) (tree : Guard)
    (logDenials after name context function : Value) (arguments : Arguments)
    (configuration : Configuration) (factory : Option Value) (request : Value) (site : Site)
    (tame : tree.Tame ⟨scene.facts, scene.callWithin depth⟩ context ((site.child 0).child 0))
    (admittedTame : ∀ given,
      (Admission.context ⟨scene.facts, scene.callWithin depth⟩ factory request
        (site.child 0)).result = .ok given →
      tree.Tame ⟨scene.facts, scene.callWithin depth⟩ given ((site.child 1).child 0)) :
    let around : Surroundings := ⟨scene.facts, scene.callWithin depth⟩
    let resolve (function : Value) (arguments : Arguments) : Run Value :=
      around.resolve logDenials (.whole (.guard tree) after name) context function arguments site
    let admitting := Admission.admission around configuration tree factory request site
    (¬ tree.Clears around context ((site.child 0).child 0) →
      (∀ other others, resolve other others = resolve function arguments) ∧
        (resolve function arguments).invocations =
          (tree.check around context ((site.child 0).child 0)).invocations ∧
        ((∃ cause, (resolve function arguments).result = .error cause) ∨
          ∃ error, (resolve function arguments).result = .ok (.deniedBefore site name error))) ∧
    ∀ given, admitting.result = .ok given →
      (Admission.context around factory request (site.child 0)).result = .ok given ∧
        tree.Clears around given ((site.child 1).child 0) := by
  intro around resolve admitting
  constructor
  · intro closed
    apply closed_of_shut
    exact fun passes => closed (clears_of_denial? tame passes)
  · intro given admitted
    obtain ⟨context, made, admitted⟩ := Run.result_bind_eq_ok.mp admitted
    obtain ⟨verdict, passes, admitted⟩ := Run.result_bind_eq_ok.mp admitted
    cases verdict with
    | none =>
        cases admitted
        exact ⟨made, clears_of_denial? (admittedTame _ made) passes⟩
    | some error =>
        obtain ⟨noted, told, raised⟩ := Run.result_bind_eq_ok.mp admitted
        exact nomatch raised

/-- A conjunction that hands on the bare truth its right leaf gives: it neither opens the field nor
admits the request. -/
theorem closed_to_bare_truth :
    let scene := Session.furnished.scene
    let around := scene.surroundings
    let first := Guard.leaf ⟨[1]⟩ Session.leafClass ⟨"first", 0, .gives (.result ⟨[3]⟩ (.bool true) .none)⟩
    let second := Guard.leaf ⟨[2]⟩ Session.leafClass ⟨"second", 1, .gives (.bool true)⟩
    let tree := Guard.both ⟨[4]⟩ first second
    let function := Value.callable ⟨⟨[5]⟩, none, "compute", .async, 0, .reply (.gives (.int 7))⟩
    let factory := Value.callable ⟨⟨[6]⟩, none, "context", .sync, 0, .reply (.gives (.int 1))⟩
    let resolve := around.resolve (.bool true) (.whole (.guard tree) .none (.str "field")) .none
      function ⟨[], []⟩ .root
    let admitting := Admission.admission around scene.configuration tree (some factory) .none .root
    (∀ context site, tree.Tame around context site ∧ ¬ tree.Clears around context site) ∧
      resolve.invocations = (tree.check around .none ((Site.root.child 0).child 0)).invocations ∧
      ∀ given, admitting.result ≠ .ok given := by
  intro scene around first second tree function factory resolve admitting
  have firstItself : scene.facts.checksItself (.guard first) = true := by decide +kernel
  have secondItself : scene.facts.checksItself (.guard second) = true := by decide +kernel
  have keeps : ∀ cls ∈ ["And", "Or", "PostAnd", "bool"],
      scene.facts.keepsAlgebra (.known cls) = true := by decide +kernel
  have unwritten (place : Place) (name : String) : scene.facts.store.find? place name = none := rfl
  clear_value scene
  have firstGives (context : Value) (site : Site) : (first.check around context site).result =
      .ok (.result ⟨[3]⟩ (.bool true) .none) := result_leaf_check context site firstItself
  have secondGives (context : Value) (site : Site) : (second.check around context site).result =
      .ok (.bool true) := result_leaf_check context site secondItself
  have inert : Inert scene.facts (.bool true) := by
    refine inert_of_unwritten (by simp) (by simp) (fun _ _ => rfl) ?_ (keeps "bool" (by simp))
    simp [Value.derived?, Value.ofNumber?, Value.own, entryOf?, Value.slot?]
  have tame (context : Value) (site : Site) : tree.Tame around context site := by
    constructor
    · intro leaf member value gives
      have leaves : tree.leaves site = [⟨first, site.child 0⟩, ⟨second, site.child 1⟩] := rfl
      rw [leaves, List.mem_cons, List.mem_singleton] at member
      rcases member with rfl | rfl
      · cases (firstGives _ _).symm.trans gives
        exact .inl ⟨_, _, _, rfl⟩
      · cases (secondGives _ _).symm.trans gives
        exact .inr inert
    · intro turns value joint
      refine inert_of_joint joint (unwritten _) fun cls member => keeps cls ?_
      exact List.mem_append_left ["bool"] member
  have unclear (context : Value) (site : Site) : ¬ tree.Clears around context site := by
    rintro ⟨-, -, result, gives, decided⟩
    cases (secondGives _ _).symm.trans gives
    cases decided
  obtain ⟨closed, admits⟩ := opens_only_if_cleared scene Scene.depthBound tree (.bool true) .none
    (.str "field") .none function ⟨[], []⟩ scene.configuration (some factory) .none .root
    (tame _ _) fun given _ => tame given _
  refine ⟨fun context site => ⟨tame context site, unclear context site⟩,
    (closed (unclear _ _)).2.1, ?_⟩
  intro given admitted
  exact unclear _ _ (admits given admitted).2

/-- An object that was given an `allowed` passes for a result: its guard does not clear, and still the
function is called and its value released. -/
theorem opened_by_written_attribute :
    let object := Value.guard (.leaf ⟨[0]⟩ Session.leafClass ⟨"object", 0, .gives .none⟩)
    let store := Store.empty.put (.object ⟨[0]⟩) "allowed" (.bool true)
    let scene : Scene := ⟨⟨Session.furnished.hierarchy, store⟩, Session.furnished.scene.configuration⟩
    let around := scene.surroundings
    let tree := Guard.leaf ⟨[1]⟩ Session.leafClass ⟨"first", 0, .gives object⟩
    let function := Value.callable ⟨⟨[2]⟩, none, "compute", .async, 0, .reply (.gives (.int 7))⟩
    let resolve := around.resolve (.bool true) (.whole (.guard tree) .none (.str "field")) .none
      function ⟨[], []⟩ .root
    ¬ tree.Clears around .none ((Site.root.child 0).child 0) ∧
      resolve.invocations = [("first", ⟨[.none], []⟩), ("compute", ⟨[], []⟩)] ∧
      resolve.result = .ok (.released .root (.str "field") (.int 7)) := by
  intro object store scene around tree function resolve
  have itself : scene.facts.checksItself (.guard tree) = true := by decide +kernel
  have allows (site : Site) : object.allows around.facts site = .ok true := rfl
  clear_value scene
  have gives : (tree.check around .none ((Site.root.child 0).child 0)).result = .ok object :=
    result_leaf_check .none _ itself
  have asks : (tree.check around .none ((Site.root.child 0).child 0)).events =
      [.invoked "first" ⟨[.none], []⟩] := events_leaf_check .none _ itself
  have passes : (around.denial? (.guard tree) [.none] (Site.root.child 0)).result = .ok none := by
    rw [Surroundings.denial?_guard, Run.result_bind_of_ok gives, Surroundings.judge, allows]
    rfl
  refine ⟨?_, ?_, ?_⟩
  · rintro ⟨-, result, given, decided⟩
    have same : object = result := Except.ok.inj (gives.symm.trans given)
    rw [← same] at decided
    simp only [object] at decided
    cases decided
  · have asked : (around.denial? (.guard tree) [.none] (Site.root.child 0)).invocations =
        [("first", ⟨[.none], []⟩)] := by
      rw [Surroundings.denial?_guard, Surroundings.invocations_judge, Run.invocations, asks]
      rfl
    refine (Run.invocations_bind_of_ok passes).trans ?_
    rw [asked]
    rfl
  · refine (Run.result_bind_of_ok passes).trans ?_
    rfl

end Guard

end GuardAlgebra
