import GuardAlgebra.Proofs.Hashes
import GuardAlgebra.Proofs.Inert
import GuardAlgebra.Session.Execute

namespace GuardAlgebra

/-! # Alike guards in use

Guards that are alike can stand for each other: they ask the same of the application, in the same order,
and end in the same way, up to errors that agree. What is no result is asked how it composes; there the
methods of the library tell alike values no further apart, but a function of the application may.
-/

namespace Value

/-- One value, or two denials with errors that agree. -/
inductive Resembles : Value → Value → Prop where
  | same (value : Value) : Resembles value value
  | denial (site : Site) {error other : Value} (errors : error.agrees other = true) :
      Resembles (.result site (.bool false) error) (.result site (.bool false) other)

theorem Resembles.equal {value other : Value} (alike : value.Resembles other) :
    value = other ∨ value.same other = .ok true := by
  cases alike with
  | same => exact .inl rfl
  | denial site errors =>
      exact .inr (bothHold_iff.mpr ⟨by simp [agreement, identical], agreement_iff.mpr errors⟩)

/-- What a value has to compose with is at most a method of the library. -/
def Composes (facts : Facts) (operator : Operator) (value : Value) : Prop :=
  ∀ held, facts.read value operator.method = .ok held →
    ∃ method : Method, method.name = operator.method ∧
      (held = .method method ∨ held = .bound (.method method) value)

end Value

namespace Run

/-- Ends that are alike: in one exception, or in values that resemble each other. -/
inductive Ends : Except Exception Value → Except Exception Value → Prop where
  | raises (cause : Exception) : Ends (.error cause) (.error cause)
  | gives {value other : Value} (alike : value.Resembles other) : Ends (.ok value) (.ok other)

/-- Both runs do the same, and raise one exception or give one value or equal ones. -/
structure Coincides (one other : Run Value) : Prop where
  events : one.events = other.events
  ends : (∃ cause, one.result = .error cause ∧ other.result = .error cause) ∨
    ∃ value given, one.result = .ok value ∧ other.result = .ok given ∧
      (value = given ∨ value.same given = .ok true)

/-- Both runs do the same and end alike. -/
structure Resembles (one other : Run Value) : Prop where
  events : one.events = other.events
  ends : Ends one.result other.result

variable {α : Type} {one other : Run Value} {next last : Value → Run Value}

theorem Ends.refl (result : Except Exception Value) : Ends result result := by
  cases result with
  | error cause => exact .raises cause
  | ok value => exact .gives (.same value)

theorem Resembles.refl (run : Run Value) : run.Resembles run := ⟨rfl, Ends.refl _⟩

theorem resembles_ofAttempt {attempt another : Attempt Value} (ends : Ends attempt another) :
    (Run.ofAttempt attempt).Resembles (.ofAttempt another) := by
  constructor
  · rw [events_ofAttempt, events_ofAttempt]
  · rwa [result_ofAttempt, result_ofAttempt]

theorem Resembles.bind (alike : one.Resembles other)
    (goesOn : ∀ value given, one.result = .ok value → value.Resembles given →
      (next value).Resembles (last given)) : (one >>= next).Resembles (other >>= last) := by
  obtain ⟨events, ends⟩ := alike
  cases ended : one.result with
  | error cause =>
      rw [ended] at ends
      cases otherEnded : other.result with
      | ok => rw [otherEnded] at ends; cases ends
      | error also =>
          rw [otherEnded] at ends
          cases ends
          constructor
          · rw [events_bind_of_error ended, events_bind_of_error otherEnded, events]
          · rw [result_bind_of_error ended, result_bind_of_error otherEnded]
            exact .raises cause
  | ok value =>
      rw [ended] at ends
      cases otherEnded : other.result with
      | error => rw [otherEnded] at ends; cases ends
      | ok given =>
          rw [otherEnded] at ends
          cases ends with
          | gives alike =>
              have rest := goesOn value given ended alike
              constructor
              · rw [events_bind_of_ok ended, events_bind_of_ok otherEnded, events, rest.events]
              · rw [result_bind_of_ok ended, result_bind_of_ok otherEnded]
                exact rest.ends

theorem Resembles.coincides (alike : one.Resembles other) : one.Coincides other := by
  obtain ⟨events, ends⟩ := alike
  refine ⟨events, ?_⟩
  cases ended : one.result with
  | error cause =>
      rw [ended] at ends
      cases otherEnded : other.result with
      | ok => rw [otherEnded] at ends; cases ends
      | error also =>
          rw [otherEnded] at ends
          cases ends
          exact .inl ⟨cause, rfl, rfl⟩
  | ok value =>
      rw [ended] at ends
      cases otherEnded : other.result with
      | error => rw [otherEnded] at ends; cases ends
      | ok given =>
          rw [otherEnded] at ends
          cases ends with
          | gives alike => exact .inr ⟨value, given, rfl, rfl, alike.equal⟩

theorem resembles_after (run : Run α) {next last : α → Run Value}
    (goesOn : ∀ value, (next value).Resembles (last value)) :
    (run >>= next).Resembles (run >>= last) := by
  cases ended : run.result with
  | error cause =>
      constructor
      · rw [events_bind_of_error ended, events_bind_of_error ended]
      · rw [result_bind_of_error ended, result_bind_of_error ended]
        exact .raises cause
  | ok value =>
      constructor
      · rw [events_bind_of_ok ended, events_bind_of_ok ended, (goesOn value).events]
      · rw [result_bind_of_ok ended, result_bind_of_ok ended]
        exact (goesOn value).ends

end Run

section Combining

variable {scene : Scene} {around : Surroundings} {depth : Nat} {site : Site} {operator : Operator}
  {value first second another given error other logDenials : Value} {method : Method}

theorem ends_verdict (reply : Value) (errors : error.agrees other = true) :
    Run.Ends (reply.verdict site error) (reply.verdict site other) := by
  cases reply with
  | bool truth =>
      cases truth with
      | true => exact .gives (.same _)
      | false => exact .gives (.denial site errors)
  | _ => exact Run.Ends.refl _

theorem ends_meet (seconds : second.Resembles another) :
    Run.Ends (value.meet around.facts site second) (value.meet around.facts site another) := by
  rw [Value.meet, Value.meet]
  cases value.allows around.facts site with
  | error cause => exact .raises cause
  | ok truth =>
      cases truth with
      | true => exact .gives seconds
      | false => exact .gives (.same value)

theorem ends_join (seconds : second.Resembles another) :
    Run.Ends (value.join around.facts site second) (value.join around.facts site another) := by
  rw [Value.join, Value.join]
  cases value.allows around.facts site with
  | error cause => exact .raises cause
  | ok truth =>
      cases truth with
      | true => exact .gives (.same value)
      | false => exact .gives seconds

theorem conjoin_eq (seconds : second.Resembles another) :
    Guard.conjoin site value second = Guard.conjoin site value another := by
  cases seconds with
  | same => rfl
  | denial => rfl

theorem disjoin_eq (seconds : second.Resembles another) :
    Guard.disjoin site value second = Guard.disjoin site value another := by
  cases seconds with
  | same => rfl
  | denial => rfl

theorem conjoin_post_eq (facts : Facts) (seconds : second.Resembles another) :
    PostGuard.conjoin facts site .none value second =
      PostGuard.conjoin facts site .none value another := by
  cases seconds with
  | same => rfl
  | denial =>
      simp only [PostGuard.conjoin]
      cases value.asPost site <;> rfl

theorem unawaited_atOnce (attempt : Attempt Value) :
    (Surroundings.atOnce attempt >>= fun answer => pure (answer.unawaited site)) =
      Run.ofAttempt attempt := by
  cases attempt <;> rfl

theorem resembles_callMethod (around : Surroundings) (composes : method.name ∈ ["and_", "or_"])
    (seconds : second.Resembles another) :
    (around.callMethod logDenials method ⟨[value, second], []⟩ site >>= fun answer =>
        pure (answer.unawaited site)).Resembles
      (around.callMethod logDenials method ⟨[value, another], []⟩ site >>= fun answer =>
        pure (answer.unawaited site)) := by
  rcases Method.composing composes with rfl | rfl | rfl | rfl | rfl
  · change (Surroundings.atOnce _ >>= _).Resembles (Surroundings.atOnce _ >>= _)
    rw [unawaited_atOnce, unawaited_atOnce]
    exact Run.resembles_ofAttempt (ends_meet seconds)
  · change (Surroundings.atOnce _ >>= _).Resembles (Surroundings.atOnce _ >>= _)
    rw [unawaited_atOnce, unawaited_atOnce]
    exact Run.resembles_ofAttempt (ends_join seconds)
  all_goals
    change (Surroundings.atOnce _ >>= _).Resembles (Surroundings.atOnce _ >>= _)
    rw [unawaited_atOnce, unawaited_atOnce]
  · rw [conjoin_eq seconds]
    exact Run.Resembles.refl _
  · rw [disjoin_eq seconds]
    exact Run.Resembles.refl _
  · rw [conjoin_post_eq around.facts seconds]
    exact Run.Resembles.refl _

/-- Without an object a method that composes is called amiss, whatever it is called with. -/
theorem callMethod_alone (composes : method.name ∈ ["and_", "or_"]) :
    around.callMethod logDenials method ⟨[value], []⟩ site = Surroundings.misused method site := by
  rcases Method.composing composes with rfl | rfl | rfl | rfl | rfl <;> rfl

theorem resembles_demand (library : value.Composes scene.facts operator)
    (seconds : second.Resembles another) :
    (Surroundings.demand ⟨scene.facts, scene.callWithin depth⟩ value operator.method [second]
        site).Resembles
      (Surroundings.demand ⟨scene.facts, scene.callWithin depth⟩ value operator.method [another]
        site) := by
  simp only [Surroundings.demand, Surroundings.ask]
  cases reads : scene.facts.read value operator.method with
  | error fault => exact Run.Resembles.refl _
  | ok held =>
      obtain ⟨method, named, rfl | rfl⟩ := library held reads
      all_goals
        have composes : method.name ∈ ["and_", "or_"] := by
          rw [named]
          cases operator <;> simp [Operator.method]
      · cases depth with
        | zero => exact Run.Resembles.refl _
        | succ rest =>
            change (Surroundings.callMethod ⟨scene.facts, scene.callWithin rest⟩ _ _ _ _ >>= _).Resembles
              (Surroundings.callMethod ⟨scene.facts, scene.callWithin rest⟩ _ _ _ _ >>= _)
            rw [callMethod_alone composes, callMethod_alone composes]
            exact Run.Resembles.refl _
      · -- A bound method is two calls deep: itself, and the method with its object in front.
        rcases depth with _ | _ | rest
        · exact Run.Resembles.refl _
        · exact Run.Resembles.refl _
        · exact resembles_callMethod ⟨scene.facts, scene.callWithin rest⟩ composes seconds

theorem resembles_combine
    (library : (∃ place allowed error, first = .result place allowed error) ∨
      first.Composes scene.facts operator)
    (firsts : first.Resembles given) (seconds : second.Resembles another) :
    (Surroundings.combine ⟨scene.facts, scene.callWithin depth⟩ operator first second site).Resembles
      (Surroundings.combine ⟨scene.facts, scene.callWithin depth⟩ operator given another site) := by
  cases firsts with
  | same =>
      by_cases isResult : ∃ place allowed error, first = .result place allowed error
      · obtain ⟨place, allowed, error, rfl⟩ := isResult
        cases operator with
        | and => exact Run.resembles_ofAttempt (ends_meet seconds)
        | or => exact Run.resembles_ofAttempt (ends_join seconds)
      · have foreign : ∀ place allowed error, first ≠ .result place allowed error :=
          fun place allowed error equal => isResult ⟨place, allowed, error, equal⟩
        rw [Surroundings.combine_of_foreign foreign, Surroundings.combine_of_foreign foreign]
        exact resembles_demand (library.resolve_left isResult) seconds
  | denial place errors =>
      cases operator with
      | and => exact Run.resembles_ofAttempt (.gives (.denial place errors))
      | or => exact Run.resembles_ofAttempt (.gives seconds)

end Combining

/-- Whatever the left part of a pair gives is a result, or composes by the methods of the library. -/
def Guard.Composes (around : Surroundings) (context : Value) : Guard → Site → Prop
  | .both _ left right, site =>
      left.Composes around context (site.child 0) ∧ right.Composes around context (site.child 1) ∧
        ∀ value, (left.check around context (site.child 0)).result = .ok value →
          (∃ place allowed error, value = .result place allowed error) ∨
            value.Composes around.facts .and
  | .either _ left right, site =>
      left.Composes around context (site.child 0) ∧ right.Composes around context (site.child 1) ∧
        ∀ value, (left.check around context (site.child 0)).result = .ok value →
          (∃ place allowed error, value = .result place allowed error) ∨
            value.Composes around.facts .or
  | .allowAll _, _ | .denyAll .., _ | .function .., _ | .leaf .., _ => True

theorem Guard.composes_pair {around : Surroundings} {context : Value} {operator : Operator}
    {place site : Site} {left right : Guard} :
    (operator.pair place left right).Composes around context site ↔
      left.Composes around context (site.child 0) ∧ right.Composes around context (site.child 1) ∧
        ∀ value, (left.check around context (site.child 0)).result = .ok value →
          (∃ place allowed error, value = .result place allowed error) ∨
            value.Composes around.facts operator := by
  cases operator <;> rfl

section Checking

variable {scene : Scene} {around : Surroundings} {depth : Nat} {context value error other callable : Value}
  {site : Site}

theorem resembles_consult (arguments : List Value) (errors : error.agrees other = true) :
    (around.consult callable error arguments site).Resembles
      (around.consult callable other arguments site) := by
  refine Run.resembles_after _ fun answer => Run.resembles_after _ fun reply => ?_
  exact Run.resembles_ofAttempt (ends_verdict reply errors)

/-- Guards that are alike are checked alike. -/
theorem Guard.check_resembles {one two : Guard} (alike : one.Alike two)
    (composes : one.Composes ⟨scene.facts, scene.callWithin depth⟩ context site) :
    (one.check ⟨scene.facts, scene.callWithin depth⟩ context site).Resembles
      (two.check ⟨scene.facts, scene.callWithin depth⟩ context site) := by
  induction alike generalizing site with
  | pair operator before after leftIH rightIH =>
      obtain ⟨leftComposes, rightComposes, library⟩ := composes_pair.mp composes
      rw [check_pair, check_pair]
      refine (leftIH leftComposes).bind fun first given ended firsts => ?_
      refine (rightIH rightComposes).bind fun second another _ seconds => ?_
      exact resembles_combine (library first ended) firsts seconds
  | allowAll => exact Run.Resembles.refl _
  | denyAll errors => exact ⟨rfl, .gives (.denial _ errors)⟩
  | function errors => exact resembles_consult [context] errors
  | leaf => exact Run.Resembles.refl _

theorem PostGuard.check_resembles {one two : PostGuard} (alike : one.Alike two) :
    (one.check around context value site).Resembles (two.check around context value site) := by
  induction alike generalizing site with
  | both before after leftIH rightIH =>
      refine leftIH.bind fun first given ended firsts => ?_
      cases firsts with
      | same =>
          refine Run.resembles_after _ fun truth => ?_
          cases truth with
          | true => exact rightIH
          | false => exact Run.Resembles.refl _
      | denial place errors => exact ⟨rfl, .gives (.denial place errors)⟩
  | function errors => exact resembles_consult [context, value] errors
  | leaf => exact Run.Resembles.refl _

end Checking

theorem Guard.hash_eq_of_same {objects : Site → Value} {hashing : Hashing} {one two : Guard}
    (stands : (Value.guard one).Stands objects) (otherStands : (Value.guard two).Stands objects)
    (same : one.same two = .ok true) (hashable : one.unhashable? = none)
    (otherHashable : two.unhashable? = none) : one.hash hashing = two.hash hashing :=
  Value.hash_eq_of_agrees ⟨stands, hashable⟩ ⟨otherStands, otherHashable⟩ (Value.agrees_guard same)

theorem PostGuard.hash_eq_of_same {objects : Site → Value} {hashing : Hashing} {one two : PostGuard}
    (stands : (Value.post one).Stands objects) (otherStands : (Value.post two).Stands objects)
    (same : one.same two = .ok true) (hashable : one.unhashable? = none)
    (otherHashable : two.unhashable? = none) : one.hash hashing = two.hash hashing :=
  Value.hash_eq_of_agrees ⟨stands, hashable⟩ ⟨otherStands, otherHashable⟩ (Value.agrees_post same)

theorem Value.distinct_of_hashable {values : List Value}
    (hashable : ∀ value ∈ values, value.unhashable? = Option.none) :
    distinct values = .ok (dedup values) := by
  rw [distinct, unhashableItem?_eq_none_iff.mpr hashable]

/-- Guards are equal when they are alike; then they are checked alike and have the same hash. A set has
a member for each class of values that agree. -/
theorem equality_is_congruence (objects : Site → Value) (scene : Scene) (depth : Nat)
    (hashing : Hashing) :
    let around : Surroundings := ⟨scene.facts, scene.callWithin depth⟩
    (∀ one other : Guard, (Value.guard one).Stands objects → (Value.guard other).Stands objects →
      one.Distinct objects →
      (one.same other = .ok true ↔ one.Alike other) ∧
      (one.same other = .ok true →
        (∀ context site, one.Composes around context site →
          (one.check around context site).Coincides (other.check around context site)) ∧
        (one.unhashable? = none → other.unhashable? = none →
          one.hash hashing = other.hash hashing))) ∧
    (∀ one other : PostGuard, (Value.post one).Stands objects → (Value.post other).Stands objects →
      one.Distinct objects →
      (one.same other = .ok true ↔ one.Alike other) ∧
      (one.same other = .ok true →
        (∀ context value site, (one.check around context value site).Coincides
          (other.check around context value site)) ∧
        (one.unhashable? = none → other.unhashable? = none →
          one.hash hashing = other.hash hashing))) ∧
    ∀ values : List Value, (∀ value ∈ values, value.Stands objects) →
      (∀ value ∈ values, value.unhashable? = none) →
      ∃ members, Value.distinct values = .ok members ∧ hashing.members values = members ∧
        members.length = (Value.classes values).ncard := by
  intro around
  refine ⟨?_, ?_, ?_⟩
  · intro one other stands otherStands distinct
    have alike := Guard.same_iff_alike stands otherStands distinct
    refine ⟨alike, fun same => ⟨fun context site composes => ?_, ?_⟩⟩
    · exact (Guard.check_resembles (alike.mp same) composes).coincides
    · exact Guard.hash_eq_of_same stands otherStands same
  · intro one other stands otherStands distinct
    have alike := PostGuard.same_iff_alike stands otherStands distinct
    refine ⟨alike, fun same => ⟨fun context value site => ?_, ?_⟩⟩
    · exact (PostGuard.check_resembles (alike.mp same)).coincides
    · exact PostGuard.hash_eq_of_same stands otherStands same
  · intro values stands hashable
    have all : ∀ value ∈ values, value.Hashable objects :=
      fun value member => ⟨stands value member, hashable value member⟩
    exact ⟨_, Value.distinct_of_hashable hashable, Value.members_eq_dedup all,
      Value.length_dedup all⟩

/-- Hashes that add up what they are made of. -/
def Hashing.additive : Hashing where
  nothing := 0
  number
    | .finite amount => amount.num
    | .infinite negative => negative.toNat
  text text := text.length
  octets octets := octets.length
  object site := site.path.sum
  method method := method.name.length
  bound function receiver := function + receiver.elim 0 fun site => site.path.sum
  anything := 1
  typeVariable name := name.length
  cls cls := cls.name.length
  guest _ := 2
  parameterised cls arguments := cls + arguments
  sequence hashes := hashes.sum
  unordered hashes := hashes.sum
  unordered_perm perm := perm.sum_eq

/-- Guards around one function with the errors `1` and `True`: each set has one of them. -/
theorem equality_of_one_and_true :
    let scene := Session.initial.scene
    let around : Surroundings := ⟨scene.facts, scene.callWithin 1⟩
    let hashing := Hashing.additive
    let callable := Value.callable ⟨⟨[0]⟩, none, "test", .sync, 0, .reply (.gives (.bool false))⟩
    let guard (place : Nat) (error name : Value) : Guard :=
      .both ⟨[place]⟩ (.allowAll ⟨[place, 0]⟩) (.function ⟨[place, 1]⟩ callable error name)
    let first := guard 1 (.int 1) (.str "first")
    let second := guard 2 (.bool true) (.str "second")
    let post (place : Nat) (pin error : Value) : PostGuard :=
      .function ⟨[place]⟩ pin callable error .none .none
    let one := post 3 .none (.int 1)
    let two := post 4 (.type (.named (.known "int"))) (.bool true)
    let made := [callable, .guard first, .guard (.allowAll ⟨[1, 0]⟩),
      .guard (.function ⟨[1, 1]⟩ callable (.int 1) (.str "first")), .guard second,
      .guard (.allowAll ⟨[2, 0]⟩),
      .guard (.function ⟨[2, 1]⟩ callable (.bool true) (.str "second")), .post one, .post two]
    let objects (site : Site) : Value :=
      (made.find? fun value => value.site? = some site).getD .none
    ((Value.guard first).Stands objects ∧ (Value.guard second).Stands objects ∧
      first.Distinct objects ∧ first.Composes around .none .root ∧ first.Alike second ∧
      (first.check around .none .root).Coincides (second.check around .none .root) ∧
      first.hash hashing = second.hash hashing) ∧
    ((Value.post one).Stands objects ∧ (Value.post two).Stands objects ∧ one.Distinct objects ∧
      one.Alike two ∧
      (one.check around .none .none .root).Coincides (two.check around .none .none .root) ∧
      one.hash hashing = two.hash hashing) ∧
    ∃ members, Value.distinct [.guard first, .guard second] = .ok members ∧
      hashing.members [.guard first, .guard second] = members ∧
      members.length = (Value.classes [.guard first, .guard second]).ncard ∧ members.length = 1 := by
  intro scene around hashing callable guard first second post one two made objects
  have callableStands : callable.Stands objects := Value.stands_callable rfl
  have distinct := Value.distinct_callable callableStands
  have guardStands (place : Nat) (error name : Value) (errorStands : error.Stands objects)
      (whole : objects ⟨[place]⟩ = .guard (guard place error name))
      (allowing : objects ⟨[place, 0]⟩ = .guard (.allowAll ⟨[place, 0]⟩))
      (asking : objects ⟨[place, 1]⟩ = .guard (.function ⟨[place, 1]⟩ callable error name)) :
      (Value.guard (guard place error name)).Stands objects := by
    refine Value.stands_of_placed rfl whole trivial
      (List.forall_mem_cons.mpr ⟨?_, List.forall_mem_singleton.mpr ?_⟩)
    · exact Value.stands_of_placed rfl allowing trivial (List.forall_mem_nil _)
    · exact Value.stands_of_placed rfl asking trivial
        (List.forall_mem_cons.mpr ⟨callableStands, List.forall_mem_singleton.mpr errorStands⟩)
  have postStands (place : Nat) (pin error : Value) (errorStands : error.Stands objects)
      (whole : objects ⟨[place]⟩ = .post (post place pin error)) :
      (Value.post (post place pin error)).Stands objects := by
    refine Value.stands_of_placed rfl whole trivial
      (List.forall_mem_cons.mpr ⟨callableStands, List.forall_mem_cons.mpr ⟨errorStands, ?_⟩⟩)
    exact List.forall_mem_singleton.mpr (Value.stands_of_siteless rfl trivial rfl)
  have numberStands : (Value.int 1).Stands objects := Value.stands_of_siteless rfl trivial rfl
  have truthStands : (Value.bool true).Stands objects := Value.stands_of_siteless rfl trivial rfl
  have firstStands := guardStands 1 (.int 1) (.str "first") numberStands rfl rfl rfl
  have secondStands := guardStands 2 (.bool true) (.str "second") truthStands rfl rfl rfl
  have oneStands := postStands 3 .none (.int 1) numberStands rfl
  have twoStands := postStands 4 (.type (.named (.known "int"))) (.bool true) truthStands rfl
  have composes : first.Composes around .none .root := by
    refine ⟨trivial, trivial, ?_⟩
    rintro value ⟨⟩
    exact .inl ⟨_, _, _, rfl⟩
  obtain ⟨guards, posts, sets⟩ := equality_is_congruence objects scene 1 hashing
  obtain ⟨alike, used⟩ := guards first second firstStands secondStands ⟨trivial, distinct⟩
  obtain ⟨postsAlike, postsUsed⟩ := posts one two oneStands twoStands distinct
  obtain ⟨checks, hashes⟩ := used rfl
  obtain ⟨postChecks, postHashes⟩ := postsUsed rfl
  obtain ⟨members, gathered, found, classes⟩ := sets [.guard first, .guard second]
    (List.forall_mem_cons.mpr ⟨firstStands, List.forall_mem_singleton.mpr secondStands⟩)
    (List.forall_mem_cons.mpr ⟨rfl, List.forall_mem_singleton.mpr rfl⟩)
  refine ⟨⟨firstStands, secondStands, ⟨trivial, distinct⟩, composes, alike.mp rfl,
      checks _ _ composes, hashes rfl rfl⟩,
    ⟨oneStands, twoStands, distinct, postsAlike.mp rfl, postChecks _ _ _, postHashes rfl rfl⟩,
    members, gathered, found, classes, ?_⟩
  cases gathered
  rfl

/-- An error that is not equal to itself is found equal, being one object; a leaf that gives it is equal
to itself, though what it gives is not; and what is no result may compose by telling `1` from `True`. -/
theorem equality_of_undefined_number :
    let around := Session.furnished.scene.surroundings
    let number := Value.float ⟨[0]⟩ Float.nan
    let callable := Value.callable ⟨⟨[1]⟩, none, "test", .sync, 0, .reply (.gives (.bool false))⟩
    let first : Guard := .function ⟨[2]⟩ callable number .none
    let second : Guard := .function ⟨[3]⟩ callable number .none
    let giving : Guard := .leaf ⟨[4]⟩ Session.leafClass ⟨"leaf", 0, .gives number⟩
    let object := Value.guard (.leaf ⟨[5]⟩ Session.leafClass ⟨"object", 0, .gives .none⟩)
    let store := Store.empty.put (.object ⟨[5]⟩) "and_" (.type (.named (.known "str")))
    let scene : Scene :=
      ⟨⟨Session.furnished.scene.facts.hierarchy, store⟩, Session.furnished.scene.configuration⟩
    let refusing (place : Nat) (error : Value) : Guard :=
      .both ⟨[place]⟩ (.leaf ⟨[6]⟩ Session.leafClass ⟨"first", 0, .gives object⟩)
        (.denyAll ⟨[place, 0]⟩ error)
    number.same number = .ok false ∧
    first.same second = .ok true ∧
    (giving.same giving = .ok true ∧ (giving.check around .none .root).result = .ok number) ∧
    (refusing 7 (.int 1)).same (refusing 8 (.bool true)) = .ok true ∧
      ∃ text other,
        ((refusing 7 (.int 1)).check scene.surroundings .none .root).result = .ok text ∧
        ((refusing 8 (.bool true)).check scene.surroundings .none .root).result = .ok other ∧
        text.same other = .ok false := by
  intro around number callable first second giving object store scene refusing
  have undefined : number.same number = .ok false := by decide +kernel
  have equal : first.same second = .ok true := by
    simp [first, second, callable, number, Guard.same, bothHold, agreement, Value.identical,
      Value.site?]
  have given : (giving.check around .none .root).result = .ok number := by
    have itself : around.facts.checksItself (.guard giving) = true := by decide +kernel
    exact Guard.result_leaf_check .none .root itself
  refine ⟨undefined, equal, ⟨rfl, given⟩, rfl, ?_⟩
  have told : ((((refusing 7 (.int 1)).check scene.surroundings .none .root).result.bind fun text =>
      ((refusing 8 (.bool true)).check scene.surroundings .none .root).result.bind fun other =>
        .ok (text.same other).toOption).toOption) = some (some false) := by
    decide +kernel
  cases one : ((refusing 7 (.int 1)).check scene.surroundings .none .root).result with
  | error cause => simp [one, Except.bind, Except.toOption] at told
  | ok text =>
      cases two : ((refusing 8 (.bool true)).check scene.surroundings .none .root).result with
      | error cause => simp [one, two, Except.bind, Except.toOption] at told
      | ok other =>
          refine ⟨text, other, rfl, rfl, ?_⟩
          cases differ : text.same other <;> simp_all [Except.bind, Except.toOption]

end GuardAlgebra
