import GuardAlgebra.Proofs.Pairs

namespace GuardAlgebra

/-! # Pins

Type arguments can be written to a post guard after it was made. Only the search for the type of that
very guard looks at them: whatever else is read of an object, what exceptions say, how guards are checked
and the types of all other objects stay as they were.
-/

namespace Facts

/-- What there is after type arguments were written to the object at a site. -/
def pin (facts : Facts) (site : Site) (new : Value) : Facts :=
  facts.put (.object site) pinAttribute new

variable {facts : Facts} {site : Site} {new value : Value} {name : String}

@[simp] theorem hierarchy_pin : (facts.pin site new).hierarchy = facts.hierarchy := rfl

section Attributes

theorem find?_pin {place : Place} (other : place = .object site → name ≠ pinAttribute) :
    (facts.pin site new).store.find? place name = facts.store.find? place name := by
  rw [pin, put, Store.find?_put, if_neg]
  rintro ⟨rfl, rfl⟩
  exact other rfl rfl

@[simp] theorem memberAt?_pin (id : ClassId) :
    (facts.pin site new).memberAt? id name = facts.memberAt? id name := by
  have object : Place.cls id = .object site → name ≠ pinAttribute := nofun
  rw [memberAt?, memberAt?, find?_pin object, hierarchy_pin]

@[simp] theorem member?_pin (id : ClassId) :
    (facts.pin site new).member? id name = facts.member? id name := by
  simp only [member?, memberAt?_pin, hierarchy_pin]

theorem written?_pin (other : value.place? = some (.object site) → name ≠ pinAttribute) :
    (facts.pin site new).written? value name = facts.written? value name := by
  unfold written?
  cases found : value.place? with
  | none => rfl
  | some place => exact find?_pin fun same => other (same ▸ found)

theorem readType?_pin {type : TypeExpr}
    (other : (Value.type type).place? = some (.object site) → name ≠ pinAttribute) :
    (facts.pin site new).readType? type name = facts.readType? type name := by
  have described : (facts.pin site new).described? type name = facts.described? type name := rfl
  have shared : (facts.pin site new).member? = facts.member? := by
    funext id name
    exact member?_pin id
  simp only [readType?, written?_pin other, described, shared]

theorem read?_pin (other : value.place? = some (.object site) → name ≠ pinAttribute) :
    (facts.pin site new).read? value name = facts.read? value name := by
  cases value with
  | type expr => exact readType?_pin other
  | _ => simp only [read?, written?_pin other, member?_pin]

theorem held_pin (elsewhere : value.place? ≠ some (.object site)) :
    (facts.pin site new).held value = facts.held value := by
  have found {place : Place} (here : value.place? = some place) (name : String) :
      (facts.pin site new).store.find? place name = facts.store.find? place name :=
    find?_pin fun same => absurd (same ▸ here) elsewhere
  have names {place : Place} (here : value.place? = some place) :
      (facts.pin site new).store.namesAt place = facts.store.namesAt place := by
    have apart : Place.object site ≠ place := fun same => elsewhere (same ▸ here)
    simp [Store.namesAt, pin, put, Store.put, apart]
  unfold held
  cases here : value.place? with
  | none => rfl
  | some place => simp only [found here, names here, hierarchy_pin]

/-- Everything that is read of an object but its type arguments, and what it holds all together. -/
theorem read_pin
    (other : value.place? = some (.object site) → name ≠ pinAttribute ∧ name ≠ "__dict__") :
    (facts.pin site new).read value name = facts.read value name := by
  have kept : (facts.pin site new).read? value name = facts.read? value name :=
    read?_pin fun here => (other here).1
  unfold read
  rw [kept]
  by_cases whole : name = "__dict__"
  · have elsewhere : value.place? ≠ some (.object site) := fun here => (other here).2 whole
    rw [held_pin elsewhere]
  · simp [whole]

end Attributes

section Words

variable {raised : Exception}

theorem ne_pinAttribute_of_isSpoken (isSpoken : isSpoken name = true) : name ≠ pinAttribute := by
  rintro rfl
  exact absurd isSpoken (by decide)

theorem isSpoken_of_mem_spoken (member : name ∈ spoken raised) : isSpoken name = true := by
  cases raised <;> simp only [spoken, List.mem_cons, List.not_mem_nil, or_false] at member <;>
    rcases member with rfl | rfl | rfl | rfl | rfl <;> rfl

theorem slotContent?_pin (spoken : isSpoken name = true) :
    (facts.pin site new).slotContent? raised name = facts.slotContent? raised name := by
  rw [slotContent?, slotContent?, find?_pin fun _ => ne_pinAttribute_of_isSpoken spoken]

theorem argumentsOf_pin : (facts.pin site new).argumentsOf raised = facts.argumentsOf raised := by
  rw [argumentsOf, argumentsOf, slotContent?_pin rfl]

theorem isChanged_pin : (facts.pin site new).isChanged raised = facts.isChanged raised := by
  rw [isChanged, isChanged, Bool.eq_iff_iff, List.any_eq_true, List.any_eq_true]
  refine exists_congr fun name => and_congr_right fun member => ?_
  rw [find?_pin fun _ => ne_pinAttribute_of_isSpoken (isSpoken_of_mem_spoken member)]

theorem wordsOf_pin (voice : Voice) :
    (facts.pin site new).wordsOf voice raised = facts.wordsOf voice raised := by
  cases raised with
  | http =>
      simp only [wordsOf]
      rw [read?_pin fun _ => by decide, read?_pin fun _ => by decide]
  | _ =>
      simp only [wordsOf, argumentsOf_pin]
      rw [slotContent?_pin rfl, slotContent?_pin rfl, slotContent?_pin rfl, slotContent?_pin rfl]

theorem obstacleOf?_pin (silence : Silence) :
    (facts.pin site new).obstacleOf? silence raised = facts.obstacleOf? silence raised := by
  cases raised with
  | http =>
      simp only [obstacleOf?]
      rw [read_pin fun _ => by decide, read_pin fun _ => by decide]
  | _ => simp only [obstacleOf?, argumentsOf_pin]

theorem voiceWithin_pin (depth : Nat) :
    (facts.pin site new).voiceWithin depth = facts.voiceWithin depth := by
  induction depth with
  | zero => rfl
  | succ depth ih =>
      funext raised
      simp only [voiceWithin, ih, isChanged_pin, wordsOf_pin]

theorem silenceWithin_pin (depth : Nat) :
    (facts.pin site new).silenceWithin depth = facts.silenceWithin depth := by
  induction depth with
  | zero => rfl
  | succ depth ih =>
      funext raised
      simp only [silenceWithin, ih, isChanged_pin, obstacleOf?_pin]

theorem voiceDepth_pin : (facts.pin site new).voiceDepth = facts.voiceDepth := by
  -- Only names that are spoken count.
  have unspoken : isSpoken pinAttribute = false := by decide
  simp [voiceDepth, pin, put, Store.put, unspoken]

@[simp] theorem display_pin : (facts.pin site new).display value = facts.display value := by
  rw [display, display, voice, voice, voiceDepth_pin, voiceWithin_pin]

@[simp] theorem depict_pin : (facts.pin site new).depict value = facts.depict value := by
  rw [depict, depict, obstacle?, obstacle?, voiceDepth_pin, silenceWithin_pin, display_pin]

@[simp] theorem say_pin : (facts.pin site new).say value = facts.say value := by
  rw [say, say, obstacle?, obstacle?, voiceDepth_pin, silenceWithin_pin, text, text, voice, voice,
    voiceDepth_pin, voiceWithin_pin]

end Words

section Raising

theorem fields?_pin (lineage : List ClassId) (arguments : Arguments) (carried : Option Value) :
    Exception.fields? (facts.pin site new) lineage arguments carried =
      Exception.fields? facts lineage arguments carried := by
  induction lineage generalizing arguments carried with
  | nil => rfl
  | cons cls lineage ih =>
      have message (error : Value) :
          Exception.denialMessage (facts.pin site new) error = Exception.denialMessage facts error := by
        cases error <;> simp only [Exception.denialMessage, say_pin]
      simp only [Exception.fields?, ih, message]

theorem make_pin (cls : ClassId) (arguments : Arguments) (place : Site) :
    Exception.make (facts.pin site new) cls arguments place =
      Exception.make facts cls arguments place := by
  simp only [Exception.make, Exception.answering, fields?_pin, hierarchy_pin, display_pin]

@[simp] theorem raised_pin (place : Site) :
    (facts.pin site new).raised value place = facts.raised value place := by
  simp only [raised, make_pin, hierarchy_pin]

@[simp] theorem outcome_pin (reply : Reply) (place : Site) :
    reply.outcome (facts.pin site new) place = reply.outcome facts place := by
  cases reply <;> simp only [Reply.outcome, raised_pin]

end Raising

section Types

theorem namedType?_pin : (facts.pin site new).namedType? value = facts.namedType? value := by
  rw [namedType?, namedType?, read?_pin fun _ => by decide]

/-- Writing type arguments makes a difference to the type of that object alone. -/
theorem resultType_pin (elsewhere : value.place? ≠ some (.object site)) (place : Site) :
    (facts.pin site new).resultType value place = facts.resultType value place := by
  have pinned : (facts.pin site new).pinnedType? value = facts.pinnedType? value := by
    rw [pinnedType?, pinnedType?, read?_pin fun here => absurd here elsewhere]
  simp only [resultType, namedType?_pin, pinned, depict_pin, hierarchy_pin]

end Types

end Facts

def Value.IsResult (value : Value) : Prop :=
  ∃ site allowed error, value = .result site allowed error

section Checks

variable {facts : Facts} {call : Call} {site : Site} {new : Value}

theorem Facts.checksItself_pin (value : Value) :
    (facts.pin site new).checksItself value = facts.checksItself value := by
  rw [checksItself, checksItself, read?_pin fun _ => by decide]

theorem Value.allows_pin (value : Value) (place : Site) :
    value.allows (facts.pin site new) place = value.allows facts place := by
  have kept : value.allowance (facts.pin site new) = value.allowance facts := by
    unfold allowance
    split
    · rfl
    · rw [Facts.read_pin fun _ => by decide]
  rw [allows, allows, kept]

namespace Surroundings

theorem ask_pin {name : String} (object : Value) (arguments : Arguments) (place : Site)
    (ordinary : name ≠ pinAttribute ∧ name ≠ "__dict__") :
    ask ⟨facts.pin site new, call⟩ object name arguments place =
      ask ⟨facts, call⟩ object name arguments place := by
  rw [ask, ask, Facts.read_pin fun _ => ordinary]

theorem demand_pin {name : String} (object : Value) (arguments : List Value) (place : Site)
    (ordinary : name ≠ pinAttribute ∧ name ≠ "__dict__") :
    demand ⟨facts.pin site new, call⟩ object name arguments place =
      demand ⟨facts, call⟩ object name arguments place := by
  rw [demand, demand, ask_pin _ _ _ ordinary]

theorem combine_pin (operator : Operator) (first second : Value) (place : Site) :
    combine ⟨facts.pin site new, call⟩ operator first second place =
      combine ⟨facts, call⟩ operator first second place := by
  by_cases isResult : first.IsResult
  · obtain ⟨_, allowed, error, rfl⟩ := isResult
    cases operator <;>
      simp only [combine, meet, join, Value.meet, Value.join, Value.allows_pin]
  · have foreign place allowed error : first ≠ .result place allowed error :=
      fun same => isResult ⟨place, allowed, error, same⟩
    rw [combine_of_foreign foreign, combine_of_foreign foreign]
    exact demand_pin _ _ _ (by cases operator <;> decide)

theorem checkLeaf_pin (object : Value) (leaf : Leaf) (arguments : List Value) (place : Site) :
    checkLeaf ⟨facts.pin site new, call⟩ object leaf arguments place =
      checkLeaf ⟨facts, call⟩ object leaf arguments place := by
  rw [checkLeaf, checkLeaf, Facts.checksItself_pin, checkBy, checkBy, ask_pin _ _ _ (by decide),
    Leaf.check, Leaf.check, Facts.outcome_pin]

end Surroundings

/-- Whatever the functions that a check calls answer, its run is the one that it was. -/
theorem Guard.check_pin (tree : Guard) (context : Value) (place : Site) :
    tree.check ⟨facts.pin site new, call⟩ context place =
      tree.check ⟨facts, call⟩ context place := by
  induction tree using Guard.pairInduction generalizing place with
  | pair operator _ left right leftSame rightSame =>
      simp only [check_pair, leftSame, rightSame, Surroundings.combine_pin]
  | leaf tree isLeaf =>
      cases tree with
      | both | either => cases isLeaf
      | allowAll | denyAll => rfl
      -- All that a function is asked goes through the call, which is the same.
      | function => rfl
      | leaf => exact Surroundings.checkLeaf_pin ..

theorem PostGuard.check_pin (tree : PostGuard) (context value : Value) (place : Site) :
    tree.check ⟨facts.pin site new, call⟩ context value place =
      tree.check ⟨facts, call⟩ context value place := by
  induction tree using PostGuard.treeInduction generalizing place with
  | both _ _ left right _ leftSame rightSame =>
      simp only [check, leftSame, rightSame, Value.allows_pin]
  | leaf tree isLeaf =>
      cases tree with
      | both => cases isLeaf
      | function => rfl
      | leaf => exact Surroundings.checkLeaf_pin ..

end Checks

section Answers

/-- A leaf that gives a result, if it gives anything. -/
def Leaf.Rules (given : Leaf) : Prop := ∀ value, given.reply = .gives value → value.IsResult

/-- What the check of a guard calls answers both calls alike: its functions do, and its application
guards, which give results, are checked as they were made. -/
def Guard.Unmoved (facts : Facts) (before after : Call) : Guard → Prop
  | .both _ left right | .either _ left right =>
      left.Unmoved facts before after ∧ right.Unmoved facts before after
  | .allowAll _ | .denyAll .. => True
  | .function _ callable .. => after callable = before callable
  | .leaf site cls given =>
      facts.checksItself (.guard (.leaf site cls given)) = true ∧ given.Rules

def PostGuard.Unmoved (facts : Facts) (before after : Call) : PostGuard → Prop
  | .both _ _ left right _ => left.Unmoved facts before after ∧ right.Unmoved facts before after
  | .function _ _ callable .. => after callable = before callable
  | .leaf site cls kin pin given =>
      facts.checksItself (.post (.leaf site cls kin pin given)) = true

variable {facts : Facts} {before after : Call} {context value : Value} {site : Site}

theorem Value.isResult_of_verdict {reply error given : Value}
    (gives : reply.verdict site error = .ok given) : given.IsResult := by
  unfold verdict at gives
  split at gives <;> cases gives <;> exact ⟨_, _, _, rfl⟩

namespace Surroundings

variable {around : Surroundings} {operator : Operator} {first second given : Value}

theorem combine_eq_of_result (isResult : first.IsResult) :
    combine ⟨facts, after⟩ operator first second site =
      combine ⟨facts, before⟩ operator first second site := by
  obtain ⟨place, allowed, error, rfl⟩ := isResult
  cases operator <;> rfl

theorem isResult_of_combine (isResult : first.IsResult) (also : second.IsResult)
    (gives : (around.combine operator first second site).result = .ok given) : given.IsResult := by
  obtain ⟨place, allowed, error, rfl⟩ := isResult
  cases operator
  all_goals
    simp only [combine, meet, join, Run.result_ofAttempt] at gives
    obtain ⟨allows, -, gives⟩ := Attempt.bind_eq_ok.mp gives
    cases allows <;> cases gives <;> first | exact also | exact ⟨place, allowed, error, rfl⟩

theorem isResult_of_consult {function error : Value} {arguments : List Value}
    (gives : (around.consult function error arguments site).result = .ok given) :
    given.IsResult := by
  obtain ⟨answer, -, gives⟩ := Run.result_bind_eq_ok.mp gives
  obtain ⟨reply, -, gives⟩ := Run.result_bind_eq_ok.mp gives
  rw [Run.result_ofAttempt] at gives
  exact Value.isResult_of_verdict gives

theorem consult_of_same {function error : Value} {arguments : List Value}
    (same : after function = before function) :
    consult ⟨facts, after⟩ function error arguments site =
      consult ⟨facts, before⟩ function error arguments site := by
  simp only [consult, same]

theorem checkLeaf_of_itself {object : Value} {given : Leaf} {arguments : List Value}
    (itself : facts.checksItself object = true) :
    checkLeaf ⟨facts, after⟩ object given arguments site =
      checkLeaf ⟨facts, before⟩ object given arguments site := by
  rw [checkLeaf, checkLeaf, if_pos itself, if_pos itself]

end Surroundings

namespace Guard

variable {tree : Guard}

theorem unmoved_pair {operator : Operator} {place : Site} {left right : Guard} :
    (operator.pair place left right).Unmoved facts before after ↔
      left.Unmoved facts before after ∧ right.Unmoved facts before after := by
  cases operator <;> exact Iff.rfl

theorem isResult_of_check (unmoved : tree.Unmoved facts before after)
    (gives : (tree.check ⟨facts, before⟩ context site).result = .ok value) : value.IsResult := by
  induction tree using Guard.pairInduction generalizing site value with
  | pair operator _ left right one other =>
      obtain ⟨leftUnmoved, rightUnmoved⟩ := unmoved_pair.mp unmoved
      rw [check_pair] at gives
      obtain ⟨first, leftGives, gives⟩ := Run.result_bind_eq_ok.mp gives
      obtain ⟨second, rightGives, gives⟩ := Run.result_bind_eq_ok.mp gives
      exact Surroundings.isResult_of_combine (one leftUnmoved leftGives)
        (other rightUnmoved rightGives) gives
  | leaf tree isLeaf =>
      cases tree with
      | both | either => cases isLeaf
      | allowAll | denyAll =>
          cases gives
          exact ⟨_, _, _, rfl⟩
      | function => exact Surroundings.isResult_of_consult gives
      | leaf place cls given =>
          obtain ⟨itself, rules⟩ := unmoved
          rw [result_leaf_check context site itself] at gives
          cases reply : given.reply with
          | gives replied =>
              rw [reply] at gives
              cases gives
              exact rules _ reply
          | raises cause =>
              rw [reply] at gives
              cases gives

/-- The check of a guard is the one that it was, where all that it calls answers as it did. -/
theorem check_of_unmoved (unmoved : tree.Unmoved facts before after) :
    tree.check ⟨facts, after⟩ context site = tree.check ⟨facts, before⟩ context site := by
  induction tree using Guard.pairInduction generalizing site with
  | pair operator _ left right one other =>
      obtain ⟨leftUnmoved, rightUnmoved⟩ := unmoved_pair.mp unmoved
      rw [check_pair, check_pair, one leftUnmoved]
      -- The first part gives a result, so the two are joined without a call.
      refine Run.bind_congr_of_result fun first leftGives => ?_
      rw [other rightUnmoved]
      exact bind_congr fun second =>
        Surroundings.combine_eq_of_result (isResult_of_check leftUnmoved leftGives)
  | leaf tree isLeaf =>
      cases tree with
      | both | either => cases isLeaf
      | allowAll | denyAll => rfl
      | function => exact Surroundings.consult_of_same unmoved
      | leaf => exact Surroundings.checkLeaf_of_itself unmoved.1

end Guard

theorem PostGuard.check_of_unmoved {tree : PostGuard}
    (unmoved : tree.Unmoved facts before after) :
    tree.check ⟨facts, after⟩ context value site =
      tree.check ⟨facts, before⟩ context value site := by
  induction tree using PostGuard.treeInduction generalizing site with
  | both _ _ left right _ one other =>
      simp only [check, one unmoved.1, other unmoved.2]
  | leaf tree isLeaf =>
      cases tree with
      | both => cases isLeaf
      | function => exact Surroundings.consult_of_same unmoved
      | leaf => exact Surroundings.checkLeaf_of_itself unmoved

end Answers

section Functions

/-- What an application function does without asking an object for a method. -/
def Body.Direct : Body → Prop
  | .test (.user ..) | .test (.extra ..) => False
  | _ => True

variable {facts : Facts} {before after : Call} {site : Site} {new : Value}

theorem Test.holds_pin {test : Test} (direct : (Body.test test).Direct) (place : Site)
    (context value : Value) :
    test.holds ⟨facts.pin site new, after⟩ place context value =
      test.holds ⟨facts, before⟩ place context value := by
  cases test with
  | user | extra => cases direct
  | authenticated | organization | owner =>
      simp only [holds]
      rw [Facts.read_pin fun _ => by decide]
  | contextIs | above | shorter | truthy => rfl

theorem Callable.call_pin {function : Callable} (direct : function.body.Direct)
    (arguments : Arguments) (place : Site) :
    function.call ⟨facts.pin site new, after⟩ arguments place =
      function.call ⟨facts, before⟩ arguments place := by
  have same : function.outcome ⟨facts.pin site new, after⟩ arguments place =
      function.outcome ⟨facts, before⟩ arguments place := by
    unfold outcome
    cases body : function.body with
    | reply => simp only [Facts.outcome_pin]
    | argument | echo => rfl
    | test test =>
        rw [body] at direct
        have holds (context value : Value) :
            test.holds ⟨facts.pin site new, after⟩ place context value =
              test.holds ⟨facts, before⟩ place context value := Test.holds_pin direct ..
        simp only [holds]
  simp only [call, same]

theorem Scene.call_pin {function : Callable} (configuration : Configuration)
    (direct : function.body.Direct) :
    call ⟨facts.pin site new, configuration⟩ (.callable function) =
      call ⟨facts, configuration⟩ (.callable function) := by
  funext arguments place
  exact Callable.call_pin direct arguments place

end Functions

namespace Facts

/-- What there can be after type arguments were written to objects at these sites, any number of times. -/
inductive Pins (sites : List Site) (facts : Facts) : Facts → Prop where
  | none : Pins sites facts facts
  | pin {after : Facts} {site : Site} (new : Value) (pins : Pins sites facts after)
      (member : site ∈ sites) : Pins sites facts (after.pin site new)

namespace Pins

variable {sites others : List Site} {facts after last : Facts}

theorem trans (pins : facts.Pins sites after) (later : after.Pins sites last) :
    facts.Pins sites last := by
  induction later with
  | none => exact pins
  | pin new _ member ih => exact ih.pin new member

theorem mono (pins : facts.Pins sites after) (more : sites ⊆ others) : facts.Pins others after := by
  induction pins with
  | none => exact .none
  | pin new _ member ih => exact ih.pin new (more member)

/-- What a pin leaves as it was, any number of them leave as it was. -/
theorem kept {α : Type} (pins : facts.Pins sites after) (tell : Facts → α)
    (pinned : ∀ facts site new, site ∈ sites → tell (facts.pin site new) = tell facts) :
    tell after = tell facts := by
  induction pins with
  | none => rfl
  | pin new _ member ih => exact (pinned _ _ new member).trans ih

end Pins

end Facts

end GuardAlgebra
