import GuardAlgebra.Run

namespace GuardAlgebra

/-! # One after another

A run that raises ends everything behind it. `throughRaise` is what is left of several runs in a row:
all of them, or those up to the first that raises, and `firstRaise?` is what that one raises.
-/

theorem Attempt.bind_eq_ok {ε α β : Type} {first : Except ε α} {next : α → Except ε β} {last : β} :
    first >>= next = .ok last ↔ ∃ value, first = .ok value ∧ next value = .ok last := by
  cases first with
  | ok value =>
      simp only [Except.ok.injEq, exists_eq_left']
      rfl
  | error cause =>
      simp only [reduceCtorEq, false_and, exists_false, iff_false]
      exact fun given => nomatch given

theorem Attempt.bind_eq_error {ε α β : Type} {first : Except ε α} {next : α → Except ε β} {cause : ε} :
    first >>= next = .error cause ↔
      first = .error cause ∨ ∃ value, first = .ok value ∧ next value = .error cause := by
  cases first with
  | ok value =>
      simp only [reduceCtorEq, Except.ok.injEq, exists_eq_left', false_or]
      rfl
  | error other =>
      change (Except.error other : Except ε β) = .error cause ↔ _
      simp only [reduceCtorEq, false_and, exists_false, or_false, Except.error.injEq]

theorem Attempt.map_eq_ok {ε α β : Type} {first : Except ε α} {view : α → β} {last : β} :
    first.map view = .ok last ↔ ∃ value, first = .ok value ∧ view value = last := by
  cases first with
  | ok value => simp only [Except.map, Except.ok.injEq, exists_eq_left']
  | error cause => simp only [Except.map, reduceCtorEq, false_and, exists_false]

theorem attempt_eq_ok {α : Type} {site : Site} {outcome : Except Fault α} {value : α} :
    attempt site outcome = .ok value ↔ outcome = .ok value := by
  cases outcome with
  | error fault => constructor <;> intro same <;> cases same
  | ok given => constructor <;> intro same <;> cases same <;> rfl

theorem attempt_eq_error {α : Type} {site : Site} {outcome : Except Fault α} {cause : Exception} :
    attempt site outcome = .error cause ↔
      ∃ fault, outcome = .error fault ∧ cause = .fault site fault := by
  cases outcome with
  | ok value => exact ⟨fun same => (nomatch same), fun ⟨_, same, _⟩ => nomatch same⟩
  | error fault =>
      constructor
      · intro same
        cases same
        exact ⟨fault, rfl, rfl⟩
      · rintro ⟨_, ⟨⟩, rfl⟩
        rfl

namespace Run

variable {α β : Type} {run : Run α} {next : α → Run β} {value : α} {cause : Exception}

theorem result_bind_of_ok (given : run.result = .ok value) :
    (run >>= next).result = (next value).result := by
  rw [result_bind, given]
  rfl

theorem result_bind_of_error (failed : run.result = .error cause) :
    (run >>= next).result = .error cause := by
  rw [result_bind, failed]
  rfl

theorem events_bind_of_ok (given : run.result = .ok value) :
    (run >>= next).events = run.events ++ (next value).events := by
  rw [events_bind, given]

theorem events_bind_of_error (failed : run.result = .error cause) :
    (run >>= next).events = run.events := by
  rw [events_bind, failed]
  exact List.append_nil _

theorem invocations_bind_of_ok (given : run.result = .ok value) :
    (run >>= next).invocations = run.invocations ++ (next value).invocations := by
  rw [invocations, events_bind_of_ok given, List.filterMap_append]
  rfl

theorem invocations_bind_of_error (failed : run.result = .error cause) :
    (run >>= next).invocations = run.invocations := by
  rw [invocations, events_bind_of_error failed]
  rfl

theorem bind_congr_of_result {other : α → Run β}
    (same : ∀ value, run.result = .ok value → next value = other value) :
    run >>= next = run >>= other := by
  induction run with
  | done value => exact same value rfl
  | raised cause => rfl
  | emit event rest ih => exact congrArg (Run.emit event) (ih same)
  | pause rest ih => exact congrArg Run.pause (ih same)

theorem result_bind_eq_ok {last : β} :
    (run >>= next).result = .ok last ↔
      ∃ value, run.result = .ok value ∧ (next value).result = .ok last := by
  cases ended : run.result with
  | ok value =>
      rw [result_bind_of_ok ended]
      simp only [Except.ok.injEq, exists_eq_left']
  | error cause =>
      rw [result_bind_of_error ended]
      simp only [reduceCtorEq, false_and, exists_false]

theorem result_map (run : Run α) (view : α → β) : (view <$> run).result = run.result.map view := by
  rw [map_eq_pure_bind, result_bind]
  cases run.result <;> rfl

theorem events_map (run : Run α) (view : α → β) : (view <$> run).events = run.events := by
  rw [map_eq_pure_bind, events_bind]
  cases run.result <;> exact List.append_nil _

@[simp] theorem result_done (value : α) : (done value).result = .ok value := rfl

@[simp] theorem events_done (value : α) : (done value).events = [] := rfl

@[simp] theorem invocations_ofAttempt (attempt : Attempt α) : (ofAttempt attempt).invocations = [] := by
  cases attempt <;> rfl

@[simp] theorem result_ofExcept (site : Site) (outcome : Except Fault α) :
    (ofExcept site outcome).result = attempt site outcome := result_ofAttempt _

theorem result_ofExcept_eq_ok {site : Site} {outcome : Except Fault α} :
    (ofExcept site outcome).result = .ok value ↔ outcome = .ok value := by
  rw [result_ofExcept, attempt_eq_ok]

/-- The runs up to the first that raises, with that one. -/
def throughRaise : List (Run α) → List (Run α)
  | [] => []
  | run :: rest =>
      match run.result with
      | .ok _ => run :: throughRaise rest
      | .error _ => [run]

/-- What the first run that raises raises. -/
def firstRaise? : List (Run α) → Option Exception
  | [] => none
  | run :: rest =>
      match run.result with
      | .ok _ => firstRaise? rest
      | .error cause => some cause

variable {runs : List (Run α)}

theorem firstRaise?_eq_none_iff :
    firstRaise? runs = none ↔ ∀ run ∈ runs, ∃ value, run.result = .ok value := by
  induction runs with
  | nil => simp [firstRaise?]
  | cons run rest ih =>
      cases ended : run.result with
      | ok value => simp [firstRaise?, ended, ih]
      | error cause => simp [firstRaise?, ended]

theorem exists_split_of_firstRaise? (raises : firstRaise? runs = some cause) :
    ∃ before run after, runs = before ++ run :: after ∧
      (∀ earlier ∈ before, ∃ value, earlier.result = .ok value) ∧ run.result = .error cause := by
  induction runs with
  | nil => simp [firstRaise?] at raises
  | cons run rest ih =>
      cases ended : run.result with
      | ok value =>
          have restRaises : firstRaise? rest = some cause := by
            simpa only [firstRaise?, ended] using raises
          obtain ⟨before, failing, after, split, earlier, failed⟩ := ih restRaises
          refine ⟨run :: before, failing, after, ?_, ?_, failed⟩
          · rw [split, List.cons_append]
          · exact List.forall_mem_cons.mpr ⟨⟨value, ended⟩, earlier⟩
      | error failure =>
          have same : failure = cause := by simpa [firstRaise?, ended] using raises
          exact ⟨[], run, rest, rfl, List.forall_mem_nil _, same ▸ ended⟩

theorem throughRaise_of_none (quiet : firstRaise? runs = none) : throughRaise runs = runs := by
  induction runs with
  | nil => rfl
  | cons run rest ih =>
      cases ended : run.result with
      | ok value =>
          have restQuiet : firstRaise? rest = none := by simpa only [firstRaise?, ended] using quiet
          simp only [throughRaise, ended, ih restQuiet]
      | error cause => simp [firstRaise?, ended] at quiet

theorem firstRaise?_append (first second : List (Run α)) :
    firstRaise? (first ++ second) = (firstRaise? first).or (firstRaise? second) := by
  induction first with
  | nil => rfl
  | cons run rest ih =>
      cases ended : run.result with
      | ok value => simpa only [List.cons_append, firstRaise?, ended] using ih
      | error cause => simp only [List.cons_append, firstRaise?, ended, Option.some_or]

theorem throughRaise_append_of_none {first second : List (Run α)}
    (quiet : firstRaise? first = none) :
    throughRaise (first ++ second) = first ++ throughRaise second := by
  induction first with
  | nil => rfl
  | cons run rest ih =>
      cases ended : run.result with
      | ok value =>
          have restQuiet : firstRaise? rest = none := by simpa only [firstRaise?, ended] using quiet
          simp only [List.cons_append, throughRaise, ended, ih restQuiet]
      | error cause => simp [firstRaise?, ended] at quiet

theorem throughRaise_append_of_some {first second : List (Run α)}
    (raises : firstRaise? first = some cause) :
    throughRaise (first ++ second) = throughRaise first := by
  induction first with
  | nil => simp [firstRaise?] at raises
  | cons run rest ih =>
      cases ended : run.result with
      | ok value =>
          have restRaises : firstRaise? rest = some cause := by
            simpa only [firstRaise?, ended] using raises
          simp only [List.cons_append, throughRaise, ended, ih restRaises]
      | error cause => simp only [List.cons_append, throughRaise, ended]

/-- Where a run is the first to raise, what is left of the row ends with it. -/
theorem first_raise_of_split {before : List (Run α)} (after : List (Run α))
    (earlier : ∀ run ∈ before, ∃ value, run.result = .ok value)
    (failed : run.result = .error cause) :
    firstRaise? (before ++ run :: after) = some cause ∧
      throughRaise (before ++ run :: after) = before ++ [run] := by
  have quiet := firstRaise?_eq_none_iff.mpr earlier
  constructor
  · rw [firstRaise?_append, quiet]
    simp only [firstRaise?, failed, Option.none_or]
  · rw [throughRaise_append_of_none quiet]
    simp only [throughRaise, failed]

end Run

end GuardAlgebra
