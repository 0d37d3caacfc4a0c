import Stencil.Session

/-!
A shared matcher is made once.

Owns:
- `Shared.firstMaking`, the index of the first step of a run that can make the matcher, and
  `Shared.madeBy`, the matcher that it makes;
- what settings do to a shared matcher: if they cannot be used (`perform_failing_init`), if none was
  made before (`perform_init`) and afterwards (`perform_made_init`);
- what a run does to a shared matcher that was made (`performAll_made`) and to one that was not
  (`performAll_unmade`).

The main statement is `performAll_isolated`: the steps of a run that use the shared matcher are
answered as on a matcher of their own.
-/

namespace Stencil.Shared

section Measured

variable [Regex.Measure]

/-! ### Steps -/

/-- The matcher that a step makes if none was made before. -/
def Step.made? : Step → Option Matcher
  | .init config => (Matcher.withConfig config).toOption
  | .use _ => some Matcher.standard

/-- The step on the matcher itself, if there is one. -/
def Step.use? : Step → Option Stencil.Step
  | .init _ => none
  | .use step => some step

/-- The index of the first step that makes the matcher. -/
def firstMaking (steps : List Step) : Nat := steps.findIdx fun step => step.made?.isSome

/-- The matcher that the first step makes that can; the standard one if no step can. -/
def madeBy (steps : List Step) : Matcher :=
  (steps[firstMaking steps]?.bind Step.made?).getD Matcher.standard

/-- The answers to the steps that use the matcher. -/
def useAnswers : List Step → List Answer → List Answer
  | .init _ :: steps, _ :: answers => useAnswers steps answers
  | .use _ :: steps, answer :: answers => answer :: useAnswers steps answers
  | _, _ => []

theorem made?_init_eq_some_iff {config : Config} {matcher : Matcher} :
    (Step.init config).made? = some matcher ↔ Matcher.withConfig config = .ok matcher := by
  simp only [Step.made?]
  cases Matcher.withConfig config <;> simp [Except.toOption]

theorem made?_init_eq_none_iff {config : Config} :
    (Step.init config).made? = none ↔ ∃ error, Matcher.withConfig config = .error error := by
  simp only [Step.made?]
  cases Matcher.withConfig config <;> simp [Except.toOption]

/-- Settings that cannot be used change nothing, and the answer tells why. -/
theorem perform_failing_init {config : Config} {error : Error}
    (fails : Matcher.withConfig config = .error error) (shared : Shared) :
    shared.perform (.init config) = (.failure error, shared) := by
  simp [perform, init, fails, Answer.ofExcept]

/-- The first settings that can be used make the matcher. -/
theorem perform_init {config : Config} {matcher : Matcher}
    (makes : Matcher.withConfig config = .ok matcher) :
    perform {} (.init config) = (.flag true, ⟨some matcher⟩) := by
  simp [perform, init, makes, Answer.ofExcept]

/-- Later settings are validated and not used. -/
theorem perform_made_init (matcher : Matcher) (config : Config) :
    perform ⟨some matcher⟩ (.init config) =
      (.ofExcept (fun _ => .flag false) (Matcher.withConfig config), ⟨some matcher⟩) := by
  cases makes : Matcher.withConfig config with
  | ok other => simp [perform, init, makes, Answer.ofExcept]
  | error error => simp [perform, init, makes, Answer.ofExcept]

/-! ### Runs -/

/-- Once the matcher was made, settings have no say in what becomes of it. -/
theorem performAll_made (matcher : Matcher) (steps : List Step) :
    (performAll ⟨some matcher⟩ steps).2 =
        ⟨some (matcher.performAll (steps.filterMap Step.use?)).2⟩ ∧
      useAnswers steps (performAll ⟨some matcher⟩ steps).1 =
        (matcher.performAll (steps.filterMap Step.use?)).1 := by
  induction steps generalizing matcher with
  | nil => exact ⟨rfl, rfl⟩
  | cons step rest inductionHypothesis =>
      cases step with
      | init config =>
          simp only [performAll, perform_made_init, useAnswers]
          exact inductionHypothesis matcher
      | use step =>
          obtain ⟨state, answers⟩ := inductionHypothesis (matcher.perform step).2
          exact ⟨state, congrArg _ answers⟩

theorem findSome?_made? (steps : List Step) :
    steps.findSome? Step.made? = steps[firstMaking steps]?.bind Step.made? := by
  induction steps with
  | nil => rfl
  | cons step rest inductionHypothesis =>
      rw [List.findSome?_cons, firstMaking, List.findIdx_cons]
      cases makes : step.made? with
      | none => exact inductionHypothesis
      | some made => exact makes.symm

/-- Settings that cannot be used leave the matcher to be made by a later step. -/
theorem performAll_unmade (steps : List Step) :
    (performAll {} steps).2.matcher? =
        (steps.findSome? Step.made?).map
          (fun made => (made.performAll (steps.filterMap Step.use?)).2) ∧
      useAnswers steps (performAll {} steps).1 =
        (((steps.findSome? Step.made?).getD Matcher.standard).performAll
          (steps.filterMap Step.use?)).1 := by
  induction steps with
  | nil => exact ⟨rfl, rfl⟩
  | cons step rest inductionHypothesis =>
      cases makes : step.made? with
      | none =>
          cases step with
          | init config =>
              obtain ⟨error, fails⟩ := made?_init_eq_none_iff.mp makes
              simp only [performAll, perform_failing_init fails, useAnswers, List.findSome?_cons,
                makes]
              exact inductionHypothesis
          | use step => simp [Step.made?] at makes
      | some made =>
          cases step with
          | init config =>
              have performed := perform_init (made?_init_eq_some_iff.mp makes)
              obtain ⟨state, answers⟩ := performAll_made made rest
              simp only [performAll, performed, useAnswers, List.findSome?_cons, makes]
              exact ⟨congrArg matcher? state, answers⟩
          | use step =>
              obtain rfl : Matcher.standard = made := Option.some.inj makes
              obtain ⟨state, answers⟩ := performAll_made (Matcher.standard.perform step).2 rest
              exact ⟨congrArg matcher? state, congrArg _ answers⟩

/-- The answer at an index is that of the step there after the steps before it. -/
theorem performAll_getElem? (shared : Shared) (steps : List Step) (index : Nat) :
    (shared.performAll steps).1[index]? =
      steps[index]?.map fun step => ((shared.performAll (steps.take index)).2.perform step).1 := by
  induction steps generalizing shared index with
  | nil => rfl
  | cons step rest inductionHypothesis =>
      cases index with
      | zero => rfl
      | succ index => exact inductionHypothesis _ index

theorem performAll_append (shared : Shared) (before after : List Step) :
    (shared.performAll (before ++ after)).2 =
      ((shared.performAll before).2.performAll after).2 := by
  induction before generalizing shared with
  | nil => rfl
  | cons step rest inductionHypothesis => exact inductionHypothesis _

/-- The matcher is not made before the step that is the first to make it, and it is afterwards. -/
theorem matcher?_eq_none_iff {steps : List Step} {index : Nat} (within : index ≤ steps.length) :
    (performAll {} (steps.take index)).2.matcher? = none ↔ index ≤ firstMaking steps := by
  have length : (steps.take index).length = index := by
    rw [List.length_take, Nat.min_eq_left within]
  have unmade : (steps.take index).findSome? Step.made? = none ↔
      (steps.take index).findIdx (fun step => step.made?.isSome) = (steps.take index).length := by
    rw [List.findSome?_eq_none_iff, List.findIdx_eq_length]
    simp only [Option.isSome_eq_false_iff, Option.isNone_iff_eq_none]
  rw [(performAll_unmade _).1, Option.map_eq_none_iff, unmade, List.findIdx_take, length,
    firstMaking]
  omega

/-! ### Settings in a run -/

variable {steps : List Step} {index : Nat} {config : Config}

theorem made?_at_firstMaking {step : Step} (first : steps[firstMaking steps]? = some step) :
    step.made? = some (madeBy steps) := by
  have makes : step.made?.isSome = true := by
    obtain ⟨within, rfl⟩ := List.getElem?_eq_some_iff.mp first
    exact @List.findIdx_getElem Step (fun step => step.made?.isSome) steps within
  obtain ⟨made, makes⟩ := Option.isSome_iff_exists.mp makes
  rw [madeBy, first, Option.bind_some, makes, Option.getD_some]

/-- What settings do depends on where they stand to the first step that makes the matcher. -/
theorem perform_init_cases (present : steps[index]? = some (.init config)) :
    (index < firstMaking steps ∧ ∃ error, Matcher.withConfig config = .error error ∧
      (performAll {} (steps.take index)).2.perform (.init config) =
        (.failure error, (performAll {} (steps.take index)).2)) ∨
    (index = firstMaking steps ∧ Matcher.withConfig config = .ok (madeBy steps) ∧
      (performAll {} (steps.take index)).2.perform (.init config) =
        (.flag true, ⟨some (madeBy steps)⟩)) ∨
    (firstMaking steps < index ∧
      (performAll {} (steps.take index)).2.perform (.init config) =
        (.ofExcept (fun _ => .flag false) (Matcher.withConfig config),
          (performAll {} (steps.take index)).2)) := by
  obtain ⟨within, here⟩ := List.getElem?_eq_some_iff.mp present
  have unmade := matcher?_eq_none_iff (Nat.le_of_lt within)
  rcases Nat.lt_trichotomy index (firstMaking steps) with before | same | after
  · refine .inl ⟨before, ?_⟩
    have fails : (Step.init config).made? = none := by
      rw [← here]
      simpa using List.not_of_lt_findIdx before
    obtain ⟨error, fails⟩ := made?_init_eq_none_iff.mp fails
    exact ⟨error, fails, perform_failing_init fails _⟩
  · refine .inr (.inl ⟨same, ?_⟩)
    have makes : Matcher.withConfig config = .ok (madeBy steps) :=
      made?_init_eq_some_iff.mp (made?_at_firstMaking (same ▸ present))
    have empty : (performAll {} (steps.take index)).2 = {} := by
      have none := unmade.mpr (Nat.le_of_eq same)
      cases state : (performAll {} (steps.take index)).2
      rw [state] at none
      exact congrArg Shared.mk none
    exact ⟨makes, by rw [empty]; exact perform_init makes⟩
  · refine .inr (.inr ⟨after, ?_⟩)
    have made : (performAll {} (steps.take index)).2.matcher? ≠ none :=
      fun none => absurd (unmade.mp none) (Nat.not_le.mpr after)
    obtain ⟨matcher, made⟩ := Option.ne_none_iff_exists'.mp made
    have state : (performAll {} (steps.take index)).2 = ⟨some matcher⟩ := by
      cases state : (performAll {} (steps.take index)).2
      rw [state] at made
      exact congrArg Shared.mk made
    rw [state]
    exact perform_made_init matcher config

/-- The first step of a run that can make the shared matcher does so. Settings before it fail and
have no effect; the only settings that are taken, if any, are those of that step; settings after it
are validated and have no effect; and the steps that use the matcher are answered as on a matcher of
their own, made from those settings or, if the first step is a use, with the default ones. -/
theorem performAll_isolated (steps : List Step) :
    let answers := (performAll {} steps).1
    let stateAt (index : Nat) := (performAll {} (steps.take index)).2
    let first := firstMaking steps
    let isolated := madeBy steps
    (∀ index config, steps[index]? = some (.init config) →
      (index < first → stateAt (index + 1) = stateAt index ∧
        ∃ error, Matcher.withConfig config = .error error ∧
          answers[index]? = some (.failure error)) ∧
      (index = first → Matcher.withConfig config = .ok isolated ∧
        stateAt (index + 1) = ⟨some isolated⟩) ∧
      (answers[index]? = some (.flag true) ↔ index = first) ∧
      (first < index → stateAt (index + 1) = stateAt index ∧
        answers[index]? =
          some (.ofExcept (fun _ => .flag false) (Matcher.withConfig config)))) ∧
      (∀ step, steps[first]? = some (.use step) → isolated = Matcher.standard) ∧
      useAnswers steps answers = (isolated.performAll (steps.filterMap Step.use?)).1 := by
  intro answers stateAt first isolated
  refine ⟨fun index config present => ?_, fun step present => ?_, ?_⟩
  · have answer : answers[index]? = some ((stateAt index).perform (.init config)).1 := by
      simp only [answers, stateAt]
      rw [performAll_getElem?, present, Option.map_some]
    have state : stateAt (index + 1) = ((stateAt index).perform (.init config)).2 := by
      simp only [stateAt]
      rw [List.take_add_one, present, Option.toList_some, performAll_append]
      rfl
    rw [answer, state]
    rcases perform_init_cases present with
      ⟨before, error, fails, performed⟩ | ⟨same, makes, performed⟩ | ⟨after, performed⟩
    all_goals simp only [stateAt, performed]
    · refine ⟨fun _ => ⟨trivial, error, fails, rfl⟩, by omega, ?_, by omega⟩
      simp [Nat.ne_of_lt before, first]
    · refine ⟨by omega, fun _ => ⟨makes, rfl⟩, ?_, by omega⟩
      simp [same, first]
    · refine ⟨by omega, by omega, ?_, fun _ => ⟨trivial, trivial⟩⟩
      cases Matcher.withConfig config <;> simp [Answer.ofExcept, Nat.ne_of_gt after, first]
  · have makes := made?_at_firstMaking present
    exact (Option.some.inj makes).symm
  · have answered := (performAll_unmade steps).2
    rw [findSome?_made?] at answered
    exact answered

end Measured

/-- The first settings cannot be used, the second are those of the matcher, and the last come too
late: the input is refused under the second settings. -/
theorem performAll_isolated_second :
    let steps : List Step := [.init { maxIdentifierLength := 0 }, .init { maxInputLength := 1 },
      .use (.tryTest "ab" "x"), .init {}]
    (performAll {} (steps.take 1)).2 = (performAll {} (steps.take 0)).2 ∧
      (performAll {} steps).1[1]? = some (.flag true) ∧
      (performAll {} (steps.take 4)).2 = (performAll {} (steps.take 3)).2 ∧
      useAnswers steps (performAll {} steps).1 = [.failure (.inputTooLong 2 1)] := by
  intro steps
  obtain ⟨inits, _, answered⟩ := performAll_isolated steps
  have second : firstMaking steps = 1 := by decide +kernel
  rw [second] at inits
  refine ⟨((inits 0 _ rfl).1 (by decide)).1, (inits 1 _ rfl).2.2.1.mpr rfl,
    ((inits 3 _ rfl).2.2.2 (by decide)).1, answered.trans rfl⟩

end Stencil.Shared
