import Stencil.Proofs.Events
import Stencil.Proofs.Matcher.CacheUse

/-!
The account of a matcher's cache tells what was done with the matcher.

Owns:
- what can be counted of the events since the cache of a matcher was cleared
  (`Matcher.countCompiling`, `Matcher.countMatching`, `Matcher.countRefused`);
- `Matcher.Accounted`, the invariant that ties the account to these events.

The main statement is `performAll_accounted`: the look-ups are the steps that come to use a pattern,
and every look-up in vain ends in an insertion unless a strict step was refused.
-/

namespace Stencil

namespace Step

/-- Whether a step compiles a pattern whatever the inputs are. -/
def compiles : Step → Bool
  | .compile _ | .tryCompile _ | .testBatch _ _ => true
  | _ => false

/-- The input of a step that matches a single one. -/
def input? : Step → Option String
  | .test input _ | .tryTest input _ | .isMatch input _ => some input
  | _ => none

def isClear : Step → Bool
  | .clearCache => true
  | _ => false

theorem isClear_iff {step : Step} : step.isClear = true ↔ step = .clearCache := by
  cases step <;> simp [isClear]

end Step

/-- What the calls that look a pattern up add to the account, where evictions are left open. -/
theorem Cache.stats_lookUpOps {cache : Cache} (kept : cache.WellKept)
    (enabled : cache.isEnabled = true) {text : String} {pattern? : Option Pattern}
    (own : ∀ pattern, pattern? = some pattern → pattern.text = text) :
    ∃ evictions,
      (cache.run (cache.lookUpOps text pattern?)).stats =
        { cache.stats with
          lookups := cache.stats.lookups + 1
          hits := cache.stats.hits + (if (cache.find? text).isSome then 1 else 0)
          misses := cache.stats.misses + (if (cache.find? text).isSome then 0 else 1)
          insertions := cache.stats.insertions +
            (if (cache.find? text).isSome then 0 else pattern?.toList.length)
          evictions } := by
  have looked := stats_get enabled text
  unfold lookUpOps
  rw [kept.get_fst] at looked ⊢
  by_cases found : (cache.find? text).isSome = true
  · simp only [found, if_true] at looked ⊢
    exact ⟨_, looked⟩
  · simp only [found] at looked ⊢
    cases pattern? with
    | none => exact ⟨_, looked⟩
    | some pattern =>
        have absent : (cache.get text).2.find? pattern.text = none := by
          rw [own pattern rfl, find?_get]
          exact Option.not_isSome_iff_eq_none.mp found
        have stillEnabled := (isEnabled_apply cache (.get text)).trans enabled
        have inserted := stats_insert (kept.get text) stillEnabled pattern
        rw [absent, looked] at inserted
        exact ⟨_, inserted⟩

namespace Matcher

/-! ### Events -/

/-- Steps with the matchers that they are performed on. -/
abbrev Events := List (Event Matcher Step)

/-- The events after the last one that cleared the cache; all of them, if none did. -/
abbrev sinceClear (events : Events) : Events := sinceReset Step.isClear events

/-- The number of the events that compile a pattern whatever the inputs are. -/
def countCompiling (events : Events) : Nat := events.countP fun event => event.action.compiles

/-- The number of the events that match an input whose length is within a limit. -/
def countMatching (limit : Nat) (events : Events) : Nat :=
  events.countP fun event => event.action.input?.any fun input => input.utf8ByteSize ≤ limit

/-- A step that compiles a pattern in any case does not match a single input. -/
theorem countCompiling_add_countMatching_le (limit : Nat) (events : Events) :
    countCompiling events + countMatching limit events ≤ events.length := by
  induction events with
  | nil => exact Nat.le_refl 0
  | cons event rest inductionHypothesis =>
      have once : event.action.compiles = false ∨ event.action.input? = none := by
        cases event.action <;> simp [Step.compiles, Step.input?]
      unfold countCompiling countMatching at inductionHypothesis ⊢
      rw [List.countP_cons, List.countP_cons, List.length_cons]
      rcases once with never | never <;> rw [never]
      · rw [if_neg Bool.false_ne_true]
        split <;> omega
      · rw [Option.any_none, if_neg Bool.false_ne_true]
        split <;> omega

section Measured

variable [Regex.Measure]

/-- The events of a run of a matcher. -/
def events (matcher : Matcher) (steps : List Step) : Events :=
  eventsFrom (fun matcher step => (matcher.perform step).2) matcher steps

/-- Whether a step looked its pattern up in vain and was then refused because of it. -/
def isRefusedMiss (event : Event Matcher Step) : Bool :=
  event.action.strictPattern?.any (fun text => (event.before.cache.find? text).isNone) &&
    (event.before.perform event.action).1.refusesPattern

/-- The number of the events at which a pattern was looked up in vain and refused. -/
def countRefused (events : Events) : Nat := events.countP isRefusedMiss

theorem countRefused_concat (past : Events) (event : Event Matcher Step) :
    countRefused (past ++ [event]) = countRefused past + if isRefusedMiss event then 1 else 0 := by
  rw [countRefused, List.countP_append, List.countP_singleton, countRefused]

variable {matcher : Matcher}

/-- A step looks a pattern up if it compiles one in any case or if its input is short enough. -/
theorem countCompiling_add_countMatching_concat (past : Events) (matcher : Matcher)
    (step : Step) :
    countCompiling (past ++ [⟨matcher, step⟩]) +
        countMatching matcher.config.maxInputLength (past ++ [⟨matcher, step⟩]) =
      countCompiling past + countMatching matcher.config.maxInputLength past +
        if (matcher.lookUp? step).isSome then 1 else 0 := by
  unfold countCompiling countMatching
  rw [List.countP_append, List.countP_append, List.countP_singleton, List.countP_singleton]
  cases step <;> simp [Step.compiles, Step.input?, lookUp?, admits] <;> grind

/-- A pattern is refused after a look-up in vain exactly if there is then nothing to keep of it. -/
theorem Coherent.isRefusedMiss_iff (coherent : matcher.Coherent) (step : Step) :
    isRefusedMiss ⟨matcher, step⟩ = true ↔
      ∃ text, matcher.lookUp? step = some (text, none) ∧ matcher.cache.find? text = none := by
  simp only [isRefusedMiss, Bool.and_eq_true, Option.any_eq_true, Option.isNone_iff_eq_none]
  constructor
  · rintro ⟨⟨text, strict, absent⟩, refused⟩
    exact ⟨text, (coherent.refusesPattern_iff strict).mp refused, absent⟩
  · rintro ⟨text, nothing, absent⟩
    have strict := strictPattern?_of_lookUp? nothing
    exact ⟨⟨text, strict, absent⟩, (coherent.refusesPattern_iff strict).mpr nothing⟩

/-! ### The invariant -/

/-- The account agrees with the events since the cache was cleared last. -/
structure Accounted (stats : CacheStats) (limit : Nat) (recent : Events) : Prop where
  lookups : stats.lookups = countCompiling recent + countMatching limit recent
  outcomes : stats.hits + stats.misses = stats.lookups
  insertions : stats.insertions + countRefused recent = stats.misses

theorem accounted_nil (limit : Nat) : Accounted {} limit [] := ⟨rfl, rfl, rfl⟩

namespace Accounted

variable {recent : Events} {step : Step}

/-- A look-up in vain is an insertion or a refusal, and one that finds a pattern is neither. -/
theorem lookUp (invariant : matcher.Invariant) (enabled : matcher.cache.isEnabled = true)
    (accounted : Accounted matcher.cache.stats matcher.config.maxInputLength recent)
    {text : String} {pattern? : Option Pattern}
    (lookedUp : matcher.lookUp? step = some (text, pattern?)) :
    Accounted (matcher.cache.run (matcher.cache.lookUpOps text pattern?)).stats
      matcher.config.maxInputLength (recent ++ [⟨matcher, step⟩]) := by
  obtain ⟨lookups, outcomes, insertions⟩ := accounted
  have counted := countCompiling_add_countMatching_concat recent matcher step
  have refused := countRefused_concat recent ⟨matcher, step⟩
  have refusal : isRefusedMiss ⟨matcher, step⟩ = true ↔
      pattern? = none ∧ matcher.cache.find? text = none := by
    rw [invariant.coherent.isRefusedMiss_iff, lookedUp]
    grind
  have own : ∀ pattern, pattern? = some pattern → pattern.text = text := by
    rintro pattern rfl
    exact text_of_lookUp? lookedUp
  obtain ⟨evictions, after⟩ := Cache.stats_lookUpOps invariant.wellKept enabled own
  rw [lookedUp, Option.isSome_some, if_pos rfl] at counted
  rw [after]
  cases found : matcher.cache.find? text with
  | some pattern =>
      simp only [found, reduceCtorEq, and_false, iff_false] at refusal
      rw [if_neg refusal] at refused
      constructor <;> simp only [Option.isSome_some, if_true] <;> omega
  | none =>
      simp only [found, and_true] at refusal
      cases pattern? with
      | none =>
          rw [if_pos (refusal.mpr rfl)] at refused
          constructor <;> simp only [Option.isSome_none, Bool.false_eq_true, if_false,
            Option.toList_none, List.length_nil] <;> omega
      | some pattern =>
          rw [if_neg (fun refuses => by simpa using refusal.mp refuses)] at refused
          constructor <;> simp only [Option.isSome_none, Bool.false_eq_true, if_false,
            Option.toList_some, List.length_singleton] <;> omega

/-- A step that looks no pattern up is not counted. -/
theorem unused (invariant : matcher.Invariant) {stats : CacheStats}
    (accounted : Accounted stats matcher.config.maxInputLength recent)
    (noLookUp : matcher.lookUp? step = none) (invalidations : Nat) :
    Accounted { stats with invalidations } matcher.config.maxInputLength
      (recent ++ [⟨matcher, step⟩]) := by
  obtain ⟨lookups, outcomes, insertions⟩ := accounted
  have counted := countCompiling_add_countMatching_concat recent matcher step
  have refused := countRefused_concat recent ⟨matcher, step⟩
  have noRefusal : ¬ isRefusedMiss ⟨matcher, step⟩ = true := by
    rw [invariant.coherent.isRefusedMiss_iff, noLookUp]
    simp
  rw [noLookUp, Option.isSome_none, if_neg Bool.false_ne_true] at counted
  rw [if_neg noRefusal] at refused
  constructor <;> dsimp only <;> omega

/-- What every step preserves. -/
theorem perform {past : Events} (invariant : matcher.Invariant)
    (enabled : matcher.cache.isEnabled = true)
    (accounted : Accounted matcher.cache.stats matcher.config.maxInputLength (sinceClear past))
    (step : Step) :
    Accounted (matcher.perform step).2.cache.stats matcher.config.maxInputLength
      (sinceClear (past ++ [⟨matcher, step⟩])) := by
  rw [perform_cache, sinceClear, sinceReset_concat]
  cases clears : step.isClear with
  | true =>
      obtain rfl := Step.isClear_iff.mp clears
      exact accounted_nil _
  | false =>
      rw [if_neg Bool.false_ne_true]
      rcases invariant.coherent.cacheOps_cases step with
        ⟨text, pattern?, lookedUp, ops⟩ | ⟨noLookUp, ops | ops | ⟨rfl, _⟩⟩
      · rw [ops]
        exact accounted.lookUp invariant enabled lookedUp
      · rw [ops]
        exact accounted.unused invariant noLookUp _
      · rw [ops, Cache.run, List.foldl_cons, List.foldl_nil, Cache.apply, Cache.stats_invalidate]
        exact accounted.unused invariant noLookUp _
      · simp [Step.isClear] at clears

/-- What every run preserves. -/
theorem performAll {past : Events} (invariant : matcher.Invariant)
    (enabled : matcher.cache.isEnabled = true)
    (accounted : Accounted matcher.cache.stats matcher.config.maxInputLength
      (sinceClear past))
    (steps : List Step) :
    Accounted (matcher.performAll steps).2.cache.stats matcher.config.maxInputLength
      (sinceClear (past ++ matcher.events steps)) := by
  let limit := matcher.config.maxInputLength
  let keeps (matcher : Matcher) (past : Events) : Prop :=
    Accounted matcher.cache.stats limit (sinceClear past) ∧ matcher.Invariant ∧
      matcher.cache.isEnabled = true ∧ matcher.config.maxInputLength = limit
  have step : ∀ matcher past step, keeps matcher past →
      keeps (matcher.perform step).2 (past ++ [⟨matcher, step⟩]) := by
    rintro matcher past step ⟨accounted, invariant, enabled, same⟩
    rw [← same] at accounted
    refine ⟨same ▸ accounted.perform invariant enabled step, invariant.perform step,
      (isEnabled_perform matcher step).trans enabled, ?_⟩
    rw [perform_config invariant.coherent, same]
  have start : keeps matcher past := ⟨accounted, invariant, enabled, rfl⟩
  rw [performAll_snd]
  exact (foldl_keeps step start steps).1

end Accounted

/-- Since a matcher was made or its cache cleared last, its account counts as look-ups the steps
that compile a pattern and those that match an input of a length within the limit, each of them as a
hit or a miss, and as insertions the misses without those strict steps that were refused because of
their pattern. A strict step that finds a pattern inserts none, even if the one it finds never
matches, and no step inserts a pattern of which one is kept. -/
theorem performAll_accounted (made : Made matcher) (enabled : matcher.config.cache.enabled = true)
    (positive : 0 < matcher.config.cache.maxSize) (steps : List Step) :
    let after := (matcher.performAll steps).2
    let recent := sinceClear (matcher.events steps)
    after.cache.stats.lookups =
        countCompiling recent + countMatching matcher.config.maxInputLength recent ∧
      after.cache.stats.hits + after.cache.stats.misses = after.cache.stats.lookups ∧
      after.cache.stats.insertions + countRefused recent = after.cache.stats.misses ∧
      after.cache.stats.lookups ≤ steps.length ∧
      ∀ step, after.InsertsOnlyAbsent step := by
  intro after recent
  have invariant := made.invariant
  have start : Accounted matcher.cache.stats matcher.config.maxInputLength (sinceClear []) := by
    obtain ⟨filters, config, rfl⟩ := made.exists_build
    exact accounted_nil _
  have accounted : Accounted after.cache.stats matcher.config.maxInputLength recent :=
    start.performAll invariant (invariant.isEnabled_iff.mpr ⟨enabled, positive⟩) steps
  have shorter : recent.length ≤ steps.length := length_sinceReset_le _ Step.isClear matcher steps
  refine ⟨accounted.lookups, accounted.outcomes, accounted.insertions, ?_,
    (invariant.performAll steps).insertsOnlyAbsent⟩
  rw [accounted.lookups]
  exact (countCompiling_add_countMatching_le _ recent).trans shorter

end Measured

/-- Of four look-ups since the cache was cleared, the first is refused and keeps nothing, the second
keeps a pattern that never matches, and the others find it and are refused. One more is refused as
well and inserts nothing. -/
theorem performAll_accounted_never :
    let steps : List Step := [.compile "[nope:]", .clearCache, .tryCompile "[nope:]",
      .compile "[nope:]", .tryCompile "[nope:]", .tryTest "x" "[nope:]"]
    standard.config.cache.enabled = true ∧ 0 < standard.config.cache.maxSize ∧
      (standard.performAll steps).2.cache.stats.lookups = 4 ∧
      (standard.performAll steps).2.cache.stats.insertions + 1 =
        (standard.performAll steps).2.cache.stats.misses ∧
      ((standard.performAll steps).2.perform (.tryCompile "[nope:]")).2.cache.stats.insertions =
        (standard.performAll steps).2.cache.stats.insertions := by
  intro steps
  obtain ⟨lookups, _, insertions, _, inserts⟩ :=
    performAll_accounted .standard rfl (by decide) steps
  have compiling : countCompiling (sinceClear (standard.events steps)) = 3 := by
    decide +kernel
  have matching : countMatching standard.config.maxInputLength
      (sinceClear (standard.events steps)) = 1 := by decide +kernel
  have refused : countRefused (sinceClear (standard.events steps)) = 1 := by decide +kernel
  have found : ((standard.performAll steps).2.cache.find? "[nope:]").isSome = true := by
    decide +kernel
  rw [compiling, matching] at lookups
  rw [refused] at insertions
  exact ⟨rfl, by decide, lookups, insertions,
    ((inserts (.tryCompile "[nope:]")).found _ rfl found).2⟩

end Matcher

end Stencil
