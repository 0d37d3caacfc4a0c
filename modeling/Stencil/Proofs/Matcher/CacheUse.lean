import Stencil.Proofs.Cache.Order
import Stencil.Proofs.Matcher.Agreement

/-!
What the steps of a matcher do to its cache.

Owns:
- `Matcher.cacheOps`, the calls on the cache that a step makes, in their order: what a step makes of
  the cache is what these calls make of it (`perform_cache`);
- `Matcher.Invariant`, which every step preserves;
- `Coherent.cacheOps_cases`, which says once what the calls of a step can be, and
  `Coherent.refusesPattern_iff`, which says when a strict step is refused because of its pattern.

A strict step that finds a pattern without an expression compiles it once more. It never succeeds,
since the cache holds what the filters make of the pattern as they are, so that no step keeps a
pattern of which it found one.
-/

namespace Stencil

/-- The pattern that a step compiles in order to tell why that is not possible. -/
def Step.strictPattern? : Step → Option String
  | .tryCompile text | .tryTest _ text => some text
  | _ => none

/-- Whether an operation failed because its pattern cannot be compiled. -/
def Error.refusesPattern : Error → Bool
  | .unknownFilter _ | .invalidPattern _ _ => true
  | _ => false

def Answer.refusesPattern : Answer → Bool
  | .failure error => error.refusesPattern
  | _ => false

/-- The calls that look a pattern up and keep one if none was found. -/
def Cache.lookUpOps (cache : Cache) (text : String) (pattern? : Option Pattern) : List Op :=
  .get text :: if (cache.get text).1.isSome then [] else pattern?.toList.map .insert

namespace Matcher

variable [Regex.Measure]

/-- What a pattern compiles to under the filters and the bounds of a matcher, or why it does not. -/
def tryAfresh (matcher : Matcher) (text : String) : Except Error Pattern :=
  Pattern.tryCompile text matcher.registry matcher.grammar matcher.config.regexSizeLimit

/-! ### Calls on the cache -/

/-- The calls of a compilation that does not fail. -/
def compileOps (matcher : Matcher) (text : String) : List Cache.Op :=
  matcher.cache.lookUpOps text (some (matcher.afresh text))

/-- The calls of a compilation that may fail. If nothing was found, or a pattern that never matches,
the pattern is compiled. -/
def tryCompileOps (matcher : Matcher) (text : String) : List Cache.Op :=
  .get text ::
    if (matcher.cache.get text).1.all Pattern.isNever then
      (matcher.tryAfresh text).toOption.toList.map .insert
    else []

/-- The calls on the cache that a step makes. -/
def cacheOps (matcher : Matcher) : Step → List Cache.Op
  | .test input text | .isMatch input text =>
    if matcher.admits input then matcher.compileOps text else []
  | .tryTest input text => if matcher.admits input then matcher.tryCompileOps text else []
  | .testBatch _ text | .compile text => matcher.compileOps text
  | .tryCompile text => matcher.tryCompileOps text
  | .register _ _ => [.invalidate]
  | .tryRegister name fragment =>
    match matcher.registry.tryRegister matcher.grammar name fragment with
    | .ok _ => [.invalidate]
    | .error _ => []
  | .clearCache => [.clear]
  | _ => []

variable {matcher : Matcher}

theorem compile_cache (matcher : Matcher) (text : String) :
    (matcher.compile text).2.cache = matcher.cache.run (matcher.compileOps text) := by
  unfold compile compileOps Cache.lookUpOps
  split
  next looked =>
    rw [looked]
    exact (congrArg Prod.snd looked).symm
  next looked =>
    rw [looked]
    exact congrArg (fun result => result.2.insert (matcher.afresh text)) looked.symm

theorem tryCompileAfresh_cache (matcher : Matcher) (text : String) :
    (matcher.tryCompileAfresh text).2.cache =
      matcher.cache.run ((matcher.tryAfresh text).toOption.toList.map .insert) := by
  unfold tryCompileAfresh tryAfresh
  cases Pattern.tryCompile text matcher.registry matcher.grammar matcher.config.regexSizeLimit with
  | ok pattern => rfl
  | error cause => rfl

theorem tryCompile_cache (matcher : Matcher) (text : String) :
    (matcher.tryCompile text).2.cache = matcher.cache.run (matcher.tryCompileOps text) := by
  have afterwards : ∀ cache, (matcher.cache.get text).2 = cache →
      ({ matcher with cache }.tryCompileAfresh text).2.cache =
        matcher.cache.run (.get text :: (matcher.tryAfresh text).toOption.toList.map .insert) := by
    rintro _ rfl
    exact tryCompileAfresh_cache _ text
  unfold tryCompile tryCompileOps
  split
  next pattern cache looked =>
    simp only [looked, Option.all_some]
    split
    next => exact afterwards cache (congrArg Prod.snd looked)
    next => exact (congrArg Prod.snd looked).symm
  next cache looked =>
    rw [looked]
    exact afterwards cache (congrArg Prod.snd looked)

theorem tryTest_cache (matcher : Matcher) (input text : String) :
    (matcher.tryTest input text).2.cache =
      if matcher.admits input then (matcher.tryCompile text).2.cache else matcher.cache := by
  unfold tryTest
  split
  next => split <;> (next looked => rw [looked])
  next => rfl

/-- A step makes of the cache what its calls make of it. -/
theorem perform_cache (matcher : Matcher) (step : Step) :
    (matcher.perform step).2.cache = matcher.cache.run (matcher.cacheOps step) := by
  cases step with
  | test input text =>
      simp only [perform, test, cacheOps]
      split
      next => exact compile_cache matcher text
      next => rfl
  | tryTest input text =>
      simp only [perform, cacheOps, tryTest_cache]
      split
      next => exact tryCompile_cache matcher text
      next => rfl
  | isMatch input text =>
      simp only [perform, isMatch, cacheOps]
      split
      next => exact compile_cache matcher text
      next => rfl
  | testBatch inputs text =>
      simp only [perform, testBatch_eq]
      exact compile_cache matcher text
  | compile text => exact compile_cache matcher text
  | tryCompile text => exact tryCompile_cache matcher text
  | tryRegister name fragment =>
      simp only [perform, tryRegister, cacheOps]
      cases matcher.registry.tryRegister matcher.grammar name fragment with
      | ok registry => rfl
      | error cause => rfl
  | _ => rfl

/-- No step switches the cache on or off. -/
theorem isEnabled_perform (matcher : Matcher) (step : Step) :
    (matcher.perform step).2.cache.isEnabled = matcher.cache.isEnabled := by
  rw [Cache.isEnabled, perform_cache, Cache.config_run, Cache.isEnabled]

/-! ### The invariant -/

/-- The cache holds what the filters make of the patterns, it is kept in order, and its settings are
those of the matcher. -/
structure Invariant (matcher : Matcher) : Prop where
  coherent : matcher.Coherent
  wellKept : matcher.cache.WellKept
  settings : matcher.cache.config = matcher.config.cache

theorem Made.invariant (made : Made matcher) : matcher.Invariant where
  coherent := coherent_of_empty made.empty_cache
  wellKept := by
    obtain ⟨filters, config, rfl⟩ := made.exists_build
    exact Cache.wellKept_ofConfig config.cache
  settings := by
    obtain ⟨filters, config, rfl⟩ := made.exists_build
    rfl

namespace Invariant

theorem perform (invariant : matcher.Invariant) (step : Step) :
    (matcher.perform step).2.Invariant where
  coherent := perform_coherent invariant.coherent step
  wellKept := by
    rw [perform_cache]
    exact invariant.wellKept.run _
  settings := by
    rw [perform_cache, Cache.config_run, perform_config invariant.coherent]
    exact invariant.settings

theorem performAll (invariant : matcher.Invariant) (steps : List Step) :
    (matcher.performAll steps).2.Invariant := by
  induction steps generalizing matcher with
  | nil => exact invariant
  | cons step rest inductionHypothesis => exact inductionHypothesis (invariant.perform step)

theorem isEnabled_iff (invariant : matcher.Invariant) :
    matcher.cache.isEnabled = true ↔
      matcher.config.cache.enabled = true ∧ 0 < matcher.config.cache.maxSize := by
  rw [Cache.isEnabled_iff, invariant.settings]

end Invariant

/-! ### What the calls of a step can be -/

/-- The pattern that a step looks up in the cache, and what it keeps of the pattern if none is
found. -/
def lookUp? (matcher : Matcher) : Step → Option (String × Option Pattern)
  | .test input text | .isMatch input text =>
    if matcher.admits input then some (text, some (matcher.afresh text)) else none
  | .tryTest input text =>
    if matcher.admits input then some (text, (matcher.tryAfresh text).toOption) else none
  | .testBatch _ text | .compile text => some (text, some (matcher.afresh text))
  | .tryCompile text => some (text, (matcher.tryAfresh text).toOption)
  | _ => none

/-- What is kept is kept under the text that was looked up. -/
theorem text_of_lookUp? {step : Step} {text : String} {pattern : Pattern}
    (lookedUp : matcher.lookUp? step = some (text, some pattern)) : pattern.text = text := by
  have compiled : ∀ text, (matcher.afresh text).text = text := fun text =>
    Pattern.compile_text text _ _ _
  have attempted : ∀ text,
      (matcher.tryAfresh text).toOption = some pattern → pattern.text = text := by
    intro text kept
    cases attempt : matcher.tryAfresh text with
    | ok pattern =>
        rw [attempt] at kept
        exact Option.some.inj kept ▸ (Pattern.text_of_tryCompile attempt).1
    | error cause =>
        rw [attempt] at kept
        simp [Except.toOption] at kept
  cases step <;> simp only [lookUp?, Option.ite_none_right_eq_some, Option.some.injEq,
    Prod.mk.injEq, reduceCtorEq] at lookedUp <;> grind

/-- A pattern that is found is not compiled again with success. -/
theorem Coherent.tryCompileOps (coherent : matcher.Coherent) (text : String) :
    matcher.tryCompileOps text =
      matcher.cache.lookUpOps text (matcher.tryAfresh text).toOption := by
  unfold Matcher.tryCompileOps Cache.lookUpOps
  cases looked : (matcher.cache.get text).1 with
  | none => rfl
  | some pattern =>
      cases usable : pattern.isNever with
      | false => simp [usable]
      | true =>
          rw [coherent.of_found looked] at usable
          obtain ⟨cause, fails⟩ := Pattern.isNever_compile_iff.mp usable
          have attempt : matcher.tryAfresh text = .error cause := fails
          simp [attempt, Except.toOption]

/-- A step looks one pattern up and keeps one under its text if there was none, or it makes one call
at most, which is no look-up. -/
theorem Coherent.cacheOps_cases (coherent : matcher.Coherent) (step : Step) :
    (∃ text pattern?, matcher.lookUp? step = some (text, pattern?) ∧
      matcher.cacheOps step = matcher.cache.lookUpOps text pattern?) ∨
    (matcher.lookUp? step = none ∧
      (matcher.cacheOps step = [] ∨ matcher.cacheOps step = [.invalidate] ∨
        step = .clearCache ∧ matcher.cacheOps step = [.clear])) := by
  have again := coherent.tryCompileOps
  cases step with
  | test input text =>
      by_cases short : matcher.admits input = true
      · exact .inl ⟨text, _, if_pos short, if_pos short⟩
      · exact .inr ⟨if_neg short, .inl (if_neg short)⟩
  | isMatch input text =>
      by_cases short : matcher.admits input = true
      · exact .inl ⟨text, _, if_pos short, if_pos short⟩
      · exact .inr ⟨if_neg short, .inl (if_neg short)⟩
  | tryTest input text =>
      by_cases short : matcher.admits input = true
      · exact .inl ⟨text, _, if_pos short, (if_pos short).trans (again text)⟩
      · exact .inr ⟨if_neg short, .inl (if_neg short)⟩
  | testBatch inputs text => exact .inl ⟨text, _, rfl, rfl⟩
  | compile text => exact .inl ⟨text, _, rfl, rfl⟩
  | tryCompile text => exact .inl ⟨text, _, rfl, again text⟩
  | register name fragment => exact .inr ⟨rfl, .inr (.inl rfl)⟩
  | tryRegister name fragment =>
      refine .inr ⟨rfl, ?_⟩
      simp only [cacheOps]
      cases matcher.registry.tryRegister matcher.grammar name fragment with
      | ok registry => exact .inr (.inl rfl)
      | error cause => exact .inl rfl
  | clearCache => exact .inr ⟨rfl, .inr (.inr ⟨rfl, rfl⟩)⟩
  | _ => exact .inr ⟨rfl, .inl rfl⟩

theorem refusesPattern_of_tryAfresh {text : String} {cause : Error}
    (fails : matcher.tryAfresh text = .error cause) : cause.refusesPattern = true := by
  rcases Pattern.tryCompile_error fails with ⟨name, rfl⟩ | ⟨reason, rfl⟩ <;> rfl

/-- A strict step is refused because of its pattern exactly if it looks the pattern up and there is
nothing to keep of it. -/
theorem Coherent.refusesPattern_iff (coherent : matcher.Coherent) {step : Step} {text : String}
    (strict : step.strictPattern? = some text) :
    (matcher.perform step).1.refusesPattern = true ↔
      matcher.lookUp? step = some (text, none) := by
  cases step with
  | tryCompile pattern =>
      obtain rfl := Option.some.inj strict
      have answer : (matcher.perform (.tryCompile pattern)).1 =
          .ofExcept .pattern (matcher.tryAfresh pattern) :=
        congrArg (Answer.ofExcept .pattern) (coherent.tryCompile pattern)
      rw [answer]
      cases attempt : matcher.tryAfresh pattern with
      | ok value => simp [lookUp?, attempt, Answer.ofExcept, Answer.refusesPattern, Except.toOption]
      | error cause =>
          have refused := refusesPattern_of_tryAfresh attempt
          simp [lookUp?, attempt, Answer.ofExcept, Answer.refusesPattern, Except.toOption, refused]
  | tryTest input pattern =>
      obtain rfl := Option.some.inj strict
      have answer : (matcher.perform (.tryTest input pattern)).1 =
          .ofExcept .params (if matcher.admits input then
            (matcher.tryAfresh pattern).map fun compiled => compiled.extract input
            else .error (.inputTooLong input.utf8ByteSize matcher.config.maxInputLength)) := by
        rw [tryAfresh, ← coherent.tryCompile, ← tryTest_eq]
        rfl
      rw [answer]
      by_cases short : matcher.admits input = true
      · cases attempt : matcher.tryAfresh pattern with
        | ok value =>
            simp [lookUp?, short, attempt, Answer.ofExcept, Answer.refusesPattern, Except.map,
              Except.toOption]
        | error cause =>
            have refused := refusesPattern_of_tryAfresh attempt
            simp [lookUp?, short, attempt, Answer.ofExcept, Answer.refusesPattern, Except.map,
              Except.toOption, refused]
      · -- An input that is too long is no fault of the pattern.
        simp [lookUp?, short, Answer.ofExcept, Answer.refusesPattern, Error.refusesPattern]
  | _ => simp [Step.strictPattern?] at strict

/-- Only a strict step may have nothing to keep of the pattern that it looks up. -/
theorem strictPattern?_of_lookUp? {step : Step} {text : String}
    (nothing : matcher.lookUp? step = some (text, none)) : step.strictPattern? = some text := by
  cases step with
  | tryCompile pattern => exact congrArg (Option.map Prod.fst) nothing
  | tryTest input pattern =>
      simp only [lookUp?, Option.ite_none_right_eq_some] at nothing
      exact congrArg (Option.map Prod.fst) nothing.2
  | _ => simp [lookUp?] at nothing

/-- A step inserts a pattern only after it looked it up in vain, and does nothing else then. -/
theorem Coherent.cacheOps_of_insert (coherent : matcher.Coherent) {step : Step} {pattern : Pattern}
    (called : .insert pattern ∈ matcher.cacheOps step) :
    (matcher.cache.get pattern.text).1 = none ∧
      matcher.cacheOps step = [.get pattern.text, .insert pattern] := by
  rcases coherent.cacheOps_cases step with
    ⟨text, pattern?, lookedUp, ops⟩ | ⟨_, ops | ops | ⟨_, ops⟩⟩
  · unfold Cache.lookUpOps at ops
    split at ops
    next => simp [ops] at called
    next missed =>
      cases pattern? with
      | none => simp [ops] at called
      | some kept =>
          obtain rfl : pattern = kept := by simpa [ops] using called
          rw [text_of_lookUp? lookedUp]
          exact ⟨Option.not_isSome_iff_eq_none.mp missed, ops⟩
  all_goals simp [ops] at called

/-- A step inserts a pattern only if there is none under its text. -/
theorem Invariant.find?_of_insert (invariant : matcher.Invariant) {step : Step}
    {earlier later : List Cache.Op} {pattern : Pattern}
    (calls : matcher.cacheOps step = earlier ++ .insert pattern :: later) :
    (matcher.cache.run earlier).find? pattern.text = none := by
  have called : .insert pattern ∈ matcher.cacheOps step := by simp [calls]
  obtain ⟨missed, ops⟩ := invariant.coherent.cacheOps_of_insert called
  have first : earlier = [.get pattern.text] := by
    rw [ops] at calls
    rcases earlier with _ | ⟨call, _ | ⟨other, rest⟩⟩ <;> simp at calls
    rw [calls.1]
  rw [first, Cache.run, List.foldl_cons, List.foldl_nil, Cache.apply, Cache.find?_get]
  rwa [invariant.wellKept.get_fst] at missed

/-- A strict step that finds its pattern makes no other call, even if what it finds never
matches. -/
theorem Coherent.cacheOps_of_found (coherent : matcher.Coherent) {step : Step} {text : String}
    (strict : step.strictPattern? = some text) (found : (matcher.cache.get text).1.isSome = true) :
    matcher.cacheOps step = [.get text] ∨ matcher.cacheOps step = [] := by
  have once : matcher.tryCompileOps text = [.get text] := by
    rw [coherent.tryCompileOps, Cache.lookUpOps, if_pos found]
  cases step with
  | tryCompile pattern =>
      obtain rfl := Option.some.inj strict
      exact .inl once
  | tryTest input pattern =>
      obtain rfl := Option.some.inj strict
      by_cases short : matcher.admits input = true
      · exact .inl ((if_pos short).trans once)
      · exact .inr (if_neg short)
  | _ => simp [Step.strictPattern?] at strict

/-- A step makes of the cache what its calls make of it; a strict step that finds its pattern
inserts none; and a pattern is inserted only if there is none under its text. -/
structure InsertsOnlyAbsent (matcher : Matcher) (step : Step) : Prop where
  calls : (matcher.perform step).2.cache = matcher.cache.run (matcher.cacheOps step)
  found : ∀ text, step.strictPattern? = some text → (matcher.cache.find? text).isSome = true →
    (∀ pattern, .insert pattern ∉ matcher.cacheOps step) ∧
      (matcher.perform step).2.cache.stats.insertions = matcher.cache.stats.insertions
  absent : ∀ earlier pattern later,
    matcher.cacheOps step = earlier ++ .insert pattern :: later →
      (matcher.cache.run earlier).find? pattern.text = none

theorem Invariant.insertsOnlyAbsent (invariant : matcher.Invariant) (step : Step) :
    matcher.InsertsOnlyAbsent step where
  calls := perform_cache matcher step
  found := by
    intro text strict found
    rw [← invariant.wellKept.get_fst] at found
    rw [perform_cache]
    rcases invariant.coherent.cacheOps_of_found strict found with ops | ops
    · rw [ops]
      exact ⟨by simp, Cache.insertions_get matcher.cache text⟩
    · rw [ops]
      exact ⟨by simp, rfl⟩
  absent _ _ _ := invariant.find?_of_insert

end Matcher

end Stencil
