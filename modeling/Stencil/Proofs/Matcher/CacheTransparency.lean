import Stencil.Proofs.Pattern.Compilation
import Stencil.Session

/-!
The cache of a matcher shows in nothing but its account.

Owns `Matcher.Coherent`, the invariant that ties the cache to the registry: every kept pattern is
what its text compiles to under the filters as they are. Every step preserves it
(`perform_coherent`), and two coherent matchers that differ in their caches only give the same
answers (`perform_answer_eq`). The main statement is `performAll_transparent`.

What the account counts is not told here.
-/

namespace Stencil

/-! ### What a cache holds after an operation -/

namespace Cache

variable {cache : Cache} {text : String} {pattern entry : Pattern}

theorem mem_entries : entry ∈ cache.entries ↔ cache.find? entry.text = some entry :=
  PatternMap.mem_toList

/-- A look-up finds only what is kept under the text that was looked up. -/
theorem get_found (found : (cache.get text).1 = some pattern) :
    pattern ∈ cache.entries ∧ pattern.text = text := by
  unfold get at found
  split at found
  · split at found
    next hit lookup =>
      obtain rfl : hit = pattern := Option.some.inj found
      obtain rfl : hit.text = text := PatternMap.text_of_find? lookup
      exact ⟨mem_entries.mpr lookup, rfl⟩
    next => simp at found
  · simp at found

/-- A look-up changes the order of the entries at most. -/
theorem mem_of_mem_get (kept : entry ∈ (cache.get text).2.entries) : entry ∈ cache.entries := by
  unfold entries at kept
  rwa [patterns_get] at kept

/-- What is kept after an eviction was kept before it. -/
theorem find?_of_evict {order : List String}
    (kept : (cache.evict order).find? text = some entry) : cache.find? text = some entry := by
  induction order generalizing cache with
  | nil => exact kept
  | cons oldest later inductionHypothesis =>
      unfold evict at kept
      split at kept
      next =>
        have before := inductionHypothesis kept
        unfold find? at before
        rw [PatternMap.find?_erase] at before
        split at before
        next => simp at before
        next => exact before
      next => exact kept

/-- Beside the pattern that is inserted nothing new is kept. -/
theorem mem_of_mem_insert (kept : entry ∈ (cache.insert pattern).entries) :
    entry = pattern ∨ entry ∈ cache.entries := by
  unfold insert at kept
  split at kept
  · have found := find?_of_evict (mem_entries.mp kept)
    unfold find? at found
    rw [PatternMap.find?_insert] at found
    split at found
    next => exact .inl (Option.some.inj found).symm
    next => exact .inr (mem_entries.mpr found)
  · exact .inr kept

@[simp] theorem entries_invalidate (cache : Cache) : cache.invalidate.entries = [] := by
  unfold invalidate
  split
  next empty => exact PatternMap.toList_eq_nil_iff.mpr empty
  next => rfl

@[simp] theorem entries_clear (cache : Cache) : cache.clear.entries = [] := rfl

@[simp] theorem entries_ofConfig (config : CacheConfig) : (ofConfig config).entries = [] := rfl

end Cache

namespace Matcher

/-- The two matchers agree in all but their caches and the account of them. -/
structure Agrees (left right : Matcher) : Prop where
  registry : left.registry = right.registry
  grammar : left.grammar = right.grammar
  regexSizeLimit : left.config.regexSizeLimit = right.config.regexSizeLimit
  maxInputLength : left.config.maxInputLength = right.config.maxInputLength

theorem Agrees.admits {left right : Matcher} (agrees : left.Agrees right) (input : String) :
    left.admits input = right.admits input := by
  unfold Matcher.admits
  rw [agrees.maxInputLength]

section Measured

variable [Regex.Measure]

/-! ### The invariant -/

/-- What a pattern compiles to under the filters and the bounds of a matcher. -/
def afresh (matcher : Matcher) (text : String) : Pattern :=
  Pattern.compile text matcher.registry matcher.grammar matcher.config.regexSizeLimit

/-- Every kept pattern is what its text compiles to under the filters as they are. -/
def Coherent (matcher : Matcher) : Prop :=
  ∀ entry ∈ matcher.cache.entries, entry = matcher.afresh entry.text

theorem coherent_of_empty {matcher : Matcher} (empty : matcher.cache.entries = []) :
    matcher.Coherent := by
  intro entry kept
  simp [empty] at kept

theorem Agrees.afresh {left right : Matcher} (agrees : left.Agrees right) (text : String) :
    left.afresh text = right.afresh text := by
  unfold Matcher.afresh
  rw [agrees.registry, agrees.grammar, agrees.regexSizeLimit]

variable {matcher : Matcher}

/-- The matcher with another cache, all of whose patterns were kept before or are compiled
afresh, is coherent if it was. -/
theorem Coherent.withCache (coherent : matcher.Coherent) {cache : Cache}
    (known : ∀ entry ∈ cache.entries,
      entry ∈ matcher.cache.entries ∨ entry = matcher.afresh entry.text) :
    { matcher with cache }.Coherent := by
  intro entry kept
  cases known entry kept with
  | inl old => exact coherent entry old
  | inr fresh => exact fresh

theorem Coherent.get (coherent : matcher.Coherent) (text : String) :
    { matcher with cache := (matcher.cache.get text).2 }.Coherent :=
  coherent.withCache fun _ kept => .inl (Cache.mem_of_mem_get kept)

theorem Coherent.insert (coherent : matcher.Coherent) (text : String) :
    { matcher with cache := matcher.cache.insert (matcher.afresh text) }.Coherent := by
  refine coherent.withCache fun entry kept => ?_
  cases Cache.mem_of_mem_insert kept with
  | inl same =>
      right
      rw [same]
      exact congrArg matcher.afresh (Pattern.compile_text _ _ _ _).symm
  | inr old => exact .inl old

theorem Coherent.of_found (coherent : matcher.Coherent) {text : String} {pattern : Pattern}
    (found : (matcher.cache.get text).1 = some pattern) : pattern = matcher.afresh text := by
  obtain ⟨kept, sameText⟩ := Cache.get_found found
  rw [← sameText]
  exact coherent pattern kept

/-! ### One specification for each operation that looks into the cache -/

/-- What an operation does that looks into the cache: it answers as if there were none, and it
changes nothing but the cache, which stays coherent. -/
structure Answers {α : Type} (matcher : Matcher) (value : α) (result : α × Matcher) : Prop where
  value : result.1 = value
  frame : { matcher with cache := result.2.cache } = result.2
  coherent : result.2.Coherent

theorem Answers.admits {α : Type} {value : α} {result : α × Matcher}
    (answers : matcher.Answers value result) (input : String) :
    result.2.admits input = matcher.admits input := by
  rw [← answers.frame]
  rfl

theorem compile_answers (coherent : matcher.Coherent) (text : String) :
    matcher.Answers (matcher.afresh text) (matcher.compile text) := by
  have later := coherent.get text
  have hit : ∀ pattern, (matcher.cache.get text).1 = some pattern → pattern = matcher.afresh text :=
    fun pattern => coherent.of_found
  unfold compile
  split
  next pattern cache looked =>
    rw [looked] at later hit
    exact ⟨hit pattern rfl, rfl, later⟩
  next cache looked =>
    rw [looked] at later
    exact ⟨rfl, rfl, later.insert text⟩

theorem tryCompileAfresh_answers (coherent : matcher.Coherent) (text : String) :
    matcher.Answers
      (Pattern.tryCompile text matcher.registry matcher.grammar matcher.config.regexSizeLimit)
      (matcher.tryCompileAfresh text) := by
  unfold tryCompileAfresh
  split
  next pattern compiles =>
    refine ⟨compiles.symm, rfl, ?_⟩
    rw [← Pattern.compile_of_tryCompile compiles]
    exact coherent.insert text
  next cause fails => exact ⟨fails.symm, rfl, coherent⟩

/-- A pattern in the cache that never matches does not tell why, so it is compiled once more. -/
theorem tryCompile_answers (coherent : matcher.Coherent) (text : String) :
    matcher.Answers
      (Pattern.tryCompile text matcher.registry matcher.grammar matcher.config.regexSizeLimit)
      (matcher.tryCompile text) := by
  have later := coherent.get text
  have hit : ∀ pattern, (matcher.cache.get text).1 = some pattern → pattern = matcher.afresh text :=
    fun pattern => coherent.of_found
  have again : ∀ cache, { matcher with cache }.Coherent →
      matcher.Answers
        (Pattern.tryCompile text matcher.registry matcher.grammar matcher.config.regexSizeLimit)
        ({ matcher with cache }.tryCompileAfresh text) := by
    intro cache kept
    obtain ⟨value, frame, coherent⟩ := tryCompileAfresh_answers kept text
    exact ⟨value, frame, coherent⟩
  unfold tryCompile
  split
  next pattern cache looked =>
    rw [looked] at later hit
    split
    next => exact again cache later
    next usable =>
      have same := hit pattern rfl
      rw [Bool.not_eq_true, same] at usable
      refine ⟨?_, rfl, later⟩
      rw [same]
      exact (Pattern.tryCompile_of_not_never usable).symm
  next cache looked =>
    rw [looked] at later
    exact again cache later

/-! ### Steps -/

/-- The registry after a step, as the step alone makes it. -/
def registryAfter (grammar : Grammar) (registry : Registry) : Step → Registry
  | .register name fragment => registry.register name fragment
  | .tryRegister name fragment =>
    match registry.tryRegister grammar name fragment with
    | .ok registry => registry
    | .error _ => registry
  | _ => registry

/-- The matcher with the filters after a step, and with any cache. -/
theorem perform_frame (coherent : matcher.Coherent) (step : Step) :
    (matcher.perform step).2.Coherent ∧
      { matcher with
        registry := registryAfter matcher.grammar matcher.registry step
        cache := (matcher.perform step).2.cache } = (matcher.perform step).2 := by
  have compiles := fun text => compile_answers coherent text
  have tries := fun text => tryCompile_answers coherent text
  cases step with
  | test input pattern =>
      simp only [perform, test]
      split
      next => exact ⟨(compiles pattern).coherent, (compiles pattern).frame⟩
      next => exact ⟨coherent, rfl⟩
  | tryTest input pattern =>
      simp only [perform, tryTest]
      have spec := tries pattern
      split
      next => split <;> (next looked => rw [looked] at spec; exact ⟨spec.coherent, spec.frame⟩)
      next => exact ⟨coherent, rfl⟩
  | isMatch input pattern =>
      simp only [perform, isMatch]
      split
      next => exact ⟨(compiles pattern).coherent, (compiles pattern).frame⟩
      next => exact ⟨coherent, rfl⟩
  | testBatch inputs pattern =>
      simp only [perform, testBatch_eq]
      exact ⟨(compiles pattern).coherent, (compiles pattern).frame⟩
  | compile pattern => exact ⟨(compiles pattern).coherent, (compiles pattern).frame⟩
  | tryCompile pattern => exact ⟨(tries pattern).coherent, (tries pattern).frame⟩
  | register name fragment => exact ⟨coherent_of_empty (Cache.entries_invalidate _), rfl⟩
  | tryRegister name fragment =>
      simp only [perform, tryRegister, registryAfter]
      cases matcher.registry.tryRegister matcher.grammar name fragment with
      | ok registry => exact ⟨coherent_of_empty (Cache.entries_invalidate _), rfl⟩
      | error cause => exact ⟨coherent, rfl⟩
  | clearCache => exact ⟨coherent_of_empty (Cache.entries_clear _), rfl⟩
  | _ => exact ⟨coherent, rfl⟩

theorem perform_coherent (coherent : matcher.Coherent) (step : Step) :
    (matcher.perform step).2.Coherent :=
  (perform_frame coherent step).1

theorem perform_registry (coherent : matcher.Coherent) (step : Step) :
    (matcher.perform step).2.registry = registryAfter matcher.grammar matcher.registry step := by
  rw [← (perform_frame coherent step).2]

theorem perform_grammar (coherent : matcher.Coherent) (step : Step) :
    (matcher.perform step).2.grammar = matcher.grammar := by
  rw [← (perform_frame coherent step).2]

theorem perform_config (coherent : matcher.Coherent) (step : Step) :
    (matcher.perform step).2.config = matcher.config := by
  rw [← (perform_frame coherent step).2]

/-- Coherent matchers that agree in all but their caches cannot be told apart by the answer of a
step, unless the step asks for the account or the settings of the cache. -/
theorem perform_answer_eq {left right : Matcher} (leftCoherent : left.Coherent)
    (rightCoherent : right.Coherent) (agrees : left.Agrees right) {step : Step}
    (notStats : step ≠ .stats) (notConfig : step ≠ .config) :
    (left.perform step).1 = (right.perform step).1 := by
  have compiles : ∀ text, (left.compile text).1 = (right.compile text).1 := by
    intro text
    rw [(compile_answers leftCoherent text).value, (compile_answers rightCoherent text).value,
      agrees.afresh]
  have tries : ∀ text, (left.tryCompile text).1 = (right.tryCompile text).1 := by
    intro text
    rw [(tryCompile_answers leftCoherent text).value, (tryCompile_answers rightCoherent text).value,
      agrees.registry, agrees.grammar, agrees.regexSizeLimit]
  cases step with
  | test input pattern =>
      simp only [perform, test, agrees.admits input]
      split <;> simp only [compiles pattern]
  | tryTest input pattern =>
      simp only [perform, tryTest, agrees.admits input, agrees.maxInputLength]
      have same := tries pattern
      split
      next =>
        split
        next looked =>
          rw [looked] at same
          split
          next others => rw [others] at same; rw [Except.ok.inj same]
          next others => rw [others] at same; simp at same
        next looked =>
          rw [looked] at same
          split
          next others => rw [others] at same; simp at same
          next others => rw [others] at same; rw [Except.error.inj same]
      next => rfl
  | isMatch input pattern =>
      simp only [perform, isMatch, agrees.admits input]
      split <;> simp only [compiles pattern]
  | testBatch inputs pattern =>
      simp only [perform, testBatch_eq, compiles pattern]
      simp only [(compile_answers leftCoherent pattern).admits,
        (compile_answers rightCoherent pattern).admits, agrees.admits]
  | compile pattern => simp only [perform, compiles pattern]
  | tryCompile pattern => simp only [perform, tries pattern]
  | keys pattern => simp only [perform, keys, agrees.grammar]
  | tryRegister name fragment =>
      simp only [perform, tryRegister, agrees.registry, agrees.grammar]
      split <;> rfl
  | hasFilter name => simp only [perform, agrees.registry]
  | filter name => simp only [perform, agrees.registry]
  | filterNames => simp only [perform, agrees.registry]
  | snapshot => simp only [perform, agrees.registry]
  | config => exact absurd rfl notConfig
  | stats => exact absurd rfl notStats
  | register name fragment => rfl
  | clearCache => rfl

/-! ### Runs -/

/-- The registry after several steps. -/
def registryAfterAll (grammar : Grammar) (registry : Registry) (steps : List Step) : Registry :=
  steps.foldl (registryAfter grammar) registry

/-- What a run preserves: coherence and the settings; the registry follows the registrations. -/
theorem performAll_keeps (coherent : matcher.Coherent) (steps : List Step) :
    (matcher.performAll steps).2.Coherent ∧
      (matcher.performAll steps).2.registry =
        registryAfterAll matcher.grammar matcher.registry steps ∧
      (matcher.performAll steps).2.grammar = matcher.grammar ∧
      (matcher.performAll steps).2.config = matcher.config := by
  induction steps generalizing matcher with
  | nil => exact ⟨coherent, rfl, rfl, rfl⟩
  | cons step rest inductionHypothesis =>
      obtain ⟨kept, registry, grammar, config⟩ := inductionHypothesis (perform_coherent coherent step)
      rw [perform_grammar coherent] at registry grammar
      rw [perform_registry coherent] at registry
      rw [perform_config coherent] at config
      exact ⟨kept, registry, grammar, config⟩

/-- What becomes of a matcher is what its steps make of it in turn. -/
theorem performAll_snd (matcher : Matcher) (steps : List Step) :
    (matcher.performAll steps).2 =
      steps.foldl (fun matcher step => (matcher.perform step).2) matcher := by
  induction steps generalizing matcher with
  | nil => rfl
  | cons step rest inductionHypothesis => exact inductionHypothesis _

/-- The answer at an index is that of the step there after the steps before it. -/
theorem performAll_getElem? (matcher : Matcher) (steps : List Step) (index : Nat) :
    (matcher.performAll steps).1[index]? =
      steps[index]?.map fun step => ((matcher.performAll (steps.take index)).2.perform step).1 := by
  induction steps generalizing matcher index with
  | nil => rfl
  | cons step rest inductionHypothesis =>
      cases index with
      | zero => rfl
      | succ index => exact inductionHypothesis _ index

/-- A matcher as its makers leave it. -/
inductive Made : Matcher → Prop where
  | standard : Made standard
  | withConfig {config : Config} {matcher : Matcher} (made : withConfig config = .ok matcher) :
    Made matcher
  | withRegistry {registry : Registry} {config : Config} {matcher : Matcher}
    (made : withRegistry registry config = .ok matcher) : Made matcher

/-- A matcher without a cache under the bounds of some settings. -/
def uncached (registry : Registry) (config : Config) : Matcher :=
  build registry { config with cache := { config.cache with enabled := false } }

private theorem exists_build_of_withRegistry {registry : Registry} {config : Config}
    (made : withRegistry registry config = .ok matcher) :
    ∃ filters, matcher = build filters config := by
  simp only [withRegistry, bind, Except.bind] at made
  split at made
  · simp at made
  · split at made
    · simp at made
    next filters _ => exact ⟨filters, (Except.ok.inj made).symm⟩

/-- Whatever its filters are, a matcher is made with an empty cache and the grammar of its
settings. -/
theorem Made.exists_build (made : Made matcher) :
    ∃ filters config, matcher = build filters config := by
  cases made with
  | standard => exact ⟨_, _, rfl⟩
  | withConfig made => exact (exists_build_of_withRegistry made).imp fun _ built => ⟨_, built⟩
  | withRegistry made => exact (exists_build_of_withRegistry made).imp fun _ built => ⟨_, built⟩

theorem Made.empty_cache (made : Made matcher) : matcher.cache.entries = [] := by
  obtain ⟨filters, config, rfl⟩ := made.exists_build
  rfl

theorem Made.grammar_eq (made : Made matcher) :
    matcher.grammar = Grammar.ofBound matcher.config.maxIdentifierLength := by
  obtain ⟨filters, config, rfl⟩ := made.exists_build
  rfl

/-- However a matcher was made and whatever was done with it, its answers are those of a matcher
without a cache that has the filters registered so far, and every kept pattern is what its text
compiles to under these filters. -/
theorem performAll_transparent (made : Made matcher) (steps : List Step) :
    (∀ index step, steps[index]? = some step → step ≠ .stats → step ≠ .config →
      (matcher.performAll steps).1[index]? =
        some ((uncached (registryAfterAll matcher.grammar matcher.registry (steps.take index))
          matcher.config).perform step).1) ∧
      ∀ entry ∈ (matcher.performAll steps).2.cache.entries,
        entry = Pattern.compile entry.text
          (registryAfterAll matcher.grammar matcher.registry steps) matcher.grammar
          matcher.config.regexSizeLimit := by
  have coherent : matcher.Coherent := coherent_of_empty made.empty_cache
  constructor
  · intro index step present notStats notConfig
    obtain ⟨kept, registry, grammar, config⟩ := performAll_keeps coherent (steps.take index)
    rw [performAll_getElem?, present, Option.map_some]
    refine congrArg some (perform_answer_eq kept (coherent_of_empty rfl) ?_ notStats notConfig)
    exact
      { registry := registry
        grammar := grammar.trans made.grammar_eq
        regexSizeLimit := by rw [config]; rfl
        maxInputLength := by rw [config]; rfl }
  · intro entry held
    obtain ⟨kept, registry, grammar, config⟩ := performAll_keeps coherent steps
    have same := kept entry held
    rw [afresh, registry, grammar, config] at same
    exact same

end Measured

/-- A filter is replaced between two matches of one pattern: the second match is answered under the
new filter, and the pattern that the first one left in the cache is gone. -/
theorem performAll_transparent_replaced :
    let steps : List Step :=
      [.isMatch "7" "[digit:]", .register "digit" "(x)", .isMatch "7" "[digit:]"]
    (standard.performAll steps).1[2]? =
      some ((uncached (standard.registry.register "digit" "(x)") standard.config).perform
        (.isMatch "7" "[digit:]")).1 ∧
      ∀ entry ∈ (standard.performAll steps).2.cache.entries,
        entry = Pattern.compile entry.text (standard.registry.register "digit" "(x)")
          standard.grammar standard.config.regexSizeLimit :=
  ⟨(performAll_transparent .standard
      [.isMatch "7" "[digit:]", .register "digit" "(x)", .isMatch "7" "[digit:]"]).1 2 _ rfl
      (by simp) (by simp),
    (performAll_transparent .standard
      [.isMatch "7" "[digit:]", .register "digit" "(x)", .isMatch "7" "[digit:]"]).2⟩

end Matcher

end Stencil
