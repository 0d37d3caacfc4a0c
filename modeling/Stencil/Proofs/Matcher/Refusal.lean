import Stencil.Proofs.Matcher.CacheUse

/-!
Strict operations that fail leave a matcher intact.

Owns:
- `Cache.LookedUp` and `Matcher.OnlyLookedUp`, which say what a look-up changes and that nothing
  else is changed;
- why a registration is refused (`Registry.tryRegister_eq_error_iff`, `fragmentFault?_eq_some_iff`);
- `Matcher.StaysIntact`, what each strict operation that fails leaves of the matcher it fails on.

The main statement is `performAll_staysIntact`: it holds however a matcher was made and whatever was
done with it, so also if the cache keeps a pattern that never matches under the text of the pattern
that is refused.
-/

namespace Stencil

/-! ### What a look-up changes -/

/-- The cache after a pattern was looked up. The patterns are the same; it is used last of those
that are kept, if it is kept; and it is counted as one look-up, with a hit or a miss. -/
structure Cache.LookedUp (before : Cache) (text : String) (after : Cache) : Prop where
  config : after.config = before.config
  patterns : after.patterns = before.patterns
  order : after.order = if text ∈ before.order then touch before.order text else before.order
  stats : before.isEnabled = true → after.stats =
    { before.stats with
      lookups := before.stats.lookups + 1
      hits := before.stats.hits + (if (before.find? text).isSome then 1 else 0)
      misses := before.stats.misses + (if (before.find? text).isSome then 0 else 1) }
  unused : before.isEnabled = false → after = before

theorem Cache.WellKept.lookedUp_get {cache : Cache} (kept : cache.WellKept) (text : String) :
    cache.LookedUp text (cache.get text).2 where
  config := config_apply cache (.get text)
  patterns := patterns_get cache text
  order := by
    cases enabled : cache.isEnabled with
    | false => rw [get_of_disabled enabled, (kept.unused enabled).1]; rfl
    | true =>
        cases found : cache.find? text with
        | none =>
            rw [get_of_absent enabled found, if_neg (kept.ordered.not_mem_of_find? found)]
        | some pattern =>
            rw [get_of_found enabled kept.ordered found, if_pos (kept.ordered.mem_of_find? found)]
  stats enabled := by
    rw [stats_get enabled, kept.get_fst]
  unused disabled := by rw [get_of_disabled disabled]

namespace Matcher

/-- The matcher after a pattern was looked up in its cache. -/
structure OnlyLookedUp (before : Matcher) (text : String) (after : Matcher) : Prop where
  frame : { before with cache := after.cache } = after
  cache : before.cache.LookedUp text after.cache

/-- A strict step that is refused because of its pattern only looks it up. -/
theorem Invariant.onlyLookedUp [Regex.Measure] {matcher : Matcher}
    (invariant : matcher.Invariant) {step : Step} {text : String} (strict : step.strictPattern? = some text)
    (refused : (matcher.perform step).1.refusesPattern = true) :
    matcher.OnlyLookedUp text (matcher.perform step).2 where
  frame := by
    have frame := (perform_frame invariant.coherent step).2
    cases step with
    | tryCompile pattern => exact frame
    | tryTest input pattern => exact frame
    | _ => simp [Step.strictPattern?] at strict
  cache := by
    have nothing := (invariant.coherent.refusesPattern_iff strict).mp refused
    have once : matcher.cacheOps step = [.get text] := by
      rcases invariant.coherent.cacheOps_cases step with
        ⟨other, pattern?, lookedUp, ops⟩ | ⟨noLookUp, _⟩
      · rw [nothing] at lookedUp
        obtain ⟨rfl, rfl⟩ := Prod.mk.inj (Option.some.inj lookedUp)
        rw [ops, Cache.lookUpOps, Option.toList_none, List.map_nil, ite_self]
      · simp [nothing] at noLookUp
    rw [perform_cache, once]
    exact invariant.wellKept.lookedUp_get text

end Matcher

/-! ### Why a registration is refused -/

/-- A fragment is not accepted if it is no regular expression or does not report exactly one
group. -/
theorem fragmentFault?_eq_some_iff [Regex.Measure] {fragment : String} {fault : FragmentFault} :
    fragmentFault? fragment = some fault ↔
      (∃ cause, Regex.compile fragment defaultSizeLimit = .error cause ∧
        fault = .uncompiled cause) ∨
      ∃ regex, Regex.compile fragment defaultSizeLimit = .ok regex ∧ regex.groupCount ≠ 1 ∧
        fault = .groupCount regex.groupCount := by
  unfold fragmentFault?
  cases Regex.compile fragment defaultSizeLimit with
  | error cause => simp [eq_comm]
  | ok regex =>
      by_cases single : regex.groupCount = 1
      · simp [single]
      · simp only [single, if_false, Option.some.injEq, Except.ok.injEq, reduceCtorEq, false_and,
          exists_false, false_or, exists_eq_left', ne_eq, not_false_eq_true, true_and]
        exact eq_comm

/-- The name of a filter is looked at first, and its fragment only if the name is an identifier. -/
theorem Registry.tryRegister_eq_error_iff [Regex.Measure] {registry : Registry} {grammar : Grammar}
    {name fragment : String} {error : Error} :
    registry.tryRegister grammar name fragment = .error error ↔
      (grammar.isIdentifier name = false ∧ error = .invalidFilterName name) ∨
      (grammar.isIdentifier name = true ∧
        ∃ fault, fragmentFault? fragment = some fault ∧
          error = .invalidFragment name fault.message) := by
  unfold Registry.tryRegister
  cases identifier : grammar.isIdentifier name with
  | false => simp [eq_comm]
  | true => cases fragmentFault? fragment <;> simp [eq_comm]

namespace Matcher

section Measured

variable [Regex.Measure] {matcher : Matcher}

/-- A registration that is refused changes nothing. -/
theorem tryRegister_of_error {name fragment : String} {error : Error}
    (refused : (matcher.tryRegister name fragment).1 = .error error) :
    matcher.registry.tryRegister matcher.grammar name fragment = .error error ∧
      (matcher.tryRegister name fragment).2 = matcher := by
  unfold tryRegister at refused ⊢
  cases registered : matcher.registry.tryRegister matcher.grammar name fragment with
  | ok registry => simp [registered] at refused
  | error cause =>
      rw [registered] at refused
      exact ⟨congrArg Except.error (Except.error.inj refused), rfl⟩

/-! ### Strict operations that fail -/

/-- What the strict operations leave of a matcher if they fail, each of them on this matcher. -/
structure StaysIntact (matcher : Matcher) : Prop where
  tryRegister : ∀ name fragment error, (matcher.tryRegister name fragment).1 = .error error →
    (matcher.tryRegister name fragment).2 = matcher
  invalidName_iff : ∀ name fragment error, (matcher.tryRegister name fragment).1 = .error error →
    (error = .invalidFilterName name ↔ matcher.grammar.isIdentifier name = false)
  invalidFragment : ∀ name fragment error, (matcher.tryRegister name fragment).1 = .error error →
    matcher.grammar.isIdentifier name = true →
    (∃ cause, Regex.compile fragment defaultSizeLimit = .error cause ∧
      error = .invalidFragment name (FragmentFault.uncompiled cause).message) ∨
    ∃ regex, Regex.compile fragment defaultSizeLimit = .ok regex ∧ regex.groupCount ≠ 1 ∧
      error = .invalidFragment name (FragmentFault.groupCount regex.groupCount).message
  tooLong : ∀ input text length limit,
    (matcher.tryTest input text).1 = .error (.inputTooLong length limit) →
    (matcher.tryTest input text).2 = matcher
  tryCompile : ∀ text error, (matcher.tryCompile text).1 = .error error →
    error.refusesPattern = true → matcher.OnlyLookedUp text (matcher.tryCompile text).2
  tryTest : ∀ input text error, (matcher.tryTest input text).1 = .error error →
    error.refusesPattern = true → matcher.OnlyLookedUp text (matcher.tryTest input text).2

theorem Invariant.staysIntact (invariant : matcher.Invariant) : matcher.StaysIntact where
  tryRegister _ _ _ refused := (tryRegister_of_error refused).2
  invalidName_iff := by
    intro name fragment error refused
    rcases Registry.tryRegister_eq_error_iff.mp (tryRegister_of_error refused).1 with
      ⟨invalid, rfl⟩ | ⟨identifier, fault, _, rfl⟩
    · simp [invalid]
    · simp [identifier]
  invalidFragment := by
    intro name fragment error refused identifier
    rcases Registry.tryRegister_eq_error_iff.mp (tryRegister_of_error refused).1 with
      ⟨invalid, _⟩ | ⟨_, fault, faulty, rfl⟩
    · simp [identifier] at invalid
    · rcases fragmentFault?_eq_some_iff.mp faulty with
        ⟨cause, fails, rfl⟩ | ⟨regex, compiles, several, rfl⟩
      · exact .inl ⟨cause, fails, rfl⟩
      · exact .inr ⟨regex, compiles, several, rfl⟩
  tooLong := by
    intro input text length limit refused
    have long := ((invariant.coherent.tooLong_iff input text length limit).mp refused).1
    have notAdmitted : ¬ matcher.admits input = true := by
      rw [admits_iff]
      exact Nat.not_le.mpr long
    unfold Matcher.tryTest
    rw [if_neg notAdmitted]
  tryCompile := by
    intro text error fails refuses
    have refused : (matcher.perform (.tryCompile text)).1 = .failure error :=
      congrArg (Answer.ofExcept .pattern) fails
    have looked : matcher.OnlyLookedUp text (matcher.perform (.tryCompile text)).2 :=
      invariant.onlyLookedUp rfl ((congrArg Answer.refusesPattern refused).trans refuses)
    exact looked
  tryTest := by
    intro input text error fails refuses
    have refused : (matcher.perform (.tryTest input text)).1 = .failure error :=
      congrArg (Answer.ofExcept .params) fails
    have looked : matcher.OnlyLookedUp text (matcher.perform (.tryTest input text)).2 :=
      invariant.onlyLookedUp rfl ((congrArg Answer.refusesPattern refused).trans refuses)
    exact looked

/-- However a matcher was made and whatever was done with it, a strict operation that fails leaves
it intact: a refused registration and an input that is too long change nothing, and a refused
pattern is looked up and changes nothing else. -/
theorem performAll_staysIntact (made : Made matcher) (steps : List Step) :
    (matcher.performAll steps).2.StaysIntact :=
  (made.invariant.performAll steps).staysIntact

end Measured

/-- A pattern that names an unknown filter is refused although the cache keeps, under its text, a
pattern that never matches; and a fragment is refused that drops a group before the one that it
keeps. -/
theorem performAll_staysIntact_never :
    let before := (standard.performAll [.compile "[nope:]"]).2
    (before.tryCompile "[nope:]").1 = .error (.unknownFilter "nope") ∧
      (before.tryCompile "[nope:]").2.registry = before.registry ∧
      (before.tryCompile "[nope:]").2.cache.patterns = before.cache.patterns ∧
      (before.tryCompile "[nope:]").2.cache.stats.hits = before.cache.stats.hits + 1 ∧
      (before.tryCompile "[nope:]").2.cache.stats.insertions = before.cache.stats.insertions ∧
      (before.tryRegister "f" "(a)\x7b0\x7d(b)").1 =
        .error (.invalidFragment "f" "expected exactly one capture group, found 2") ∧
      (before.tryRegister "f" "(a)\x7b0\x7d(b)").2 = before := by
  intro before
  have intact : before.StaysIntact := performAll_staysIntact .standard [.compile "[nope:]"]
  have outcome : (before.tryCompile "[nope:]").1.map (fun _ => ()) =
      .error (.unknownFilter "nope") := by decide +kernel
  have refused : (before.tryCompile "[nope:]").1 = .error (.unknownFilter "nope") := by
    cases tried : (before.tryCompile "[nope:]").1 with
    | ok pattern => simp [tried, Except.map] at outcome
    | error cause => simpa [tried, Except.map] using outcome
  have refusedFragment : (before.tryRegister "f" "(a)\x7b0\x7d(b)").1 =
      .error (.invalidFragment "f" "expected exactly one capture group, found 2") := by
    decide +kernel
  have looked : before.OnlyLookedUp "[nope:]" (before.tryCompile "[nope:]").2 :=
    intact.tryCompile _ _ refused rfl
  have enabled : before.cache.isEnabled = true := by decide +kernel
  have kept : (before.cache.find? "[nope:]").isSome = true := by decide +kernel
  have stats := looked.cache.stats enabled
  rw [kept] at stats
  refine ⟨refused, ?_, looked.cache.patterns, ?_, ?_, refusedFragment,
    intact.tryRegister _ _ _ refusedFragment⟩
  · rw [← looked.frame]
  · rw [stats]
    rfl
  · rw [stats]

end Matcher

end Stencil
