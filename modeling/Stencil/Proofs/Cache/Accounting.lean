import Mathlib.Algebra.GroupWithZero.Nat
import Stencil.Proofs.Cache.Order
import Stencil.Proofs.Events

/-!
The account of a cache balances.

Owns:
- what can be counted of the events since a cache was cleared (`Cache.countOf`,
  `Cache.sizesDropped`, `Cache.countDropped`);
- `Cache.Balanced`, the invariant that ties the account to these events.

The main statement is `run_balanced`: every look-up is a hit or a miss, and every pattern that was
inserted as a new one was evicted, was dropped together with all others, or is still kept.
-/

namespace Stencil.Cache

/-! ### Events -/

namespace Op

def isGet : Op → Bool
  | .get _ => true
  | _ => false

def isInsert : Op → Bool
  | .insert _ => true
  | _ => false

def isInvalidate : Op → Bool
  | .invalidate => true
  | _ => false

def isClear : Op → Bool
  | .clear => true
  | _ => false

end Op

/-- Operations with the caches that they are applied to. -/
abbrev Events := List (Event Cache Op)

/-- The events of a run of a cache. -/
def events (cache : Cache) (ops : List Op) : Events := eventsFrom apply cache ops

/-- The events after the last one that cleared the cache; all of them, if none did. -/
abbrev sinceClear (events : Events) : Events := sinceReset Op.isClear events

/-- The number of the events whose operation is of some kind. -/
def countOf (kind : Op → Bool) (events : Events) : Nat :=
  events.countP fun event => kind event.action

/-- The sizes of the cache at the events that dropped all patterns at once. -/
def sizesDropped (events : Events) : List Nat :=
  (events.filter fun event => event.action.isInvalidate).map fun event => event.before.size

/-- The number of the events that dropped all patterns when there were any. -/
def countDropped (events : Events) : Nat :=
  events.countP fun event => event.action.isInvalidate && event.before.size != 0

@[simp] theorem countOf_concat (kind : Op → Bool) (past : Events) (event : Event Cache Op) :
    countOf kind (past ++ [event]) = countOf kind past + if kind event.action then 1 else 0 := by
  rw [countOf, List.countP_append, List.countP_singleton, countOf]

@[simp] theorem sizesDropped_concat (past : Events) (event : Event Cache Op) :
    sizesDropped (past ++ [event]) =
      sizesDropped past ++ if event.action.isInvalidate then [event.before.size] else [] := by
  cases drops : event.action.isInvalidate <;> simp [sizesDropped, drops]

@[simp] theorem countDropped_concat (past : Events) (event : Event Cache Op) :
    countDropped (past ++ [event]) =
      countDropped past + if event.action.isInvalidate && event.before.size != 0 then 1 else 0 := by
  rw [countDropped, List.countP_append, List.countP_singleton, countDropped]

/-- Whenever all patterns were dropped, at least one was. -/
theorem countDropped_le_sum (events : Events) :
    countDropped events ≤ (sizesDropped events).sum := by
  induction events with
  | nil => exact Nat.le_refl 0
  | cons event rest inductionHypothesis =>
      unfold countDropped sizesDropped at inductionHypothesis ⊢
      rw [List.countP_cons, List.filter_cons]
      cases drops : event.action.isInvalidate with
      | false => simpa using inductionHypothesis
      | true =>
          simp only [Bool.true_and, bne_iff_ne, ne_eq, if_true, List.map_cons, List.sum_cons]
          split <;> omega

/-! ### What an operation makes of the number of the patterns -/

variable {cache : Cache} {recent : Events}

/-- The patterns after an insertion, with those that it evicts, are those before it and the pattern
itself, if it is new. -/
theorem size_insert_add (kept : cache.WellKept) (enabled : cache.isEnabled = true)
    (pattern : Pattern) :
    (cache.insert pattern).size + cache.surplusAfter pattern.text =
      cache.size + (if (cache.find? pattern.text).isSome then 0 else 1) := by
  have before : cache.size = cache.order.length := kept.ordered.size_eq
  have after : (cache.insert pattern).size = (cache.insert pattern).order.length :=
    (kept.insert pattern).ordered.size_eq
  have order : (cache.insert pattern).order =
      (touch cache.order pattern.text).drop (cache.surplusAfter pattern.text) := by
    rw [insert_eq enabled kept.ordered]
  have named : pattern.text ∈ cache.order ↔ (cache.find? pattern.text).isSome = true :=
    kept.ordered.mem_iff pattern.text
  have length := length_touch kept.ordered.nodup pattern.text
  have within : cache.surplusAfter pattern.text ≤ (touch cache.order pattern.text).length :=
    Nat.sub_le _ _
  rw [after, order, List.length_drop, before]
  by_cases known : (cache.find? pattern.text).isSome = true
  · rw [if_pos (named.mpr known)] at length
    rw [if_pos known]
    omega
  · rw [if_neg (known ∘ named.mp)] at length
    rw [if_neg known]
    omega

theorem size_get (cache : Cache) (text : String) : (cache.get text).2.size = cache.size :=
  congrArg PatternMap.size (patterns_get cache text)

theorem size_invalidate (cache : Cache) : cache.invalidate.size = 0 := by
  unfold invalidate
  split
  next empty => exact empty
  next => rfl

/-! ### The invariant -/

/-- The account agrees with the events since the cache was cleared last. -/
structure Balanced (cache : Cache) (recent : Events) : Prop where
  lookups : cache.stats.lookups = countOf Op.isGet recent
  outcomes : cache.stats.lookups = cache.stats.hits + cache.stats.misses
  insertions : cache.stats.insertions =
    cache.stats.evictions + cache.size + (sizesDropped recent).sum
  invalidations : cache.stats.invalidations = countDropped recent
  insertions_le : cache.stats.insertions ≤ countOf Op.isInsert recent

theorem balanced_ofConfig (config : CacheConfig) : (ofConfig config).Balanced [] :=
  ⟨rfl, rfl, rfl, rfl, Nat.le_refl 0⟩

theorem balanced_clear (cache : Cache) : cache.clear.Balanced [] :=
  ⟨rfl, rfl, rfl, rfl, Nat.le_refl 0⟩

namespace Balanced

theorem get (balanced : cache.Balanced recent) (enabled : cache.isEnabled = true) (text : String) :
    (cache.get text).2.Balanced (recent ++ [⟨cache, .get text⟩]) where
  lookups := by
    rw [stats_get enabled]
    simp [balanced.lookups, Op.isGet]
  outcomes := by
    have outcomes := balanced.outcomes
    rw [stats_get enabled]
    dsimp only
    split <;> omega
  insertions := by
    rw [stats_get enabled, size_get]
    simpa [Op.isInvalidate] using balanced.insertions
  invalidations := by
    rw [stats_get enabled]
    simpa [Op.isInvalidate] using balanced.invalidations
  insertions_le := by
    rw [stats_get enabled]
    simpa [Op.isInsert] using balanced.insertions_le

theorem insert (balanced : cache.Balanced recent) (kept : cache.WellKept)
    (enabled : cache.isEnabled = true) (pattern : Pattern) :
    (cache.insert pattern).Balanced (recent ++ [⟨cache, .insert pattern⟩]) where
  lookups := by
    rw [stats_insert kept enabled]
    simpa [Op.isGet] using balanced.lookups
  outcomes := by
    rw [stats_insert kept enabled]
    exact balanced.outcomes
  insertions := by
    have insertions := balanced.insertions
    have size := size_insert_add kept enabled pattern
    have dropped : sizesDropped (recent ++ [⟨cache, .insert pattern⟩]) = sizesDropped recent := by
      simp [Op.isInvalidate]
    rw [stats_insert kept enabled, dropped]
    dsimp only
    omega
  invalidations := by
    rw [stats_insert kept enabled]
    simpa [Op.isInvalidate] using balanced.invalidations
  insertions_le := by
    have insertions_le := balanced.insertions_le
    have counted : countOf Op.isInsert (recent ++ [⟨cache, .insert pattern⟩]) =
        countOf Op.isInsert recent + 1 := by
      simp [Op.isInsert]
    rw [stats_insert kept enabled, counted]
    dsimp only
    split <;> omega

theorem invalidate (balanced : cache.Balanced recent) :
    cache.invalidate.Balanced (recent ++ [⟨cache, .invalidate⟩]) where
  lookups := by
    rw [stats_invalidate]
    simpa [Op.isGet] using balanced.lookups
  outcomes := by
    rw [stats_invalidate]
    exact balanced.outcomes
  insertions := by
    have insertions := balanced.insertions
    have dropped : (sizesDropped (recent ++ [⟨cache, .invalidate⟩])).sum =
        (sizesDropped recent).sum + cache.size := by
      simp [Op.isInvalidate]
    rw [stats_invalidate, size_invalidate, dropped]
    dsimp only
    omega
  invalidations := by
    rw [stats_invalidate, countDropped_concat, ← balanced.invalidations]
    by_cases empty : cache.size = 0 <;> simp [Op.isInvalidate, empty]
  insertions_le := by
    rw [stats_invalidate]
    simpa [Op.isInsert] using balanced.insertions_le

/-- What every operation preserves. -/
theorem apply {past : Events} (balanced : cache.Balanced (sinceClear past))
    (kept : cache.WellKept) (enabled : cache.isEnabled = true) (op : Op) :
    (cache.apply op).Balanced (sinceClear (past ++ [⟨cache, op⟩])) := by
  rw [sinceClear, sinceReset_concat]
  cases op with
  | get text => exact balanced.get enabled text
  | insert pattern => exact balanced.insert kept enabled pattern
  | invalidate => exact balanced.invalidate
  | clear => exact balanced_clear cache

/-- What every run preserves. -/
theorem run {past : Events} (balanced : cache.Balanced (sinceClear past))
    (kept : cache.WellKept) (enabled : cache.isEnabled = true) (ops : List Op) :
    (cache.run ops).Balanced (sinceClear (past ++ cache.events ops)) := by
  let keeps (cache : Cache) (past : Events) : Prop :=
    cache.Balanced (sinceClear past) ∧ cache.WellKept ∧ cache.isEnabled = true
  have step : ∀ cache past op, keeps cache past →
      keeps (cache.apply op) (past ++ [⟨cache, op⟩]) := by
    rintro cache past op ⟨balanced, kept, enabled⟩
    exact ⟨balanced.apply kept enabled op, kept.apply op, (isEnabled_apply cache op).trans enabled⟩
  have start : keeps cache past := ⟨balanced, kept, enabled⟩
  exact (foldl_keeps step start ops).1

/-- No counter exceeds the number of the events that it tells of. -/
theorem le_length (balanced : cache.Balanced recent) :
    cache.stats.lookups ≤ recent.length ∧ cache.stats.hits ≤ recent.length ∧
      cache.stats.misses ≤ recent.length ∧ cache.stats.insertions ≤ recent.length ∧
      cache.stats.evictions ≤ recent.length ∧ cache.stats.invalidations ≤ recent.length := by
  have lookups : cache.stats.lookups ≤ recent.length :=
    balanced.lookups ▸ List.countP_le_length
  have insertions : cache.stats.insertions ≤ recent.length :=
    balanced.insertions_le.trans List.countP_le_length
  have invalidations : cache.stats.invalidations ≤ recent.length :=
    balanced.invalidations ▸ List.countP_le_length
  have outcomes := balanced.outcomes
  have evicted := balanced.insertions
  refine ⟨lookups, ?_, ?_, insertions, ?_, invalidations⟩ <;> omega

end Balanced

/-- Since a cache was made or cleared last, it counted as many look-ups as there were, and each of
them as a hit or a miss; every insertion that it counted was evicted, is still kept, or was dropped
with all others; and it counted the times at which it dropped at least one pattern in this way. No
counter exceeds the number of the operations, so that none overflows in a run that a counter can
count. -/
theorem run_balanced {config : CacheConfig} (enabled : config.enabled = true)
    (positive : 0 < config.maxSize) (ops : List Op) :
    let cache := run (ofConfig config) ops
    let recent := sinceClear ((ofConfig config).events ops)
    cache.stats.lookups = countOf Op.isGet recent ∧
      cache.stats.lookups = cache.stats.hits + cache.stats.misses ∧
      cache.stats.insertions = cache.stats.evictions + cache.size + (sizesDropped recent).sum ∧
      cache.stats.invalidations = countDropped recent ∧
      cache.stats.evictions + cache.size + cache.stats.invalidations ≤ cache.stats.insertions ∧
      ∀ counter ∈ [cache.stats.lookups, cache.stats.hits, cache.stats.misses,
        cache.stats.insertions, cache.stats.evictions, cache.stats.invalidations],
        counter ≤ ops.length := by
  intro cache recent
  have start : (ofConfig config).Balanced (sinceClear []) := balanced_ofConfig config
  have balanced : cache.Balanced recent :=
    start.run (wellKept_ofConfig config) (isEnabled_iff.mpr ⟨enabled, positive⟩) ops
  have shorter : recent.length ≤ ops.length := length_sinceReset_le apply Op.isClear _ ops
  refine ⟨balanced.lookups, balanced.outcomes, balanced.insertions, balanced.invalidations, ?_, ?_⟩
  · have insertions := balanced.insertions
    have invalidations := balanced.invalidations
    have atLeastOne := countDropped_le_sum recent
    omega
  · have bounds := balanced.le_length
    simp only [List.forall_mem_cons, List.not_mem_nil, false_implies, implies_true, and_true]
    omega

/-- A cache for one pattern that is cleared, takes two patterns, evicts one and drops the other. -/
theorem run_balanced_dropped :
    let config : CacheConfig := { enabled := true, maxSize := 1 }
    let ops : List Op := [.get "a", .clear, .insert (.never "a" []), .insert (.never "b" []),
      .get "a", .get "b", .invalidate, .invalidate]
    config.enabled = true ∧ 0 < config.maxSize ∧
      (run (ofConfig config) ops).stats.lookups = 2 ∧
      (run (ofConfig config) ops).stats.insertions =
        (run (ofConfig config) ops).stats.evictions + (run (ofConfig config) ops).size + 1 ∧
      (run (ofConfig config) ops).stats.invalidations = 1 := by
  intro config ops
  obtain ⟨lookups, _, insertions, invalidations, _⟩ := @run_balanced config rfl (by decide) ops
  have looked : countOf Op.isGet (sinceClear ((ofConfig config).events ops)) = 2 := by
    decide +kernel
  have dropped : (sizesDropped (sinceClear ((ofConfig config).events ops))).sum = 1 := by
    decide +kernel
  have counted : countDropped (sinceClear ((ofConfig config).events ops)) = 1 := by
    decide +kernel
  rw [looked] at lookups
  rw [dropped] at insertions
  rw [counted] at invalidations
  exact ⟨rfl, by decide, lookups, insertions, invalidations⟩

end Stencil.Cache
