import Stencil.Proofs.Cache.Order

/-!
Two caches of different sizes under the same operations.

Owns `Cache.Includes`, the invariant between the larger cache and the smaller one, and what each
operation makes of it.

The main statement is `run_included`: what the smaller cache finds, the larger one finds as well.
The orders of the uses of the two drift apart when a look-up finds a pattern in the larger cache
only. What stays is that the texts of the smaller cache are in the same order in both, and that the
smaller cache is full as soon as the larger one keeps anything else.
-/

namespace Stencil.Cache

variable {small large : Cache} {text : String}

/-- The larger cache keeps what the smaller one keeps, with the uses in the same order, and found
a pattern at least as often. -/
structure Includes (large small : Cache) : Prop where
  order : small.order.Sublist large.order
  full : small.order = large.order ∨ small.order.length = small.config.maxSize
  found : ∀ text pattern, small.find? text = some pattern → large.find? text = some pattern
  hits : small.stats.hits ≤ large.stats.hits

theorem Includes.touch (includes : large.Includes small) (text : String) :
    (touch small.order text).Sublist (touch large.order text) :=
  (includes.order.filter _).append (List.Sublist.refl _)

/-- A cache that holds nothing is included in every other. -/
theorem includes_of_empty (smallEmpty : small.Empty) (largeEmpty : large.Empty)
    (hits : small.stats.hits ≤ large.stats.hits) : large.Includes small where
  order := by rw [smallEmpty.order, largeEmpty.order]
  full := .inl (smallEmpty.order.trans largeEmpty.order.symm)
  found text pattern held := by simp [smallEmpty.find?] at held
  hits := hits

/-- Two caches that are switched on and in order, of which the second is no smaller. -/
structure Comparable (small large : Cache) : Prop where
  smallKept : small.WellKept
  largeKept : large.WellKept
  smallEnabled : small.isEnabled = true
  largeEnabled : large.isEnabled = true
  maxSize_le : small.config.maxSize ≤ large.config.maxSize

namespace Comparable

theorem apply (comparable : Comparable small large) (op : Op) :
    Comparable (small.apply op) (large.apply op) where
  smallKept := comparable.smallKept.apply op
  largeKept := comparable.largeKept.apply op
  smallEnabled := by rw [isEnabled_apply, comparable.smallEnabled]
  largeEnabled := by rw [isEnabled_apply, comparable.largeEnabled]
  maxSize_le := by
    rw [config_apply, config_apply]
    exact comparable.maxSize_le

/-! ### Look-ups -/

theorem includes_get (comparable : Comparable small large) (includes : large.Includes small)
    (text : String) : (large.get text).2.Includes (small.get text).2 := by
  have smallOrdered := comparable.smallKept.ordered
  have largeOrdered := comparable.largeKept.ordered
  have hits := includes.hits
  cases foundSmall : small.find? text with
  | some pattern =>
      have foundLarge := includes.found text pattern foundSmall
      have presentSmall := smallOrdered.mem_of_find? foundSmall
      rw [get_of_found comparable.smallEnabled smallOrdered foundSmall,
        get_of_found comparable.largeEnabled largeOrdered foundLarge]
      refine ⟨includes.touch text, ?_, includes.found, Nat.succ_le_succ hits⟩
      rcases includes.full with same | full
      · exact .inl (congrArg (Stencil.touch · text) same)
      · right
        change (Stencil.touch small.order text).length = small.config.maxSize
        rw [length_touch smallOrdered.nodup, if_pos presentSmall, full]
  | none =>
      rw [get_of_absent comparable.smallEnabled foundSmall]
      cases foundLarge : large.find? text with
      | none =>
          rw [get_of_absent comparable.largeEnabled foundLarge]
          exact ⟨includes.order, includes.full, includes.found, hits⟩
      | some pattern =>
          have presentLarge := largeOrdered.mem_of_find? foundLarge
          have absentSmall : text ∉ small.order := smallOrdered.not_mem_of_find? foundSmall
          rw [get_of_found comparable.largeEnabled largeOrdered foundLarge]
          -- The text moves in the larger order only, which leaves the others as they are.
          have others : small.order.filter (· != text) = small.order :=
            filter_ne_of_not_mem absentSmall
          have rest : small.order.Sublist (Stencil.touch large.order text) := by
            rw [← others]
            exact (includes.order.filter _).trans (List.sublist_append_left _ _)
          have full := includes.full.resolve_left fun same => absentSmall (same ▸ presentLarge)
          exact ⟨rest, .inr full, includes.found, Nat.le_succ_of_le hits⟩

/-! ### Insertions -/

/-- Where the larger cache drops a pattern, the smaller one does so as well. -/
theorem surplusAfter_le (comparable : Comparable small large) (includes : large.Includes small)
    (text : String) : large.surplusAfter text ≤ small.surplusAfter text := by
  have maxSize_le := comparable.maxSize_le
  unfold surplusAfter
  rcases includes.full with same | full
  · rw [same]
    omega
  · have bounded := comparable.largeKept.bounded
    rw [length_touch comparable.smallKept.ordered.nodup,
      length_touch comparable.largeKept.ordered.nodup]
    by_cases present : text ∈ large.order
    · rw [if_pos present]
      omega
    · rw [if_neg present, if_neg fun early => present (includes.order.subset early)]
      omega

/-- The texts that the smaller cache keeps are kept by the larger one, in the same order: the
larger one drops no more of them. -/
theorem order_insert (comparable : Comparable small large) (includes : large.Includes small)
    (pattern : Pattern) : (small.insert pattern).order.Sublist (large.insert pattern).order := by
  rw [insert_eq comparable.smallEnabled comparable.smallKept.ordered pattern,
    insert_eq comparable.largeEnabled comparable.largeKept.ordered pattern]
  have fewer := comparable.surplusAfter_le includes pattern.text
  exact ((includes.touch pattern.text).drop _).trans (List.drop_sublist_drop_left _ fewer)

/-- A smaller cache that holds less than the larger one is full after an insertion as well. -/
theorem full_insert (comparable : Comparable small large) (includes : large.Includes small)
    (pattern : Pattern) :
    (small.insert pattern).order = (large.insert pattern).order ∨
      (small.insert pattern).order.length = small.config.maxSize := by
  have smallOrdered := comparable.smallKept.ordered
  rw [insert_eq comparable.smallEnabled smallOrdered pattern,
    insert_eq comparable.largeEnabled comparable.largeKept.ordered pattern]
  change (Stencil.touch small.order pattern.text).drop (small.surplusAfter pattern.text) =
      (Stencil.touch large.order pattern.text).drop (large.surplusAfter pattern.text) ∨
    ((Stencil.touch small.order pattern.text).drop (small.surplusAfter pattern.text)).length =
      small.config.maxSize
  rw [List.length_drop, surplusAfter]
  have length := length_touch smallOrdered.nodup pattern.text
  by_cases reached : small.config.maxSize ≤ (Stencil.touch small.order pattern.text).length
  · exact .inr (by omega)
  · -- Neither cache drops anything, and they held the same before.
    have notFull : small.order.length ≠ small.config.maxSize := by
      split at length <;> omega
    have same := includes.full.resolve_right notFull
    have maxSize_le := comparable.maxSize_le
    have noSurplus :
        (Stencil.touch small.order pattern.text).length - small.config.maxSize = 0 := by
      omega
    rw [noSurplus, surplusAfter, ← same, Nat.sub_eq_zero_of_le (by omega)]
    exact .inl rfl

theorem includes_insert (comparable : Comparable small large) (includes : large.Includes small)
    (pattern : Pattern) : (large.insert pattern).Includes (small.insert pattern) := by
  have smallOrdered := comparable.smallKept.ordered
  have largeOrdered := comparable.largeKept.ordered
  have order := comparable.order_insert includes pattern
  have config : (small.insert pattern).config.maxSize = small.config.maxSize :=
    congrArg CacheConfig.maxSize (config_apply small (.insert pattern))
  refine ⟨order, ?_, fun text held found => ?_, ?_⟩
  · rw [config]
    exact comparable.full_insert includes pattern
  · have kept : ((large.insert pattern).find? text).isSome = true := by
      refine ((comparable.largeKept.insert pattern).ordered.mem_iff text).mp (order.subset ?_)
      exact (comparable.smallKept.insert pattern).ordered.mem_of_find? found
    rw [find?_insert_of_isSome comparable.largeEnabled largeOrdered kept]
    rw [find?_insert_of_isSome comparable.smallEnabled smallOrdered
      (Option.isSome_of_eq_some found)] at found
    by_cases same : pattern.text = text
    · rwa [if_pos same] at found ⊢
    · rw [if_neg same] at found ⊢
      exact includes.found text held found
  · rw [insert_eq comparable.smallEnabled smallOrdered pattern,
      insert_eq comparable.largeEnabled largeOrdered pattern]
    exact includes.hits

/-- What every operation preserves. -/
theorem includes_apply (comparable : Comparable small large) (includes : large.Includes small)
    (op : Op) : (large.apply op).Includes (small.apply op) := by
  cases op with
  | get text => exact comparable.includes_get includes text
  | insert pattern => exact comparable.includes_insert includes pattern
  | invalidate =>
      refine includes_of_empty comparable.smallKept.empty_invalidate
        comparable.largeKept.empty_invalidate ?_
      change small.invalidate.stats.hits ≤ large.invalidate.stats.hits
      rw [stats_invalidate, stats_invalidate]
      exact includes.hits
  | clear => exact includes_of_empty (empty_clear small) (empty_clear large) (Nat.le_refl 0)

/-- What every run preserves. -/
theorem includes_run (comparable : Comparable small large) (includes : large.Includes small)
    (ops : List Op) : (large.run ops).Includes (small.run ops) := by
  induction ops generalizing small large with
  | nil => exact includes
  | cons op rest inductionHypothesis =>
      exact inductionHypothesis (comparable.apply op) (comparable.includes_apply includes op)

end Comparable

/-- Under the same operations the larger of two caches keeps every pattern that the smaller one
keeps; so a look-up that finds a pattern in the smaller finds the same one in the larger, and no
fewer look-ups found something in the larger. -/
theorem run_included {smaller larger : CacheConfig} (smallerEnabled : smaller.enabled = true)
    (largerEnabled : larger.enabled = true) (positive : 1 ≤ smaller.maxSize)
    (le : smaller.maxSize ≤ larger.maxSize) (ops : List Op) :
    let small := run (ofConfig smaller) ops
    let large := run (ofConfig larger) ops
    (∀ text pattern, small.find? text = some pattern → large.find? text = some pattern) ∧
      (∀ text pattern, (small.get text).1 = some pattern → (large.get text).1 = some pattern) ∧
      small.stats.hits ≤ large.stats.hits := by
  intro small large
  have comparable : Comparable (ofConfig smaller) (ofConfig larger) :=
    { smallKept := wellKept_ofConfig smaller
      largeKept := wellKept_ofConfig larger
      smallEnabled := isEnabled_iff.mpr ⟨smallerEnabled, positive⟩
      largeEnabled := isEnabled_iff.mpr ⟨largerEnabled, Nat.lt_of_lt_of_le positive le⟩
      maxSize_le := le }
  have includes : large.Includes small := comparable.includes_run
    (includes_of_empty (empty_ofConfig smaller) (empty_ofConfig larger) (Nat.le_refl 0)) ops
  have enabled : ∀ config : CacheConfig, (ofConfig config).isEnabled = true →
      (run (ofConfig config) ops).isEnabled = true := by
    intro config enabled
    rwa [isEnabled, config_run]
  refine ⟨includes.found, fun text pattern => ?_, includes.hits⟩
  rw [get_fst (enabled smaller comparable.smallEnabled),
    get_fst (enabled larger comparable.largeEnabled)]
  exact includes.found text pattern

/-- A cache for one pattern and a cache for two: after the second insertion only the larger finds
the first pattern. Both find the second. -/
theorem run_included_two :
    let one : CacheConfig := { enabled := true, maxSize := 1 }
    let two : CacheConfig := { enabled := true, maxSize := 2 }
    let ops : List Op := [.insert (.never "a" []), .insert (.never "b" []), .get "a"]
    one.enabled = true ∧ two.enabled = true ∧ 1 ≤ one.maxSize ∧ one.maxSize ≤ two.maxSize ∧
      (run (ofConfig one) ops).stats.hits = 0 ∧ (run (ofConfig two) ops).stats.hits = 1 ∧
      ((run (ofConfig two) ops).get "b").1 = some (.never "b" []) := by
  intro one two ops
  have included := @run_included one two rfl rfl (by decide) (by decide) ops
  exact ⟨rfl, rfl, by decide, by decide, by decide +kernel, by decide +kernel,
    included.2.1 "b" (.never "b" []) rfl⟩

end Stencil.Cache
