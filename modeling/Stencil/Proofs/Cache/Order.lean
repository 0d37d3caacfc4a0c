import Mathlib.Data.List.Basic
import Mathlib.Data.List.Nodup
import Stencil.Cache

/-!
The patterns of a cache and the order of their uses.

Owns:
- `PatternMap.OrderedBy`, which says that an order names exactly the patterns of a map, each once;
- what a look-up (`get_of_found`, `get_of_absent`), an eviction (`evict_eq`) and an insertion
  (`insert_eq`) make of patterns that are kept in order, and what they add to the account
  (`stats_get`, `stats_insert`, `stats_invalidate`);
- `Cache.WellKept`, the invariant of every operation.

The main statement is `run_ordered_bounded`: after any operations the patterns and the order of
their uses agree, there are no more patterns than the settings allow, and an insertion drops one at
the most. Which one it drops is told by the history of the uses, and not here.
-/

namespace Stencil

/-! ### Maps and orders -/

namespace PatternMap

/-- The map without the patterns of the given texts. -/
def eraseAll (map : PatternMap) (texts : List String) : PatternMap := texts.foldl erase map

theorem find?_eraseAll (map : PatternMap) (texts : List String) (text : String) :
    (map.eraseAll texts).find? text = if text ∈ texts then none else map.find? text := by
  induction texts generalizing map with
  | nil => simp [eraseAll]
  | cons first rest inductionHypothesis =>
      have step : map.eraseAll (first :: rest) = (map.erase first).eraseAll rest := rfl
      rw [step, inductionHypothesis, find?_erase]
      by_cases same : first = text
      · simp [same]
      · simp [same, Ne.symm same]

/-- The order names exactly the patterns of the map, and each of them once. -/
structure OrderedBy (map : PatternMap) (order : List String) : Prop where
  nodup : order.Nodup
  mem_iff : ∀ text, text ∈ order ↔ (map.find? text).isSome = true

variable {map : PatternMap} {order : List String}

theorem orderedBy_empty : (∅ : PatternMap).OrderedBy [] where
  nodup := .nil
  mem_iff := by simp

theorem OrderedBy.mem_of_find? (ordered : map.OrderedBy order) {text : String} {pattern : Pattern}
    (found : map.find? text = some pattern) : text ∈ order :=
  (ordered.mem_iff text).mpr (Option.isSome_of_eq_some found)

theorem OrderedBy.not_mem_of_find? (ordered : map.OrderedBy order) {text : String}
    (absent : map.find? text = none) : text ∉ order := by
  rw [ordered.mem_iff, absent]
  exact Bool.false_ne_true

theorem OrderedBy.size_eq (ordered : map.OrderedBy order) : map.size = order.length := by
  have sameTexts : map.patterns.keys.Perm order := by
    refine (List.perm_ext_iff_of_nodup Std.ExtTreeMap.nodup_keys ordered.nodup).mpr fun text => ?_
    rw [Std.ExtTreeMap.mem_keys, Std.ExtTreeMap.mem_iff_isSome_getElem?, ordered.mem_iff]
    rfl
  rw [← sameTexts.length_eq, Std.ExtTreeMap.length_keys]
  rfl

/-- What is removed from the front of the order and from the map leaves them in agreement. -/
theorem OrderedBy.drop (ordered : map.OrderedBy order) (count : Nat) :
    (map.eraseAll (order.take count)).OrderedBy (order.drop count) where
  nodup := ordered.nodup.sublist (List.drop_sublist count order)
  mem_iff := by
    intro text
    have nodup := ordered.nodup
    have mem := ordered.mem_iff text
    rw [← List.take_append_drop count order] at nodup mem
    have disjoint := (List.nodup_append'.mp nodup).2.2
    rw [find?_eraseAll]
    split
    next taken => simpa using disjoint taken
    next kept => rw [← mem, List.mem_append, or_iff_right kept]

end PatternMap

/-- The order of the uses after one more use of a text. -/
def touch (order : List String) (text : String) : List String :=
  order.filter (· != text) ++ [text]

section Touch

variable {order : List String} {text other : String}

theorem mem_touch : other ∈ touch order text ↔ other ∈ order ∨ other = text := by
  by_cases same : other = text
  · simp [touch, same]
  · simp [touch, same]

theorem filter_ne_of_not_mem (absent : text ∉ order) : order.filter (· != text) = order := by
  refine List.filter_eq_self.mpr fun other present => ?_
  simpa using ne_of_mem_of_not_mem present absent

theorem nodup_touch (nodup : order.Nodup) : (touch order text).Nodup := by
  refine List.nodup_append'.mpr ⟨nodup.filter _, List.nodup_singleton _, ?_⟩
  simp

/-- A use of a text that was used before makes the order no longer. -/
theorem length_touch (nodup : order.Nodup) (text : String) :
    (touch order text).length = if text ∈ order then order.length else order.length + 1 := by
  have others : order.filter (· != text) = order.erase text := (nodup.erase_eq_filter text).symm
  rw [touch, others, List.length_append, List.length_erase, List.length_singleton]
  split
  next present =>
    have positive := List.length_pos_of_mem present
    omega
  next => rfl

end Touch

namespace PatternMap

variable {map : PatternMap} {order : List String}

theorem OrderedBy.insert (ordered : map.OrderedBy order) (pattern : Pattern) :
    (map.insert pattern).OrderedBy (touch order pattern.text) where
  nodup := nodup_touch ordered.nodup
  mem_iff := by
    intro text
    rw [mem_touch, find?_insert, ordered.mem_iff]
    split
    next same => simp [same]
    next other => simp [Ne.symm other]

theorem OrderedBy.touch (ordered : map.OrderedBy order) {text : String} (present : text ∈ order) :
    map.OrderedBy (touch order text) where
  nodup := nodup_touch ordered.nodup
  mem_iff := by
    intro other
    rw [mem_touch, ordered.mem_iff, or_iff_left_iff_imp]
    rintro rfl
    exact (ordered.mem_iff other).mp present

end PatternMap

namespace Cache

variable {cache : Cache} {order : List String} {text : String} {pattern : Pattern}

/-! ### Operations on patterns in order -/

theorem get_of_disabled (disabled : cache.isEnabled = false) (text : String) :
    cache.get text = (none, cache) := by
  simp [get, disabled]

theorem insert_of_disabled (disabled : cache.isEnabled = false) (pattern : Pattern) :
    cache.insert pattern = cache := by
  simp [insert, disabled]

theorem get_of_absent (enabled : cache.isEnabled = true) (absent : cache.find? text = none) :
    cache.get text =
      (none,
        { cache with
          stats := { cache.stats with
            lookups := cache.stats.lookups + 1, misses := cache.stats.misses + 1 } }) := by
  simp [get, enabled, absent]

theorem get_of_found (enabled : cache.isEnabled = true)
    (ordered : cache.patterns.OrderedBy cache.order) (found : cache.find? text = some pattern) :
    cache.get text =
      (some pattern,
        { cache with
          order := touch cache.order text
          stats := { cache.stats with
            lookups := cache.stats.lookups + 1, hits := cache.stats.hits + 1 } }) := by
  have present := ordered.mem_of_find? found
  simp [get, enabled, found, present, touch, ordered.nodup.erase_eq_filter text]

theorem get_fst (enabled : cache.isEnabled = true) (text : String) :
    (cache.get text).1 = cache.find? text := by
  unfold get
  rw [if_pos enabled]
  split
  next found => exact found.symm
  next absent => exact absent.symm

theorem find?_get (cache : Cache) (looked text : String) :
    (cache.get looked).2.find? text = cache.find? text :=
  congrArg (fun patterns => patterns.find? text) (patterns_get cache looked)

/-- An eviction drops as many patterns as there are too many, from the front of the order on. -/
theorem evict_eq (ordered : cache.patterns.OrderedBy order) :
    cache.evict order =
      { cache with
        patterns := cache.patterns.eraseAll (order.take (order.length - cache.config.maxSize))
        order := order.drop (order.length - cache.config.maxSize)
        stats := { cache.stats with
          evictions := cache.stats.evictions + (order.length - cache.config.maxSize) } } := by
  induction order generalizing cache with
  | nil => simp [evict, PatternMap.eraseAll]
  | cons oldest later inductionHypothesis =>
      have length := ordered.size_eq
      rw [List.length_cons] at length ⊢
      unfold evict size
      split
      next tooMany =>
        have surplus : later.length + 1 - cache.config.maxSize =
            later.length - cache.config.maxSize + 1 := by
          omega
        rw [inductionHypothesis (ordered.drop 1), surplus]
        simp [PatternMap.eraseAll, Nat.add_comm, Nat.add_left_comm]
      next enough =>
        have noSurplus : later.length + 1 - cache.config.maxSize = 0 := by omega
        rw [noSurplus]
        rfl

/-- The number of patterns that an insertion drops. -/
def surplusAfter (cache : Cache) (text : String) : Nat :=
  (touch cache.order text).length - cache.config.maxSize

theorem insert_eq (enabled : cache.isEnabled = true)
    (ordered : cache.patterns.OrderedBy cache.order) (pattern : Pattern) :
    cache.insert pattern =
      { cache with
        patterns := (cache.patterns.insert pattern).eraseAll
          ((touch cache.order pattern.text).take (cache.surplusAfter pattern.text))
        order := (touch cache.order pattern.text).drop (cache.surplusAfter pattern.text)
        stats := { cache.stats with
          insertions := cache.stats.insertions +
            (if cache.patterns.contains pattern.text then 0 else 1)
          evictions := cache.stats.evictions + cache.surplusAfter pattern.text } } := by
  have others : (if cache.patterns.contains pattern.text then cache.order.filter (· != pattern.text)
      else cache.order) = cache.order.filter (· != pattern.text) := by
    split
    next => rfl
    next unknown =>
      have absent : pattern.text ∉ cache.order := by
        rwa [ordered.mem_iff, ← PatternMap.contains_eq_isSome]
      exact (filter_ne_of_not_mem absent).symm
  unfold insert
  rw [if_pos enabled]
  simp only [others]
  rw [← touch, evict_eq (ordered.insert pattern)]
  rfl

/-! ### Empty caches -/

/-- No pattern is kept. -/
structure Empty (cache : Cache) : Prop where
  find? : ∀ text, cache.find? text = none
  order : cache.order = []

theorem empty_ofConfig (config : CacheConfig) : (ofConfig config).Empty :=
  ⟨PatternMap.find?_empty, rfl⟩

theorem empty_clear (cache : Cache) : cache.clear.Empty := ⟨PatternMap.find?_empty, rfl⟩

/-! ### The invariant -/

/-- The patterns are kept in order and within the bound, and a cache that is switched off does
nothing. -/
structure WellKept (cache : Cache) : Prop where
  ordered : cache.patterns.OrderedBy cache.order
  bounded : cache.order.length ≤ cache.config.maxSize
  unused : cache.isEnabled = false → cache.order = [] ∧ cache.stats = {}

theorem wellKept_ofConfig (config : CacheConfig) : (ofConfig config).WellKept where
  ordered := PatternMap.orderedBy_empty
  bounded := Nat.zero_le _
  unused _ := ⟨rfl, rfl⟩

theorem isEnabled_iff :
    cache.isEnabled = true ↔ cache.config.enabled = true ∧ 0 < cache.config.maxSize := by
  simp [isEnabled]

namespace WellKept

/-- An insertion drops one pattern at the most. -/
theorem surplusAfter_le_one (kept : cache.WellKept) (text : String) :
    cache.surplusAfter text ≤ 1 := by
  have bounded := kept.bounded
  unfold surplusAfter
  rw [length_touch kept.ordered.nodup]
  split <;> omega

/-- What a cache that is switched on has done is not constrained. -/
theorem of_enabled (enabled : cache.isEnabled = true)
    (ordered : cache.patterns.OrderedBy cache.order)
    (bounded : cache.order.length ≤ cache.config.maxSize) : cache.WellKept where
  ordered := ordered
  bounded := bounded
  unused disabled := by simp [enabled] at disabled

theorem get (kept : cache.WellKept) (text : String) : (cache.get text).2.WellKept := by
  cases enabled : cache.isEnabled with
  | false =>
      rw [get_of_disabled enabled]
      exact kept
  | true =>
      cases found : cache.find? text with
      | none =>
          rw [get_of_absent enabled found]
          exact of_enabled enabled kept.ordered kept.bounded
      | some pattern =>
          have present := kept.ordered.mem_of_find? found
          rw [get_of_found enabled kept.ordered found]
          refine of_enabled enabled (kept.ordered.touch present) ?_
          rw [length_touch kept.ordered.nodup, if_pos present]
          exact kept.bounded

/-- A cache that is switched off finds nothing, but it holds nothing either. -/
theorem get_fst (kept : cache.WellKept) (text : String) :
    (cache.get text).1 = cache.find? text := by
  cases enabled : cache.isEnabled with
  | true => exact Cache.get_fst enabled text
  | false =>
      have unused : ¬ (cache.find? text).isSome = true := by
        rw [find?, ← kept.ordered.mem_iff, (kept.unused enabled).1]
        exact List.not_mem_nil
      rw [get_of_disabled enabled]
      exact (Option.not_isSome_iff_eq_none.mp unused).symm

theorem insert (kept : cache.WellKept) (pattern : Pattern) : (cache.insert pattern).WellKept := by
  cases enabled : cache.isEnabled with
  | false =>
      rw [insert_of_disabled enabled]
      exact kept
  | true =>
      have within : ((touch cache.order pattern.text).drop
          (cache.surplusAfter pattern.text)).length ≤ cache.config.maxSize := by
        rw [List.length_drop, surplusAfter]
        omega
      rw [insert_eq enabled kept.ordered]
      exact of_enabled enabled ((kept.ordered.insert pattern).drop _) within

/-- Whatever was kept, nothing is kept once the cache is emptied. -/
theorem empty_invalidate (kept : cache.WellKept) : cache.invalidate.Empty := by
  unfold Cache.invalidate
  split
  next noPattern =>
    have noUse : cache.order = [] := by
      rw [← List.length_eq_zero_iff, ← kept.ordered.size_eq]
      exact noPattern
    refine ⟨fun text => ?_, noUse⟩
    have unused : ¬ (cache.find? text).isSome = true := by
      rw [find?, ← kept.ordered.mem_iff, noUse]
      exact List.not_mem_nil
    simpa using unused
  next => exact ⟨PatternMap.find?_empty, rfl⟩

theorem invalidate (kept : cache.WellKept) : cache.invalidate.WellKept := by
  unfold Cache.invalidate
  split
  next => exact kept
  next notEmpty =>
    refine ⟨PatternMap.orderedBy_empty, Nat.zero_le _, fun disabled => absurd ?_ notEmpty⟩
    rw [size, kept.ordered.size_eq, (kept.unused disabled).1]
    rfl

/-- What every operation preserves. -/
theorem apply (kept : cache.WellKept) (op : Op) : (cache.apply op).WellKept := by
  cases op with
  | get text => exact kept.get text
  | insert pattern => exact kept.insert pattern
  | invalidate => exact kept.invalidate
  | clear => exact ⟨PatternMap.orderedBy_empty, Nat.zero_le _, fun _ => ⟨rfl, rfl⟩⟩

/-- What every run preserves. -/
theorem run (kept : cache.WellKept) (ops : List Op) : (cache.run ops).WellKept := by
  induction ops generalizing cache with
  | nil => exact kept
  | cons op rest inductionHypothesis => exact inductionHypothesis (kept.apply op)

end WellKept

/-- No operation changes the settings. -/
theorem config_evict (cache : Cache) (order : List String) :
    (cache.evict order).config = cache.config := by
  induction order generalizing cache with
  | nil => rfl
  | cons oldest later inductionHypothesis =>
      unfold evict
      split
      next => exact inductionHypothesis _
      next => rfl

theorem config_apply (cache : Cache) (op : Op) : (cache.apply op).config = cache.config := by
  cases op with
  | get text =>
      change (cache.get text).2.config = cache.config
      unfold get
      repeat' split
      all_goals rfl
  | insert pattern =>
      change (cache.insert pattern).config = cache.config
      unfold insert
      split
      next => exact config_evict _ _
      next => rfl
  | invalidate =>
      change cache.invalidate.config = cache.config
      unfold invalidate
      split <;> rfl
  | clear => rfl

theorem isEnabled_apply (cache : Cache) (op : Op) :
    (cache.apply op).isEnabled = cache.isEnabled := by
  rw [isEnabled, config_apply, isEnabled]

theorem config_run (cache : Cache) (ops : List Op) : (cache.run ops).config = cache.config := by
  induction ops generalizing cache with
  | nil => rfl
  | cons op rest inductionHypothesis => exact (inductionHypothesis _).trans (config_apply cache op)

/-! ### What an operation adds to the account -/

/-- A look-up is counted, and it is a hit or a miss. -/
theorem stats_get (enabled : cache.isEnabled = true) (text : String) :
    (cache.get text).2.stats =
      { cache.stats with
        lookups := cache.stats.lookups + 1
        hits := cache.stats.hits + (if (cache.get text).1.isSome then 1 else 0)
        misses := cache.stats.misses + (if (cache.get text).1.isSome then 0 else 1) } := by
  unfold get
  rw [if_pos enabled]
  split <;> rfl

theorem insertions_get (cache : Cache) (text : String) :
    (cache.get text).2.stats.insertions = cache.stats.insertions := by
  unfold get
  repeat' split
  all_goals rfl

theorem stats_insert (kept : cache.WellKept) (enabled : cache.isEnabled = true)
    (pattern : Pattern) :
    (cache.insert pattern).stats =
      { cache.stats with
        insertions := cache.stats.insertions +
          (if (cache.find? pattern.text).isSome then 0 else 1)
        evictions := cache.stats.evictions + cache.surplusAfter pattern.text } := by
  rw [insert_eq enabled kept.ordered, PatternMap.contains_eq_isSome]
  rfl

theorem stats_invalidate (cache : Cache) :
    cache.invalidate.stats =
      { cache.stats with
        invalidations := cache.stats.invalidations + (if cache.size = 0 then 0 else 1) } := by
  unfold invalidate
  split <;> rfl

/-! ### What is kept after an insertion -/

theorem find?_insert (enabled : cache.isEnabled = true)
    (ordered : cache.patterns.OrderedBy cache.order) (pattern : Pattern) (text : String) :
    (cache.insert pattern).find? text =
      if text ∈ (touch cache.order pattern.text).take (cache.surplusAfter pattern.text) then none
      else if pattern.text = text then some pattern else cache.find? text := by
  rw [insert_eq enabled ordered, find?, PatternMap.find?_eraseAll, PatternMap.find?_insert]
  rfl

/-- What is kept by an insertion is the pattern itself or was there before. -/
theorem find?_insert_of_isSome (enabled : cache.isEnabled = true)
    (ordered : cache.patterns.OrderedBy cache.order)
    (kept : ((cache.insert pattern).find? text).isSome = true) :
    (cache.insert pattern).find? text =
      if pattern.text = text then some pattern else cache.find? text := by
  rw [find?_insert enabled ordered] at kept ⊢
  split
  next dropped => simp [dropped] at kept
  next => rfl

/-- What was used last is not dropped. -/
theorem not_mem_take_surplus (enabled : cache.isEnabled = true) (text : String) :
    text ∉ (touch cache.order text).take (cache.surplusAfter text) := by
  have positive := (isEnabled_iff.mp enabled).2
  have within : cache.surplusAfter text ≤ (cache.order.filter (· != text)).length := by
    rw [surplusAfter, touch, List.length_append, List.length_singleton]
    omega
  rw [touch, List.take_append_of_le_length within]
  intro taken
  simpa using List.mem_of_mem_take taken

/-- An insertion keeps the pattern itself, and all that was kept before but for one pattern at the
most. -/
theorem WellKept.exists_evicted (kept : cache.WellKept) (enabled : cache.isEnabled = true)
    (pattern : Pattern) :
    ∃ evicted : Option String, evicted ≠ some pattern.text ∧
      (∀ text, evicted = some text → (cache.find? text).isSome = true) ∧
      (cache.insert pattern).stats.evictions = cache.stats.evictions + evicted.toList.length ∧
      ∀ text, (cache.insert pattern).find? text =
        if evicted = some text then none
        else if pattern.text = text then some pattern else cache.find? text := by
  have notItself := not_mem_take_surplus enabled pattern.text
  have count : (cache.insert pattern).stats.evictions =
      cache.stats.evictions + cache.surplusAfter pattern.text := by
    rw [insert_eq enabled kept.ordered]
  have contents := find?_insert enabled kept.ordered pattern
  rcases Nat.le_one_iff_eq_zero_or_eq_one.mp (kept.surplusAfter_le_one pattern.text) with
    nothing | one
  · refine ⟨none, by simp, by simp, count.trans (by rw [nothing]; rfl), fun text => ?_⟩
    simpa [nothing] using contents text
  · -- The order is not empty, since it names the pattern that is inserted.
    obtain ⟨oldest, later, uses⟩ :
        ∃ oldest later, touch cache.order pattern.text = oldest :: later :=
      List.exists_cons_of_ne_nil (by simp [touch])
    rw [one, uses, List.take_succ_cons, List.take_zero, List.mem_singleton] at notItself
    refine ⟨some oldest, by simpa using Ne.symm notItself, ?_, count.trans (by rw [one]; rfl),
      fun text => ?_⟩
    · rintro text same
      obtain rfl := Option.some.inj same
      have named : oldest ∈ touch cache.order pattern.text := uses ▸ List.mem_cons_self
      exact (kept.ordered.mem_iff oldest).mp
        ((mem_touch.mp named).resolve_right (Ne.symm notItself))
    · rw [contents, one, uses]
      simp [eq_comm]

/-- After any operations the order of the uses names exactly the patterns that are kept, each once;
every pattern is kept under its own text; there are no more than the settings allow; an insertion
drops one at the most, and not the one that it inserts; a cache that is switched off holds nothing
and counts nothing. -/
theorem run_ordered_bounded (config : CacheConfig) (ops : List Op) :
    let cache := run (ofConfig config) ops
    (cache.order.Nodup ∧ ∀ text, text ∈ cache.order ↔ (cache.find? text).isSome = true) ∧
      (∀ text pattern, cache.find? text = some pattern → pattern.text = text) ∧
      cache.size ≤ config.maxSize ∧
      (config.enabled = true → 0 < config.maxSize → ∀ pattern, ∃ evicted : Option String,
        evicted ≠ some pattern.text ∧
        (∀ text, evicted = some text → (cache.find? text).isSome = true) ∧
        (cache.insert pattern).stats.evictions = cache.stats.evictions + evicted.toList.length ∧
        ∀ text, (cache.insert pattern).find? text =
          if evicted = some text then none
          else if pattern.text = text then some pattern else cache.find? text) ∧
      (config.enabled = false ∨ config.maxSize = 0 →
        cache.size = 0 ∧ cache.order = [] ∧ cache.stats = {}) := by
  intro cache
  have kept : cache.WellKept := (wellKept_ofConfig config).run ops
  have sameConfig : cache.config = config := config_run (ofConfig config) ops
  refine ⟨⟨kept.ordered.nodup, kept.ordered.mem_iff⟩, fun text pattern =>
    PatternMap.text_of_find?, ?_, fun enabled positive => ?_, fun off => ?_⟩
  · rw [size, kept.ordered.size_eq, ← sameConfig]
    exact kept.bounded
  · exact kept.exists_evicted (isEnabled_iff.mpr (sameConfig ▸ ⟨enabled, positive⟩))
  · have disabled : cache.isEnabled = false := by
      rcases off with off | off <;> simp [isEnabled, sameConfig, off]
    obtain ⟨noUses, noStats⟩ := kept.unused disabled
    refine ⟨?_, noUses, noStats⟩
    rw [size, kept.ordered.size_eq, noUses]
    rfl

/-- A cache for one pattern keeps the one that is inserted, and not the one before it. -/
theorem run_ordered_bounded_single :
    let cache := run (ofConfig { maxSize := 1 }) [.insert (.never "a" [])]
    (cache.insert (.never "b" [])).find? "b" = some (.never "b" []) ∧
      (cache.insert (.never "b" [])).size ≤ 1 := by
  intro cache
  obtain ⟨evicted, notItself, _, _, contents⟩ :=
    (run_ordered_bounded { maxSize := 1 } [.insert (.never "a" [])]).2.2.2.1 rfl (by decide)
      (.never "b" [])
  refine ⟨(contents "b").trans ?_, ?_⟩
  · exact (if_neg notItself).trans (if_pos rfl)
  · exact (run_ordered_bounded { maxSize := 1 }
      [.insert (.never "a" []), .insert (.never "b" [])]).2.2.1

end Cache

end Stencil
