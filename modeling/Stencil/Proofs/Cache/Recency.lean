import Mathlib.Data.Finset.Card
import Mathlib.Data.List.DropRight
import Stencil.Proofs.Cache.Order

/-!
The history of the uses of a cache.

Owns:
- `History`, which notes what was touched and what was inserted since a cache was emptied last;
- `orderOf`, the order of the uses in a history, as a cache without a bound would keep it;
- `Cache.Reflects`, the invariant that ties a cache to its history: of that order the cache keeps
  the end, as far as its bound allows.

The main statement is `get_run_eq_some_iff`: whether a look-up finds a pattern, and which one, can
be read off the history alone.
-/

namespace Stencil

/-! ### Histories -/

/-- What happened to a cache since it was emptied last: the texts that were touched and the patterns
that were inserted, the latest first. -/
structure History where
  touched : List String := []
  inserted : List Pattern := []

namespace History

/-- The pattern that was inserted last under a text. -/
def inserted? (history : History) (text : String) : Option Pattern :=
  history.inserted.find? fun pattern => pattern.text == text

/-- The texts touched after the last touch of a text; all of them, if it was not touched. -/
def since (history : History) (text : String) : List String :=
  history.touched.takeWhile (· != text)

/-- The history after an operation. An insertion touches the text of its pattern. A look-up touches
the text that it looks up if it finds a pattern, and nothing otherwise. -/
def after (history : History) (cache : Cache) : Cache.Op → History
  | .get text =>
    if (cache.get text).1.isSome then { history with touched := text :: history.touched }
    else history
  | .insert pattern =>
    { touched := pattern.text :: history.touched, inserted := pattern :: history.inserted }
  | .invalidate => {}
  | .clear => {}

/-- The history after several operations, the first of them on the given cache. -/
def afterAll (history : History) (cache : Cache) : List Cache.Op → History
  | [] => history
  | op :: rest => (history.after cache op).afterAll (cache.apply op) rest

end History

/-! ### The order of the uses -/

/-- The order of the uses, of which the latest are given first. -/
def orderOf (touched : List String) : List String :=
  touched.foldr (fun text order => touch order text) []

section OrderOf

variable {order touched : List String} {text : String}

theorem orderOf_cons (text : String) (touched : List String) :
    orderOf (text :: touched) = touch (orderOf touched) text :=
  rfl

theorem nodup_orderOf (touched : List String) : (orderOf touched).Nodup := by
  induction touched with
  | nil => exact .nil
  | cons text rest inductionHypothesis => exact nodup_touch inductionHypothesis

/-- After a text the order names what was touched since. -/
theorem exists_orderOf_eq (present : text ∈ touched) :
    ∃ before behind, orderOf touched = before ++ text :: behind ∧
      ∀ other, other ∈ behind ↔ other ∈ touched.takeWhile (· != text) := by
  induction touched with
  | nil => simp at present
  | cons first rest inductionHypothesis =>
      rw [orderOf_cons, List.takeWhile_cons]
      by_cases same : first = text
      · exact ⟨(orderOf rest).filter (· != first), [], by rw [touch, same], by simp [same]⟩
      · obtain ⟨before, behind, whole, mem⟩ :=
          inductionHypothesis ((List.mem_cons.mp present).resolve_left (Ne.symm same))
        refine ⟨before.filter (· != first), touch behind first, ?_, fun other => ?_⟩
        · simp [whole, touch, Ne.symm same]
        · rw [mem_touch, mem]
          simp [same, or_comm]

/-- An order names a text among its last uses exactly if few enough others were touched since. -/
theorem mem_rtake_orderOf (present : text ∈ touched) (count : Nat) :
    text ∈ (orderOf touched).rtake count ↔
      (touched.takeWhile (· != text)).toFinset.card < count := by
  obtain ⟨before, behind, whole, mem⟩ := exists_orderOf_eq present
  have nodup := nodup_orderOf touched
  rw [whole] at nodup
  obtain ⟨_, nodupBehind, disjoint⟩ := List.nodup_append'.mp nodup
  have notBefore : text ∉ before := fun early => disjoint early List.mem_cons_self
  have sameTexts : (touched.takeWhile (· != text)).toFinset = behind.toFinset := by
    ext other
    rw [List.mem_toFinset, List.mem_toFinset, mem]
  rw [sameTexts, List.toFinset_card_of_nodup (List.nodup_cons.mp nodupBehind).2, List.rtake, whole]
  rw [List.drop_append, List.mem_append, List.length_append, List.length_cons,
    or_iff_right fun early => notBefore (List.mem_of_mem_drop early)]
  by_cases few : behind.length < count
  · have whole : before.length + (behind.length + 1) - count - before.length = 0 := by omega
    rw [whole]
    exact iff_of_true List.mem_cons_self few
  · obtain ⟨more, beyond⟩ : ∃ more,
        before.length + (behind.length + 1) - count - before.length = more + 1 :=
      ⟨behind.length - count, by omega⟩
    rw [beyond, List.drop_succ_cons]
    exact iff_of_false
      (fun late => (List.nodup_cons.mp nodupBehind).1 (List.mem_of_mem_drop late)) few

private theorem rtake_append_of_le {front back : List String} {count : Nat}
    (enough : count ≤ back.length) : (front ++ back).rtake count = back.rtake count := by
  have beyond : front.length ≤ front.length + back.length - count := by omega
  rw [List.rtake, List.length_append, List.drop_append, List.drop_eq_nil_of_le beyond,
    List.nil_append, List.rtake]
  congr 1
  omega

/-- The last uses after one more use are found without what was used before the last uses. -/
theorem rtake_touch_rtake (nodup : order.Nodup) (count : Nat) (text : String) :
    (touch (order.rtake count) text).rtake count = (touch order text).rtake count := by
  by_cases short : order.length ≤ count
  · have nothing : order.length - count = 0 := by omega
    rw [show order.rtake count = order by rw [List.rtake, nothing, List.drop_zero]]
  · have nodupLast : (order.rtake count).Nodup := nodup.sublist (List.drop_sublist _ _)
    have lastLength : (order.rtake count).length = count := by
      rw [List.rtake, List.length_drop]
      omega
    have enough : count ≤ (touch (order.rtake count) text).length := by
      rw [length_touch nodupLast, lastLength]
      split <;> omega
    have whole : touch order text =
        (order.take (order.length - count)).filter (· != text) ++
          touch (order.rtake count) text := by
      conv_lhs => rw [← List.take_append_drop (order.length - count) order]
      rw [touch, List.filter_append, List.append_assoc]
      rfl
    rw [whole, rtake_append_of_le enough]

end OrderOf

namespace Cache

/-! ### The invariant -/

variable {cache : Cache} {history : History} {text : String}

/-- The cache keeps the patterns that were used last, each as it was inserted last. -/
structure Reflects (cache : Cache) (history : History) : Prop where
  order : cache.order = (orderOf history.touched).rtake cache.config.maxSize
  inserted : ∀ text pattern, cache.find? text = some pattern →
    history.inserted? text = some pattern
  touched : ∀ text pattern, history.inserted? text = some pattern → text ∈ history.touched

theorem Empty.reflects (empty : cache.Empty) : cache.Reflects {} where
  order := by rw [empty.order, orderOf, List.foldr_nil, List.rtake_nil]
  inserted := by simp [empty.find?]
  touched := by simp [History.inserted?]

namespace Reflects

theorem get (reflects : cache.Reflects history) (kept : cache.WellKept)
    (enabled : cache.isEnabled = true) (text : String) :
    (cache.get text).2.Reflects (history.after cache (.get text)) := by
  cases found : cache.find? text with
  | none =>
      simp only [History.after, get_of_absent enabled found, Option.isSome_none]
      exact ⟨reflects.order, reflects.inserted, reflects.touched⟩
  | some pattern =>
      simp only [History.after, get_of_found enabled kept.ordered found, Option.isSome_some,
        if_true]
      refine ⟨?_, reflects.inserted, fun other pattern inserted =>
        List.mem_cons_of_mem _ (reflects.touched other pattern inserted)⟩
      have present := kept.ordered.mem_of_find? found
      -- The order is no longer than before, so the bound has no say in it.
      have within :
          (touch cache.order text).rtake cache.config.maxSize = touch cache.order text := by
        rw [List.rtake, length_touch kept.ordered.nodup, if_pos present,
          Nat.sub_eq_zero_of_le kept.bounded, List.drop_zero]
      change touch cache.order text = _
      rw [orderOf_cons, ← rtake_touch_rtake (nodup_orderOf _), ← reflects.order]
      exact within.symm

theorem insert (reflects : cache.Reflects history) (kept : cache.WellKept)
    (enabled : cache.isEnabled = true) (pattern : Pattern) :
    (cache.insert pattern).Reflects (history.after cache (.insert pattern)) where
  order := by
    rw [insert_eq enabled kept.ordered]
    change (touch cache.order pattern.text).rtake cache.config.maxSize = _
    rw [History.after, orderOf_cons, ← rtake_touch_rtake (nodup_orderOf _), ← reflects.order]
  inserted := by
    intro text found held
    rw [find?_insert enabled kept.ordered] at held
    split at held
    next => simp at held
    next =>
      split at held
      next same => simpa [History.after, History.inserted?, same] using held
      next other =>
        simpa [History.after, History.inserted?, other] using reflects.inserted text found held
  touched := by
    intro text found inserted
    by_cases same : pattern.text = text
    · exact same ▸ List.mem_cons_self
    · have before : history.inserted? text = some found := by
        simpa [History.after, History.inserted?, same] using inserted
      exact List.mem_cons_of_mem _ (reflects.touched text found before)

/-- What every operation preserves. -/
theorem apply (reflects : cache.Reflects history) (kept : cache.WellKept)
    (enabled : cache.isEnabled = true) (op : Op) :
    (cache.apply op).Reflects (history.after cache op) := by
  cases op with
  | get text => exact reflects.get kept enabled text
  | insert pattern => exact reflects.insert kept enabled pattern
  | invalidate => exact kept.empty_invalidate.reflects
  | clear => exact (empty_clear cache).reflects

/-- What every run preserves. -/
theorem run (reflects : cache.Reflects history) (kept : cache.WellKept)
    (enabled : cache.isEnabled = true) (ops : List Op) :
    (cache.run ops).Reflects (history.afterAll cache ops) := by
  induction ops generalizing cache history with
  | nil => exact reflects
  | cons op rest inductionHypothesis =>
      have stillEnabled := (isEnabled_apply cache op).trans enabled
      exact inductionHypothesis (reflects.apply kept enabled op) (kept.apply op) stillEnabled

/-- The patterns that are kept are those whose texts were touched lately enough. -/
theorem find?_eq_some_iff (reflects : cache.Reflects history) (kept : cache.WellKept)
    (text : String) (pattern : Pattern) :
    cache.find? text = some pattern ↔
      history.inserted? text = some pattern ∧
        (history.since text).toFinset.card < cache.config.maxSize := by
  constructor
  · intro found
    have inserted := reflects.inserted text pattern found
    refine ⟨inserted, ?_⟩
    rw [History.since, ← mem_rtake_orderOf (reflects.touched text pattern inserted),
      ← reflects.order]
    exact kept.ordered.mem_of_find? found
  · rintro ⟨inserted, few⟩
    rw [History.since, ← mem_rtake_orderOf (reflects.touched text pattern inserted),
      ← reflects.order, kept.ordered.mem_iff] at few
    obtain ⟨held, found⟩ := Option.isSome_iff_exists.mp few
    have same := (reflects.inserted text held found).symm.trans inserted
    exact found.trans same

end Reflects

/-- A look-up finds a pattern exactly if the text was inserted since the cache was emptied last and
fewer other texts than the cache may keep were touched since the text itself was; it finds the
pattern that was inserted last. A look-up that finds nothing leaves the patterns and their order as
they are. -/
theorem get_run_eq_some_iff {config : CacheConfig} (enabled : config.enabled = true)
    (positive : 1 ≤ config.maxSize) (ops : List Op) (text : String) :
    let cache := run (ofConfig config) ops
    let history := History.afterAll {} (ofConfig config) ops
    (∀ pattern, (cache.get text).1 = some pattern ↔
      history.inserted? text = some pattern ∧
        (history.since text).toFinset.card < config.maxSize) ∧
      ((cache.get text).1 = none → (cache.get text).2.patterns = cache.patterns ∧
        (cache.get text).2.order = cache.order) := by
  intro cache history
  have isEnabled : (ofConfig config).isEnabled = true := isEnabled_iff.mpr ⟨enabled, positive⟩
  have wellKept := wellKept_ofConfig config
  have kept : cache.WellKept := wellKept.run ops
  have reflects : cache.Reflects history :=
    (empty_ofConfig config).reflects.run wellKept isEnabled ops
  have sameConfig : cache.config = config := config_run (ofConfig config) ops
  have stillEnabled : cache.isEnabled = true := by
    rwa [Cache.isEnabled, sameConfig]
  refine ⟨fun pattern => ?_, fun misses => ?_⟩
  · rw [get_fst stillEnabled, reflects.find?_eq_some_iff kept, sameConfig]
  · rw [get_fst stillEnabled] at misses
    rw [get_of_absent stillEnabled misses]
    exact ⟨rfl, rfl⟩

/-- A cache for two patterns: the look-up of the first keeps it when a third is inserted, and the
second is dropped. -/
theorem get_run_eq_some_iff_third :
    let config : CacheConfig := { enabled := true, maxSize := 2 }
    let ops : List Op := [.insert (.never "a" []), .insert (.never "b" []), .get "a",
      .insert (.never "c" [])]
    config.enabled = true ∧ 1 ≤ config.maxSize ∧
      ((run (ofConfig config) ops).get "a").1 = some (.never "a" []) ∧
      ∀ pattern, ((run (ofConfig config) ops).get "b").1 ≠ some pattern := by
  intro config ops
  have found := fun text =>
    (@get_run_eq_some_iff config rfl (by decide) ops text).1
  refine ⟨rfl, by decide, (found "a" _).mpr ⟨rfl, by decide +kernel⟩, fun pattern held => ?_⟩
  exact absurd ((found "b" pattern).mp held).2 (by decide +kernel)

end Cache

end Stencil
