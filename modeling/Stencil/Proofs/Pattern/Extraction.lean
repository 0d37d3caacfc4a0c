import Mathlib.Data.List.Induction
import Mathlib.Data.List.Nodup
import Stencil.Pattern

/-!
The values of a match under their keys.

Owns `HoldsLast`, which says which values a map holds that was filled from keys and values side by
side, and `lastEntries`, the entries that are left in it. The main statements are
`holdsLast_paramsOf`, that the values of a match are the captures of its groups, as far as there are
groups and keys, and of equal keys the last one counts; and `toList_paramsOf_perm`, that no other
entry is lost.
-/

namespace Stencil

/-- The map holds the values under the keys beside them, and of equal keys the last value. -/
structure HoldsLast (params : Params) (keys values : List String) : Prop where
  mem_iff : ∀ key, key ∈ params ↔ ∃ index < values.length, keys[index]? = some key
  getElem?_iff : ∀ key value, params[key]? = some value ↔
    ∃ index : Nat, keys[index]? = some key ∧ values[index]? = some value ∧
      ∀ later : Nat, index < later → later < values.length → keys[later]? ≠ some key

/-- The keys beyond the values are of no account. -/
theorem HoldsLast.mem_iff_mem_take {params : Params} {keys values : List String}
    (holds : HoldsLast params keys values) (key : String) :
    key ∈ params ↔ key ∈ keys.take values.length := by
  rw [holds.mem_iff, List.mem_iff_getElem?]
  simp only [List.getElem?_take, Option.ite_none_right_eq_some]

/-- The entries whose key does not come again later. -/
def lastEntries : List (String × String) → List (String × String)
  | [] => []
  | entry :: rest =>
    if entry.1 ∈ rest.map Prod.fst then lastEntries rest else entry :: lastEntries rest

namespace Pattern

private theorem mem_foldl_insert (entries : List (String × String)) (params : Params) (key : String) :
    key ∈ entries.foldl (fun params entry => params.insert entry.1 entry.2) params ↔
      key ∈ params ∨ key ∈ entries.map Prod.fst := by
  induction entries generalizing params with
  | nil => simp
  | cons entry rest inductionHypothesis =>
      simp only [List.foldl_cons, inductionHypothesis, Std.ExtTreeMap.mem_insert,
        Std.LawfulEqCmp.compare_eq_iff_eq, List.map_cons, List.mem_cons]
      constructor
      · rintro ((same | member) | member)
        · exact .inr (.inl same.symm)
        · exact .inl member
        · exact .inr (.inr member)
      · rintro (member | same | member)
        · exact .inl (.inr member)
        · exact .inl (.inl same.symm)
        · exact .inr member

private theorem getElem?_foldl_insert (entries : List (String × String)) (key value : String) :
    (entries.foldl (fun params entry => params.insert entry.1 entry.2) (∅ : Params))[key]? =
        some value ↔
      ∃ index : Nat, entries[index]? = some (key, value) ∧
        ∀ later : Nat, index < later → ∀ other, entries[later]? ≠ some (key, other) := by
  induction entries using List.reverseRecOn with
  | nil => simp
  | append_singleton entries entry inductionHypothesis =>
      obtain ⟨lastKey, lastValue⟩ := entry
      have atLast : (entries ++ [(lastKey, lastValue)])[entries.length]? =
          some (lastKey, lastValue) := by simp
      have beyond : ∀ index, entries.length < index →
          (entries ++ [(lastKey, lastValue)])[index]? = none := by
        intro index past
        simpa using Nat.succ_le_of_lt past
      have within : ∀ index, index < entries.length →
          (entries ++ [(lastKey, lastValue)])[index]? = entries[index]? :=
        fun index before => List.getElem?_append_left before
      rw [List.foldl_append, List.foldl_cons, List.foldl_nil, Std.ExtTreeMap.getElem?_insert]
      simp only [Std.LawfulEqCmp.compare_eq_iff_eq]
      by_cases same : lastKey = key
      · rw [if_pos same, Option.some_inj]
        subst same
        constructor
        · rintro rfl
          exact ⟨entries.length, atLast, fun later past other => by simp [beyond later past]⟩
        · rintro ⟨index, found, last⟩
          rcases Nat.lt_trichotomy index entries.length with before | rfl | past
          · exact absurd atLast (last _ before lastValue)
          · rw [atLast] at found
            exact congrArg Prod.snd (Option.some.inj found)
          · simp [beyond index past] at found
      · rw [if_neg same, inductionHypothesis]
        have differs : ∀ other : String, some (lastKey, lastValue) ≠ some (key, other) := by
          intro other equal
          exact same (congrArg Prod.fst (Option.some.inj equal))
        constructor
        · rintro ⟨index, found, last⟩
          have before : index < entries.length := (List.getElem?_eq_some_iff.mp found).1
          refine ⟨index, (within index before).trans found, fun later after other => ?_⟩
          rcases Nat.lt_trichotomy later entries.length with inside | rfl | past
          · rw [within later inside]
            exact last later after other
          · rw [atLast]
            exact differs other
          · simp [beyond later past]
        · rintro ⟨index, found, last⟩
          rcases Nat.lt_trichotomy index entries.length with before | rfl | past
          · refine ⟨index, (within index before).symm.trans found, fun later after other => ?_⟩
            by_cases inside : later < entries.length
            · rw [← within later inside]
              exact last later after other
            · simp [List.getElem?_eq_none (Nat.le_of_not_lt inside)]
          · exact absurd (atLast.symm.trans found) (differs value)
          · simp [beyond index past] at found

/-- The values of a match are its captures, beside the keys. -/
theorem holdsLast_paramsOf (captures : List (Option String)) (keys : List String) :
    HoldsLast (paramsOf captures keys) keys
      (captures.map fun capture => capture.getD "") where
  mem_iff key := by
    simp only [paramsOf, mem_foldl_insert, Std.ExtTreeMap.not_mem_empty, false_or]
    constructor
    · intro member
      obtain ⟨⟨_, value⟩, memberEntry, rfl⟩ := List.mem_map.mp member
      obtain ⟨index, found⟩ := List.mem_iff_getElem?.mp memberEntry
      obtain ⟨keyFound, valueFound⟩ := List.getElem?_zip_eq_some.mp found
      exact ⟨index, (List.getElem?_eq_some_iff.mp valueFound).1, keyFound⟩
    · rintro ⟨index, inside, found⟩
      exact List.mem_map.mpr ⟨(key, _), List.mem_of_getElem? (List.getElem?_zip_eq_some.mpr
        ⟨found, List.getElem?_eq_getElem inside⟩), rfl⟩
  getElem?_iff key value := by
    rw [paramsOf, getElem?_foldl_insert]
    simp only [List.getElem?_zip_eq_some]
    constructor
    · rintro ⟨index, ⟨keyFound, valueFound⟩, last⟩
      refine ⟨index, keyFound, valueFound, fun later after inside found => ?_⟩
      exact last later after _ (List.getElem?_zip_eq_some.mpr
        ⟨found, List.getElem?_eq_getElem inside⟩)
    · rintro ⟨index, keyFound, valueFound, last⟩
      refine ⟨index, ⟨keyFound, valueFound⟩, fun later after other found => ?_⟩
      obtain ⟨sameKey, sameValue⟩ := List.getElem?_zip_eq_some.mp found
      exact last later after (List.getElem?_eq_some_iff.mp sameValue).1 sameKey

end Pattern

/-! ### Entries -/

theorem lastEntries_sublist (entries : List (String × String)) :
    (lastEntries entries).Sublist entries := by
  induction entries with
  | nil => exact List.Sublist.slnil
  | cons entry rest inductionHypothesis =>
      rw [lastEntries]
      split
      · exact inductionHypothesis.cons entry
      · exact inductionHypothesis.cons_cons entry

theorem lastEntries_nodup (entries : List (String × String)) :
    ((lastEntries entries).map Prod.fst).Nodup := by
  induction entries with
  | nil => exact List.nodup_nil
  | cons entry rest inductionHypothesis =>
      rw [lastEntries]
      split
      next => exact inductionHypothesis
      next fresh =>
        rw [List.map_cons, List.nodup_cons]
        refine ⟨fun again => fresh ?_, inductionHypothesis⟩
        exact ((lastEntries_sublist rest).map Prod.fst).subset again

/-- No entry is lost exactly if no key comes twice. -/
theorem length_lastEntries_iff {entries : List (String × String)} :
    (lastEntries entries).length = entries.length ↔ (entries.map Prod.fst).Nodup := by
  constructor
  · intro length
    rw [← (lastEntries_sublist entries).eq_of_length length]
    exact lastEntries_nodup entries
  · intro distinct
    induction entries with
    | nil => rfl
    | cons entry rest inductionHypothesis =>
        rw [List.map_cons, List.nodup_cons] at distinct
        rw [lastEntries, if_neg distinct.1, List.length_cons, inductionHypothesis distinct.2,
          List.length_cons]

theorem mem_lastEntries {entries : List (String × String)} {key value : String} :
    (key, value) ∈ lastEntries entries ↔
      ∃ index : Nat, entries[index]? = some (key, value) ∧
        ∀ later : Nat, index < later → ∀ other, entries[later]? ≠ some (key, other) := by
  induction entries with
  | nil => simp [lastEntries]
  | cons entry rest inductionHypothesis =>
      have afterHead : ∀ index : Nat,
          (∀ later : Nat, index + 1 < later → ∀ other,
            (entry :: rest)[later]? ≠ some (key, other)) ↔
          ∀ later : Nat, index < later → ∀ other, rest[later]? ≠ some (key, other) := by
        intro index
        constructor
        · exact fun last later after => last (later + 1) (Nat.succ_lt_succ after)
        · intro last later after
          obtain ⟨later, rfl⟩ := Nat.exists_eq_succ_of_ne_zero (Nat.ne_zero_of_lt after)
          exact last later (Nat.lt_of_succ_lt_succ after)
      have atHead : (∀ later : Nat, 0 < later → ∀ other,
          (entry :: rest)[later]? ≠ some (key, other)) ↔ key ∉ rest.map Prod.fst := by
        constructor
        · rintro last again
          obtain ⟨⟨_, other⟩, member, rfl⟩ := List.mem_map.mp again
          obtain ⟨later, found⟩ := List.mem_iff_getElem?.mp member
          exact last (later + 1) (Nat.succ_pos later) other found
        · intro fresh later after other found
          obtain ⟨later, rfl⟩ := Nat.exists_eq_succ_of_ne_zero (Nat.ne_zero_of_lt after)
          have member : (key, other) ∈ rest := List.mem_of_getElem? found
          exact fresh (List.mem_map_of_mem member)
      rw [← Nat.or_exists_add_one, lastEntries]
      simp only [afterHead, atHead, List.getElem?_cons_zero, List.getElem?_cons_succ,
        Option.some_inj, ← inductionHypothesis]
      split
      next again =>
        refine ⟨.inr, ?_⟩
        rintro (⟨rfl, fresh⟩ | member)
        · exact absurd again fresh
        · exact member
      next fresh =>
        rw [List.mem_cons]
        refine or_congr_left ⟨?_, fun here => here.1.symm⟩
        rintro rfl
        exact ⟨rfl, fresh⟩

/-- The map holds the entries whose key does not come again later, and no others. -/
theorem Pattern.toList_paramsOf_perm (captures : List (Option String)) (keys : List String) :
    (paramsOf captures keys).toList.Perm
      (lastEntries (keys.zip (captures.map fun capture => capture.getD ""))) := by
  have distinct : (paramsOf captures keys).toList.Nodup := by
    refine Std.ExtTreeMap.distinct_keys_toList.imp fun differ same => differ ?_
    rw [same]
    exact Std.ReflCmp.compare_self
  rw [List.perm_ext_iff_of_nodup distinct (List.Nodup.of_map _ (lastEntries_nodup _))]
  rintro ⟨key, value⟩
  rw [Std.ExtTreeMap.mem_toList_iff_getElem?_eq_some, paramsOf, getElem?_foldl_insert,
    mem_lastEntries]

end Stencil
