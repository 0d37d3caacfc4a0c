import Mathlib.Data.Prod.Lex
import Stencil.Proofs.ByteOrder
import Stencil.Proofs.Matcher.CacheTransparency
import Stencil.Proofs.Pattern.Validation

/-!
Making a matcher with filters of one's own.

Owns:
- `Config.Accepts`, the filters that are accepted under some settings, and `Config.Faulty`, the
  names under which the settings have others;
- `Registry.tryRegisterAll_eq`, what a sequence of registrations with validation comes to;
- `withFilters`, which makes a matcher from the filters of the settings as an iteration gives them.

The main statement is `withRegistry_outcome`: what comes first of the settings that are not usable
and of the faulty filter with the least name is the outcome, and if there is neither, the filters of
the settings stand beside and in place of those of the registry. The order of an iteration over the
filters has no say in this, because they are sorted and no two have one name.
-/

namespace Stencil

open Std.ExtTreeMap (mem_toList_iff_getElem?_eq_some)

/-- The filter is accepted under the settings: its name is an identifier, and its fragment a regular
expression that reports one group. -/
def Config.Accepts [Regex.Measure] (config : Config) (name fragment : String) : Prop :=
  (Grammar.ofBound config.maxIdentifierLength).isIdentifier name = true ∧
    ∃ regex, Regex.compile fragment defaultSizeLimit = .ok regex ∧ regex.groupCount = 1

/-- The settings have a filter of this name that is not accepted under them. -/
def Config.Faulty [Regex.Measure] (config : Config) (name : String) : Prop :=
  ∃ fragment, config.filters[name]? = some fragment ∧ ¬ config.Accepts name fragment

/-- Registers filters with validation in their order, up to the first one that is refused. -/
def Registry.tryRegisterAll [Regex.Measure] (grammar : Grammar) (registry : Registry)
    (filters : List (String × String)) : Except Error Registry :=
  filters.foldlM (fun registry filter => registry.tryRegister grammar filter.1 filter.2) registry

/-- Whether a filter comes before another one, or is the same: its name has the lesser bytes, or the
names are the same and its fragment does not have the greater bytes. -/
def precedes (left right : String × String) : Bool :=
  bytes left.1 < bytes right.1 || (left.1 == right.1 && !(bytes right.2 < bytes left.2))

/-- A matcher with the filters of a registry and those of the settings, which are given in the order
of some iteration and are sorted first. -/
def Matcher.withFilters [Regex.Measure] (registry : Registry) (config : Config)
    (filters : List (String × String)) : Except Error Matcher := do
  config.validate
  let matcher := build registry config
  let registry ← registry.tryRegisterAll matcher.grammar (filters.mergeSort precedes)
  pure { matcher with registry }

/-! ### Registrations in turn -/

namespace Registry

variable {name fragment : String}

theorem get?_registerAll_of_absent {filters : List (String × String)} {registry : Registry}
    (absent : ∀ filter ∈ filters, filter.1 ≠ name) :
    (registry.registerAll filters).get? name = registry.get? name := by
  induction filters generalizing registry with
  | nil => rfl
  | cons filter rest inductionHypothesis =>
      rw [List.forall_mem_cons] at absent
      exact (inductionHypothesis absent.2).trans (get?_register_of_ne absent.1)

/-- Of filters with different names each has its fragment after all are registered. -/
theorem get?_registerAll_of_mem {filters : List (String × String)} {registry : Registry}
    (distinct : filters.Pairwise fun left right => left.1 ≠ right.1)
    (listed : (name, fragment) ∈ filters) :
    (registry.registerAll filters).get? name = some fragment := by
  induction filters generalizing registry with
  | nil => simp at listed
  | cons filter rest inductionHypothesis =>
      rw [List.pairwise_cons] at distinct
      cases List.mem_cons.mp listed with
      | inl same =>
          subst same
          have others : ∀ other ∈ rest, other.1 ≠ name :=
            fun other later => (distinct.1 other later).symm
          exact (get?_registerAll_of_absent others).trans get?_register_self
      | inr later => exact inductionHypothesis distinct.2 later

variable [Regex.Measure] {grammar : Grammar}

theorem refusal?_eq_none_iff :
    refusal? grammar name fragment = none ↔
      grammar.isIdentifier name = true ∧
        ∃ regex, Regex.compile fragment defaultSizeLimit = .ok regex ∧ regex.groupCount = 1 := by
  unfold refusal? fragmentFault?
  cases grammar.isIdentifier name with
  | false => simp
  | true =>
      cases Regex.compile fragment defaultSizeLimit with
      | error cause => simp
      | ok regex => by_cases single : regex.groupCount = 1 <;> simp [single]

/-- A filter is refused because of its name or its fragment, and for no other cause. -/
theorem refusal?_cases {error : Error} (refuses : refusal? grammar name fragment = some error) :
    error = .invalidFilterName name ∨ ∃ reason, error = .invalidFragment name reason := by
  unfold refusal? at refuses
  split at refuses
  · obtain ⟨fault, _, rfl⟩ := Option.map_eq_some_iff.mp refuses
    exact .inr ⟨_, rfl⟩
  · exact .inl (Option.some.inj refuses).symm

theorem tryRegister_eq_error_iff_refusal? {registry : Registry} {error : Error} :
    registry.tryRegister grammar name fragment = .error error ↔
      refusal? grammar name fragment = some error := by
  rw [tryRegister_eq]
  cases refusal? grammar name fragment <;> simp

/-- The first filter that is refused stops the registrations; if none is, all are made. -/
theorem tryRegisterAll_eq (grammar : Grammar) (registry : Registry)
    (filters : List (String × String)) :
    registry.tryRegisterAll grammar filters =
      match filters.findSome? fun filter => refusal? grammar filter.1 filter.2 with
      | some error => .error error
      | none => .ok (registry.registerAll filters) := by
  induction filters generalizing registry with
  | nil => rfl
  | cons filter rest inductionHypothesis =>
      unfold tryRegisterAll
      rw [List.foldlM_cons, tryRegister_eq, List.findSome?_cons]
      cases refusal? grammar filter.1 filter.2 with
      | some error => rfl
      | none => exact inductionHypothesis (registry.register filter.1 filter.2)

end Registry

/-! ### Settings -/

namespace Config

variable {config : Config}

theorem invalidConfig_of_validate {error : Error} (invalid : config.validate = .error error) :
    ∃ reason, error = .invalidConfig reason := by
  unfold validate at invalid
  split at invalid
  · exact ⟨_, (Except.error.inj invalid).symm⟩
  · simp at invalid

theorem maxIdentifierLength_of_validate {result : Unit} (valid : config.validate = .ok result) :
    0 < config.maxIdentifierLength := by
  refine Nat.pos_of_ne_zero fun zero => ?_
  simp [validate, fault?, zero] at valid

end Config

/-! ### The filters of the settings in order -/

theorem lt_of_compare {left right : String} (less : compare left right = .lt) : left < right :=
  (compareOfLessAndEq_eq_lt).mp less

theorem precedes_iff {left right : String × String} :
    precedes left right = true ↔ toLex left ≤ toLex right := by
  rw [Prod.Lex.toLex_le_toLex]
  simp only [precedes, Bool.or_eq_true, Bool.and_eq_true, Bool.not_eq_true', decide_eq_true_eq,
    decide_eq_false_iff_not, beq_iff_eq, bytes_lt_iff, not_lt]

namespace Config

variable {config : Config}

theorem ordered_filters (config : Config) :
    config.filters.toList.Pairwise fun left right => left.1 < right.1 :=
  config.filters.ordered_keys_toList.imp lt_of_compare

theorem get?_registerAll_filters (registry : Registry) (name : String) :
    (registry.registerAll config.filters.toList).get? name =
      (config.filters[name]?).or (registry.get? name) := by
  cases found : config.filters[name]? with
  | some fragment =>
      exact Registry.get?_registerAll_of_mem (config.ordered_filters.imp ne_of_lt)
        (mem_toList_iff_getElem?_eq_some.mpr found)
  | none =>
      refine Registry.get?_registerAll_of_absent ?_
      rintro ⟨other, fragment⟩ listed rfl
      rw [mem_toList_iff_getElem?_eq_some.mp listed] at found
      simp at found

/-- However an iteration gives the filters of the settings, sorted they are the same. -/
theorem mergeSort_filters {filters : List (String × String)}
    (iteration : filters.Perm config.filters.toList) :
    filters.mergeSort precedes = config.filters.toList := by
  have sorted :
      (filters.mergeSort precedes).Pairwise fun left right => precedes left right = true := by
    refine List.pairwise_mergeSort (fun _ _ _ => ?_) (fun left right => ?_) filters
    · simp only [precedes_iff]
      exact le_trans
    · rw [Bool.or_eq_true, precedes_iff, precedes_iff]
      exact le_total _ _
  have ordered : config.filters.toList.Pairwise fun left right => precedes left right = true :=
    config.ordered_filters.imp fun less =>
      precedes_iff.mpr (Prod.Lex.toLex_le_toLex.mpr (.inl less))
  -- No two filters precede one another, so a list of filters in order is told by what is in it.
  refine List.Perm.eq_of_pairwise (fun left right _ _ before after => ?_) sorted ordered
    ((List.mergeSort_perm filters precedes).trans iteration)
  exact toLex_inj.mp (le_antisymm (precedes_iff.mp before) (precedes_iff.mp after))

variable [Regex.Measure]

/-- Why the first of the filters that is refused is refused. -/
def refusal? (config : Config) : Option Error :=
  config.filters.toList.findSome? fun filter =>
    Registry.refusal? (Grammar.ofBound config.maxIdentifierLength) filter.1 filter.2

theorem refusal?_eq_none_iff : config.refusal? = none ↔ ¬ ∃ name, config.Faulty name := by
  unfold refusal? Faulty Accepts
  rw [List.findSome?_eq_none_iff]
  constructor
  · rintro accepted ⟨name, fragment, listed, faulty⟩
    exact faulty (Registry.refusal?_eq_none_iff.mp
      (accepted (name, fragment) (mem_toList_iff_getElem?_eq_some.mpr listed)))
  · rintro sound ⟨name, fragment⟩ listed
    refine Registry.refusal?_eq_none_iff.mpr (Classical.byContradiction fun faulty => ?_)
    exact sound ⟨name, fragment, mem_toList_iff_getElem?_eq_some.mp listed, faulty⟩

/-- The first filter that is refused is the one whose name has the least bytes. -/
theorem exists_least_of_refusal? {error : Error} (refused : config.refusal? = some error) :
    ∃ name fragment, config.filters[name]? = some fragment ∧
      Registry.refusal? (Grammar.ofBound config.maxIdentifierLength) name fragment = some error ∧
      ∀ other, config.Faulty other → bytes name ≤ bytes other := by
  obtain ⟨before, ⟨name, fragment⟩, after, divides, refuses, accepted⟩ :=
    List.findSome?_eq_some_iff.mp refused
  have listed : (name, fragment) ∈ config.filters.toList := by
    rw [divides]
    simp
  refine ⟨name, fragment, mem_toList_iff_getElem?_eq_some.mp listed, refuses, ?_⟩
  -- What is listed before the refused filter is accepted, and what is listed after it has a greater
  -- name.
  rintro other ⟨otherFragment, otherListed, faulty⟩
  have ordered := config.ordered_filters
  rw [← mem_toList_iff_getElem?_eq_some, divides, List.mem_append, List.mem_cons]
    at otherListed
  rw [divides, List.pairwise_append, List.pairwise_cons] at ordered
  rcases otherListed with earlier | same | later
  · exact absurd (Registry.refusal?_eq_none_iff.mp (accepted _ earlier)) faulty
  · obtain ⟨rfl, rfl⟩ := Prod.mk.inj same
    exact List.le_refl _
  · have less := ordered.2.1.1 _ later
    exact List.le_of_lt (bytes_lt_iff.mpr less)

theorem faulty_of_refuses {name fragment : String} {error : Error}
    (listed : config.filters[name]? = some fragment)
    (refuses : Registry.refusal? (Grammar.ofBound config.maxIdentifierLength) name fragment =
      some error) : config.Faulty name := by
  refine ⟨fragment, listed, fun accepts => ?_⟩
  rw [Registry.refusal?_eq_none_iff.mpr accepts] at refuses
  simp at refuses

theorem refusal?_eq_some_iff {error : Error} :
    config.refusal? = some error ↔
      ∃ name fragment, config.filters[name]? = some fragment ∧
        Registry.refusal? (Grammar.ofBound config.maxIdentifierLength) name fragment = some error ∧
        ∀ other, config.Faulty other → bytes name ≤ bytes other := by
  refine ⟨exists_least_of_refusal?, ?_⟩
  rintro ⟨name, fragment, listed, refuses, least⟩
  have faulty := faulty_of_refuses listed refuses
  cases first : config.refusal? with
  | none => exact absurd ⟨name, faulty⟩ (refusal?_eq_none_iff.mp first)
  | some cause =>
      obtain ⟨other, otherFragment, otherListed, otherRefuses, otherLeast⟩ :=
        exists_least_of_refusal? first
      have otherFaulty := faulty_of_refuses otherListed otherRefuses
      obtain rfl : name = other :=
        bytes_inj.mp (List.le_antisymm (least other otherFaulty) (otherLeast name faulty))
      obtain rfl := Option.some.inj (listed.symm.trans otherListed)
      exact otherRefuses.symm.trans refuses

end Config

namespace Matcher

section Measured

variable [Regex.Measure]

theorem withRegistry_eq (registry : Registry) (config : Config) :
    withRegistry registry config =
      match config.validate with
      | .error error => .error error
      | .ok _ =>
        match config.refusal? with
        | some error => .error error
        | none =>
          .ok { build registry config with
            registry := registry.registerAll config.filters.toList } := by
  have turns := Registry.tryRegisterAll_eq (Grammar.ofBound config.maxIdentifierLength) registry
    config.filters.toList
  unfold withRegistry
  cases config.validate with
  | error error => rfl
  | ok valid =>
      unfold Registry.tryRegisterAll at turns
      simp only [build, bind, Except.bind, turns, Config.refusal?]
      cases config.filters.toList.findSome? fun filter =>
        Registry.refusal? (Grammar.ofBound config.maxIdentifierLength) filter.1 filter.2 <;> rfl

theorem withFilters_eq {registry : Registry} {config : Config} {filters : List (String × String)}
    (iteration : filters.Perm config.filters.toList) :
    withFilters registry config filters = withRegistry registry config := by
  unfold withFilters
  rw [Config.mergeSort_filters iteration]
  rfl

/-- Only settings that are not usable are refused as such. -/
theorem invalidConfig_iff {registry : Registry} {config : Config} :
    (∃ reason, withRegistry registry config = .error (.invalidConfig reason)) ↔
      ∃ error, config.validate = .error error := by
  rw [withRegistry_eq]
  cases validated : config.validate with
  | error error =>
      obtain ⟨reason, rfl⟩ := Config.invalidConfig_of_validate validated
      simp
  | ok valid =>
      cases refused : config.refusal? with
      | none => simp
      | some error =>
          obtain ⟨name, fragment, _, refuses, _⟩ := Config.refusal?_eq_some_iff.mp refused
          rcases Registry.refusal?_cases refuses with rfl | ⟨reason, rfl⟩ <;> simp

/-- What comes of making a matcher around a registry. Settings that are not usable are refused with
the error of their validation. Those that are usable are refused if and only if they have a filter
that is not accepted, and then with the error of the registration of the one among these filters
whose name has the least bytes. Otherwise a matcher is made, with an empty cache that has no account
yet, and with the filters of the settings beside and in place of those of the registry. The order in
which an iteration gives the filters of the settings makes no difference. -/
theorem withRegistry_outcome (registry : Registry) (config : Config) :
    ((∃ reason, withRegistry registry config = .error (.invalidConfig reason)) ↔
      ∃ error, config.validate = .error error) ∧
      (∀ error, config.validate = .error error → withRegistry registry config = .error error) ∧
      (config.validate = .ok () →
        ((∃ error, withRegistry registry config = .error error) ↔ ∃ name, config.Faulty name) ∧
        (∀ error, withRegistry registry config = .error error ↔
          ∃ name fragment, config.filters[name]? = some fragment ∧
            registry.tryRegister (Grammar.ofBound config.maxIdentifierLength) name fragment =
              .error error ∧
            ∀ other, config.Faulty other → bytes name ≤ bytes other) ∧
        ((¬ ∃ name, config.Faulty name) → ∃ matcher, withRegistry registry config = .ok matcher ∧
          (∀ name, matcher.registry.get? name = (config.filters[name]?).or (registry.get? name)) ∧
          matcher.cache.entries = [] ∧ matcher.cache.stats = {} ∧
          matcher.cache.config = config.cache ∧ matcher.config = config ∧
          matcher.grammar.maxIdentifierLength = config.maxIdentifierLength)) ∧
      ∀ filters, filters.Perm config.filters.toList →
        withFilters registry config filters = withRegistry registry config := by
  refine ⟨invalidConfig_iff, fun error invalid => ?_,
    fun valid => ⟨?_, fun error => ?_, fun sound => ?_⟩,
    fun filters iteration => withFilters_eq iteration⟩
  · rw [withRegistry_eq, invalid]
  · rw [withRegistry_eq, valid, ← not_iff_not, ← Config.refusal?_eq_none_iff]
    cases config.refusal? <;> simp
  · simp only [withRegistry_eq, valid, Registry.tryRegister_eq_error_iff_refusal?,
      ← Config.refusal?_eq_some_iff]
    cases config.refusal? <;> simp
  · rw [withRegistry_eq, valid, Config.refusal?_eq_none_iff.mpr sound]
    refine ⟨_, rfl, config.get?_registerAll_filters registry, rfl, rfl, rfl, rfl, ?_⟩
    exact Nat.max_eq_left (Config.maxIdentifierLength_of_validate valid)

end Measured

/-- Two of three filters are not accepted, one because of its name and one because its fragment
drops a group before the one that it keeps, and the one with the lesser name is reported, although it
comes last in the iteration. Alone, the third one is registered in place of a built-in filter. -/
theorem withRegistry_outcome_least :
    let faulty : Config :=
      ((Config.withFilter {} "ﬁ" "(f)").withFilter "word" "(w)").withFilter "no" "(n)\x7b0\x7d(o)"
    let sound : Config := Config.withFilter {} "word" "(w)"
    withFilters Registry.builtin faulty [("ﬁ", "(f)"), ("word", "(w)"), ("no", "(n)\x7b0\x7d(o)")] =
        .error (.invalidFragment "no" "expected exactly one capture group, found 2") ∧
      ∃ matcher, withRegistry Registry.builtin sound = .ok matcher ∧
        matcher.registry.get? "word" = some "(w)" ∧
        matcher.registry.get? "digit" = some "([0-9]+)" ∧ matcher.cache.entries = [] := by
  intro faulty sound
  have faultyFilters : faulty.filters.toList =
      [("no", "(n)\x7b0\x7d(o)"), ("word", "(w)"), ("ﬁ", "(f)")] := by
    decide +kernel
  have soundFilters : sound.filters.toList = [("word", "(w)")] := by decide +kernel
  constructor
  · obtain ⟨_, _, usable, iterations⟩ := withRegistry_outcome Registry.builtin faulty
    obtain ⟨_, reported, _⟩ := usable rfl
    rw [iterations _ (by rw [faultyFilters]; decide), reported]
    refine ⟨"no", "(n)\x7b0\x7d(o)", by decide +kernel, ?_, ?_⟩
    · rw [Registry.tryRegister_eq_error_iff_refusal?]
      decide +kernel
    · rintro other ⟨fragment, listed, _⟩
      rw [← mem_toList_iff_getElem?_eq_some, faultyFilters] at listed
      simp only [List.mem_cons, Prod.mk.injEq, List.not_mem_nil, or_false] at listed
      rcases listed with ⟨rfl, _⟩ | ⟨rfl, _⟩ | ⟨rfl, _⟩ <;> decide +kernel
  · obtain ⟨_, _, usable, _⟩ := withRegistry_outcome Registry.builtin sound
    obtain ⟨_, _, made⟩ := usable rfl
    have accepted : ¬ ∃ name, sound.Faulty name := by
      rintro ⟨name, fragment, listed, refused⟩
      rw [← mem_toList_iff_getElem?_eq_some, soundFilters, List.mem_singleton]
        at listed
      obtain ⟨rfl, rfl⟩ := Prod.mk.inj listed
      exact refused (Registry.refusal?_eq_none_iff.mp (by decide +kernel))
    obtain ⟨matcher, built, filters, empty, _⟩ := made accepted
    refine ⟨matcher, built, ?_, ?_, empty⟩
    · rw [filters]
      decide +kernel
    · rw [filters]
      decide +kernel

end Matcher

end Stencil
