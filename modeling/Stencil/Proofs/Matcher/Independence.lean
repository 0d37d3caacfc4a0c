import Stencil.Proofs.Matcher.Agreement
import Stencil.Proofs.Pattern.Filling
import Stencil.Proofs.Pattern.Validation

/-!
A pattern depends on the filters that it names and on no others.

Owns:
- `Grammar.filters`, the filters that a pattern names, and `Registry.AgreeOn`, registries that have
  the same fragments for some names;
- `Step.pattern?` and `Step.registered?`, the pattern that a step asks about and the filter that a
  step registers;
- `Matcher.Related`, the relation between two runs of which one has registered more filters than the
  other: every step preserves it (`Related.perform`), and related matchers answer alike about the
  patterns that name none of these filters (`Related.answer_eq`).

The main statement is `performAll_independent`. The caches of the two runs need not be related: the
further registration empties one of them.
-/

namespace Stencil

/-- The filters that the placeholders of a pattern name, from left to right. -/
def Grammar.filters (grammar : Grammar) (text : String) : List String :=
  (grammar.scan text).map fun located => located.placeholder.filter

/-- The registries have the same fragment, or both have none, for each of the names. -/
def Registry.AgreeOn (names : List String) (left right : Registry) : Prop :=
  ∀ name ∈ names, left.get? name = right.get? name

/-- The pattern that a step asks about. -/
def Step.pattern? : Step → Option String
  | .test _ pattern | .tryTest _ pattern | .isMatch _ pattern | .testBatch _ pattern
  | .compile pattern | .tryCompile pattern | .keys pattern => some pattern
  | _ => none

/-- The name of the filter that a step registers, with or without validation. -/
def Step.registered? : Step → Option String
  | .register name _ | .tryRegister name _ => some name
  | _ => none

theorem Grammar.mem_filters {grammar : Grammar} {text : String} {placeholder : Placeholder}
    (inside : .hole placeholder ∈ grammar.pieces text.toList) :
    placeholder.filter ∈ grammar.filters text := by
  have named : placeholder ∈ (grammar.scan text).map Located.placeholder := by
    rw [grammar.scan_placeholders]
    exact mem_holesOf.mpr inside
  obtain ⟨located, found, rfl⟩ := List.mem_map.mp named
  exact List.mem_map_of_mem found

namespace Registry.AgreeOn

variable {names : List String} {left right : Registry}

theorem register (agree : AgreeOn names left right) (name fragment : String) :
    AgreeOn names (left.register name fragment) (right.register name fragment) := by
  intro other named
  rw [get?_register, get?_register, agree other named]

/-- A filter that is not among the names may be registered on one side alone. -/
theorem register_left (agree : AgreeOn names left right) {name : String} (fragment : String)
    (unnamed : name ∉ names) : AgreeOn names (left.register name fragment) right := by
  intro other named
  have differs : name ≠ other := fun same => unnamed (same ▸ named)
  rw [get?_register_of_ne differs, agree other named]

end Registry.AgreeOn

/-! ### Compilation -/

namespace Pattern

/-- What a pattern compiles to, or why it does not, depends on the filters that it names only. -/
theorem tryCompile_congr [Regex.Measure] {text : String} {grammar : Grammar} {left right : Registry}
    (agree : left.AgreeOn (grammar.filters text) right) (sizeLimit : Nat) :
    tryCompile text left grammar sizeLimit = tryCompile text right grammar sizeLimit := by
  have sameParts : (grammar.pieces text.toList).mapM (pieceSource left) =
      (grammar.pieces text.toList).mapM (pieceSource right) := by
    refine mapM_pieceSource_congr fun piece inside => pieceSource_congr ?_
    rintro placeholder rfl
    exact agree _ (Grammar.mem_filters inside)
  unfold tryCompile source bodySource
  simp only [sameParts]

end Pattern

namespace Matcher

section Measured

variable [Regex.Measure]

/-! ### Registration -/

/-- The filter that a step adds to the registry. -/
def addition? (grammar : Grammar) : Step → Option (String × String)
  | .register name fragment => some (name, fragment)
  | .tryRegister name fragment =>
    if (Registry.refusal? grammar name fragment).isNone then some (name, fragment) else none
  | _ => none

theorem registryAfter_eq (grammar : Grammar) (registry : Registry) (step : Step) :
    registryAfter grammar registry step =
      match addition? grammar step with
      | some filter => registry.register filter.1 filter.2
      | none => registry := by
  cases step with
  | tryRegister name fragment =>
      simp only [registryAfter, addition?, Registry.tryRegister_eq]
      cases Registry.refusal? grammar name fragment <;> rfl
  | _ => rfl

theorem registered?_of_addition? {grammar : Grammar} {step : Step} {filter : String × String}
    (adds : addition? grammar step = some filter) : step.registered? = some filter.1 := by
  cases step with
  | register name fragment =>
      obtain rfl := Option.some.inj adds
      rfl
  | tryRegister name fragment =>
      simp only [addition?] at adds
      split at adds
      · obtain rfl := Option.some.inj adds
        rfl
      · simp at adds
  | _ => simp [addition?] at adds

/-! ### Two runs -/

/-- The matchers differ in their caches and in filters that are not among the names. -/
structure Related (names : List String) (left right : Matcher) : Prop where
  leftCoherent : left.Coherent
  rightCoherent : right.Coherent
  registry : left.registry.AgreeOn names right.registry
  grammar : left.grammar = right.grammar
  config : left.config = right.config

variable {names : List String} {left right : Matcher}

/-- A step on both sides keeps the matchers related. -/
theorem Related.perform (related : Related names left right) (step : Step) :
    Related names (left.perform step).2 (right.perform step).2 where
  leftCoherent := perform_coherent related.leftCoherent step
  rightCoherent := perform_coherent related.rightCoherent step
  registry := by
    rw [perform_registry related.leftCoherent, perform_registry related.rightCoherent,
      related.grammar, registryAfter_eq, registryAfter_eq]
    cases addition? right.grammar step with
    | none => exact related.registry
    | some filter => exact related.registry.register filter.1 filter.2
  grammar := by
    rw [perform_grammar related.leftCoherent, perform_grammar related.rightCoherent,
      related.grammar]
  config := by
    rw [perform_config related.leftCoherent, perform_config related.rightCoherent, related.config]

/-- A step on one side alone keeps the matchers related if it registers none of the filters. -/
theorem Related.perform_left (related : Related names left right) {step : Step}
    (unnamed : ∀ name, step.registered? = some name → name ∉ names) :
    Related names (left.perform step).2 right where
  leftCoherent := perform_coherent related.leftCoherent step
  rightCoherent := related.rightCoherent
  registry := by
    rw [perform_registry related.leftCoherent, registryAfter_eq]
    cases adds : addition? left.grammar step with
    | none => exact related.registry
    | some filter =>
        exact related.registry.register_left filter.2 (unnamed _ (registered?_of_addition? adds))
  grammar := (perform_grammar related.leftCoherent step).trans related.grammar
  config := (perform_config related.leftCoherent step).trans related.config

theorem Related.performAll (related : Related names left right) (steps : List Step) :
    Related names (left.performAll steps).2 (right.performAll steps).2 := by
  induction steps generalizing left right with
  | nil => exact related
  | cons step rest inductionHypothesis => exact inductionHypothesis (related.perform step)

/-! ### Answers about a pattern whose filters are the same -/

namespace Related

variable {text : String} (related : Related (left.grammar.filters text) left right)
include related

theorem tryCompile_eq : (left.tryCompile text).1 = (right.tryCompile text).1 := by
  rw [related.leftCoherent.tryCompile, related.rightCoherent.tryCompile,
    Pattern.tryCompile_congr related.registry, related.grammar, related.config]

theorem afresh_eq : left.afresh text = right.afresh text := by
  unfold afresh Pattern.compile
  rw [Pattern.tryCompile_congr related.registry, related.grammar, related.config]

theorem compile_eq : (left.compile text).1 = (right.compile text).1 := by
  rw [related.leftCoherent.compile, related.rightCoherent.compile, related.afresh_eq]

omit related in
theorem admits_eq {names : List String} (related : Related names left right) (input : String) :
    left.admits input = right.admits input := by
  unfold admits
  rw [related.config]

theorem test_eq (input : String) : (left.test input text).1 = (right.test input text).1 := by
  rw [related.leftCoherent.test, related.rightCoherent.test, related.admits_eq, related.afresh_eq]

theorem tryTest_eq (input : String) :
    (left.tryTest input text).1 = (right.tryTest input text).1 := by
  rw [Matcher.tryTest_eq, Matcher.tryTest_eq, related.admits_eq, related.tryCompile_eq,
    related.config]

theorem isMatch_eq (input : String) :
    (left.isMatch input text).1 = (right.isMatch input text).1 := by
  rw [related.leftCoherent.isMatch, related.rightCoherent.isMatch, related.admits_eq,
    related.afresh_eq]

theorem testBatch_eq (inputs : List String) :
    (left.testBatch inputs text).1 = (right.testBatch inputs text).1 := by
  unfold testBatch
  rw [related.leftCoherent.testBatchBy (fun _ _ => rfl),
    related.rightCoherent.testBatchBy (fun _ _ => rfl)]
  exact List.map_congr_left fun input _ => related.test_eq input

/-- Related matchers answer alike about a pattern if they have its filters in common. -/
theorem answer_eq {step : Step} (asks : step.pattern? = some text) :
    (left.perform step).1 = (right.perform step).1 := by
  cases step with
  | test input pattern =>
      obtain rfl := Option.some.inj asks
      exact congrArg Answer.params (related.test_eq input)
  | tryTest input pattern =>
      obtain rfl := Option.some.inj asks
      exact congrArg (Answer.ofExcept .params) (related.tryTest_eq input)
  | isMatch input pattern =>
      obtain rfl := Option.some.inj asks
      exact congrArg Answer.flag (related.isMatch_eq input)
  | testBatch inputs pattern =>
      obtain rfl := Option.some.inj asks
      exact congrArg Answer.paramsList (related.testBatch_eq inputs)
  | compile pattern =>
      obtain rfl := Option.some.inj asks
      exact congrArg Answer.pattern related.compile_eq
  | tryCompile pattern =>
      obtain rfl := Option.some.inj asks
      exact congrArg (Answer.ofExcept .pattern) related.tryCompile_eq
  | keys pattern =>
      exact congrArg (fun grammar => Answer.texts (grammar.keys pattern)) related.grammar
  | _ => simp [Step.pattern?] at asks

/-- So they do after the same further steps. -/
theorem exists_answer (steps : List Step) {index : Nat} {step : Step}
    (present : steps[index]? = some step) (asks : step.pattern? = some text) :
    ∃ answer, (left.performAll steps).1[index]? = some answer ∧
      (right.performAll steps).1[index]? = some answer := by
  have later := related.performAll (steps.take index)
  rw [← (performAll_keeps related.leftCoherent (steps.take index)).2.2.1] at later
  rw [performAll_getElem?, performAll_getElem?, present, Option.map_some, Option.map_some,
    later.answer_eq asks]
  exact ⟨_, rfl, rfl⟩

end Related

/-! ### A registration more -/

/-- The answers to later steps are those of the matcher as the steps before them leave it. -/
theorem performAll_getElem?_append (matcher : Matcher) (before later : List Step) (index : Nat) :
    (matcher.performAll (before ++ later)).1[before.length + index]? =
      ((matcher.performAll before).2.performAll later).1[index]? := by
  induction before generalizing matcher with
  | nil => rw [List.nil_append, List.length_nil, Nat.zero_add, performAll]
  | cons step rest inductionHypothesis =>
      rw [List.length_cons, Nat.add_right_comm]
      exact inductionHypothesis _

/-- A pattern depends on the filters that it names only. What it compiles to, or why it does not, is
the same under registries that agree on them; and if a session registers another filter at some
point, whether or not the registration succeeds, no later answer about the pattern changes. -/
theorem performAll_independent (text : String) :
    (∀ (grammar : Grammar) (sizeLimit : Nat) (left right : Registry),
      left.AgreeOn (grammar.filters text) right →
        Pattern.tryCompile text left grammar sizeLimit =
          Pattern.tryCompile text right grammar sizeLimit) ∧
      ∀ {matcher : Matcher}, Made matcher →
        ∀ (before after : List Step) (registration : Step) (name : String),
          registration.registered? = some name → name ∉ matcher.grammar.filters text →
            ∀ (index : Nat) (step : Step), after[index]? = some step → step.pattern? = some text →
              ∃ answer,
                (matcher.performAll (before ++ registration :: after)).1[before.length + 1 + index]? =
                  some answer ∧
                (matcher.performAll (before ++ after)).1[before.length + index]? = some answer := by
  refine ⟨fun grammar sizeLimit left right agree => Pattern.tryCompile_congr agree sizeLimit, ?_⟩
  intro matcher made before after registration name registers unnamed index step present asks
  obtain ⟨coherent, _, grammar, _⟩ := performAll_keeps (coherent_of_empty made.empty_cache) before
  have same : Related (matcher.grammar.filters text) (matcher.performAll before).2
      (matcher.performAll before).2 :=
    ⟨coherent, coherent, fun _ _ => rfl, rfl, rfl⟩
  have others : ∀ other, registration.registered? = some other →
      other ∉ matcher.grammar.filters text := by
    intro other registersOther
    rwa [← Option.some.inj (registers.symm.trans registersOther)]
  have related := same.perform_left others
  rw [← grammar, ← perform_grammar coherent registration] at related
  rw [Nat.add_assoc, performAll_getElem?_append, performAll_getElem?_append, Nat.add_comm 1 index]
  exact related.exists_answer after present asks

end Measured

/-- Another filter is registered after a pattern was compiled, and later on a filter of the pattern
is replaced. Only one of the caches still holds the pattern when it is asked for again, and the
answers are the same. -/
theorem performAll_independent_emptied :
    let before : List Step := [.compile "[digit:n]"]
    let after : List Step :=
      [.test "7" "[digit:n]", .register "digit" "([a-z])", .tryTest "q" "[digit:n]"]
    let more := (standard.performAll (before ++ .tryRegister "mark" "([?!])" :: after)).1
    let less := (standard.performAll (before ++ after)).1
    ((standard.performAll before).2.tryRegister "mark" "([?!])").2.cache.entries.length = 0 ∧
      (standard.performAll before).2.cache.entries.length = 1 ∧
      (∃ answer, more[2]? = some answer ∧ less[1]? = some answer) ∧
      (∃ answer, more[4]? = some answer ∧ less[3]? = some answer) ∧
      Pattern.tryCompile "[digit:n]" (Registry.builtin.register "mark" "([?!])") standard.grammar
          defaultSizeLimit =
        Pattern.tryCompile "[digit:n]" Registry.builtin standard.grammar defaultSizeLimit := by
  intro before after more less
  have filters : standard.grammar.filters "[digit:n]" = ["digit"] := by decide +kernel
  have unnamed : "mark" ∉ standard.grammar.filters "[digit:n]" := by
    rw [filters]
    decide
  have agree : (Registry.builtin.register "mark" "([?!])").AgreeOn
      (standard.grammar.filters "[digit:n]") Registry.builtin := by
    rw [filters]
    intro name named
    rw [List.mem_singleton.mp named, Registry.get?_register_of_ne (by decide)]
  obtain ⟨compiles, sessions⟩ := performAll_independent "[digit:n]"
  exact ⟨by decide +kernel, by decide +kernel,
    sessions .standard before after _ "mark" rfl unnamed 0 _ rfl rfl,
    sessions .standard before after _ "mark" rfl unnamed 2 _ rfl rfl,
    compiles standard.grammar defaultSizeLimit _ _ agree⟩

end Matcher

end Stencil
