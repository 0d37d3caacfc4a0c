import Stencil.Proofs.Matcher.CacheTransparency

/-!
The operations of a matcher agree with one another.

Owns what each operation that matches answers in terms of the compilation of its pattern without a
cache (`Coherent.test`, `tryTest_eq`, `Coherent.isMatch`, `Coherent.testBatchBy`), and
`Consistent`, which compares the operations with one another, all of them from one state. The main
statement is `performAll_consistent`: however a matcher was made and whatever was done with it, its
operations are consistent.

How a large batch is divided is left open: any way of working on it will do that keeps the order.
-/

namespace Stencil

namespace Matcher

/-- A way of working on a batch that gives the results in the order of the inputs. -/
def KeepsOrder (collect : (String → Option Params) → List String → List (Option Params)) : Prop :=
  ∀ extract inputs, collect extract inputs = inputs.map extract

theorem admits_iff (matcher : Matcher) (input : String) :
    matcher.admits input = true ↔ input.utf8ByteSize ≤ matcher.config.maxInputLength := by
  simp [admits]

section Measured

variable [Regex.Measure]

/-! ### The answer of each operation -/

theorem tryTest_eq (matcher : Matcher) (input text : String) :
    (matcher.tryTest input text).1 =
      if matcher.admits input then
        (matcher.tryCompile text).1.map fun pattern => pattern.extract input
      else .error (.inputTooLong input.utf8ByteSize matcher.config.maxInputLength) := by
  unfold tryTest
  split
  next => split <;> (next looked => rw [looked]; rfl)
  next => rfl

section Answers

variable {matcher : Matcher} (coherent : matcher.Coherent)
include coherent

theorem Coherent.compile (text : String) : (matcher.compile text).1 = matcher.afresh text :=
  (compile_answers coherent text).value

theorem Coherent.tryCompile (text : String) :
    (matcher.tryCompile text).1 =
      Pattern.tryCompile text matcher.registry matcher.grammar matcher.config.regexSizeLimit :=
  (tryCompile_answers coherent text).value

theorem Coherent.test (input text : String) :
    (matcher.test input text).1 =
      if matcher.admits input then (matcher.afresh text).extract input else none := by
  unfold Matcher.test
  split
  next => exact congrArg (fun pattern => pattern.extract input) (coherent.compile text)
  next => rfl

theorem Coherent.isMatch (input text : String) :
    (matcher.isMatch input text).1 =
      (matcher.admits input && (matcher.afresh text).isMatch input) := by
  unfold Matcher.isMatch
  split
  next short =>
    rw [short, Bool.true_and]
    exact congrArg (fun pattern => pattern.isMatch input) (coherent.compile text)
  next long =>
    rw [Bool.eq_false_iff.mpr long, Bool.false_and]

/-- The guard on the length of an input is the same in a batch as outside of it. -/
theorem Coherent.testBatchBy
    {collect : (String → Option Params) → List String → List (Option Params)}
    (ordered : KeepsOrder collect) (inputs : List String) (text : String) :
    (matcher.testBatchBy collect inputs text).1 =
      inputs.map fun input => (matcher.test input text).1 := by
  have each : (fun input => if (matcher.compile text).2.admits input then
      (matcher.compile text).1.extract input else none) =
        fun input => (matcher.test input text).1 := by
    funext input
    rw [(compile_answers coherent text).admits, coherent.compile, coherent.test]
  rw [← each]
  unfold Matcher.testBatchBy
  split
  next pattern later compiled =>
    rw [compiled]
    simp only
    split
    · exact ordered _ inputs
    · rfl

end Answers

/-! ### Consistency -/

/-- What the operations of a matcher have to do with one another, where all of them start from this
matcher and `collect` works on its large batches. -/
structure Consistent (matcher : Matcher)
    (collect : (String → Option Params) → List String → List (Option Params)) : Prop where
  tryTest_some_iff : ∀ input text params,
    (matcher.test input text).1 = some params ↔ (matcher.tryTest input text).1 = .ok (some params)
  isMatch_iff : ∀ input text,
    (matcher.isMatch input text).1 = true ↔ (matcher.test input text).1.isSome = true
  batch_length : ∀ inputs text,
    (matcher.testBatchBy collect inputs text).1.length = inputs.length
  batch_getElem? : ∀ inputs text (index : Nat),
    (matcher.testBatchBy collect inputs text).1[index]? =
      inputs[index]?.map fun input => (matcher.test input text).1
  never_iff : ∀ text,
    (matcher.compile text).1.isNever = true ↔ ∃ cause, (matcher.tryCompile text).1 = .error cause
  compiled : ∀ text pattern, (matcher.tryCompile text).1 = .ok pattern →
    (matcher.compile text).1.text = pattern.text ∧ (matcher.compile text).1.keys = pattern.keys ∧
      (matcher.compile text).1.source? = pattern.source?
  tooLong_iff : ∀ input text length limit,
    (matcher.tryTest input text).1 = .error (.inputTooLong length limit) ↔
      matcher.config.maxInputLength < input.utf8ByteSize ∧
        length = input.utf8ByteSize ∧ limit = matcher.config.maxInputLength
  fails_iff : ∀ input text cause, input.utf8ByteSize ≤ matcher.config.maxInputLength →
    ((matcher.tryTest input text).1 = .error cause ↔ (matcher.tryCompile text).1 = .error cause)

/-- An input that is too long is refused before the pattern is looked at, and the compilation of a
pattern never refuses an input. -/
theorem Coherent.tooLong_iff {matcher : Matcher} (coherent : matcher.Coherent)
    (input text : String) (length limit : Nat) :
    (matcher.tryTest input text).1 = .error (.inputTooLong length limit) ↔
      matcher.config.maxInputLength < input.utf8ByteSize ∧
        length = input.utf8ByteSize ∧ limit = matcher.config.maxInputLength := by
  rw [tryTest_eq]
  by_cases short : matcher.admits input = true
  · have notLong := Nat.not_lt.mpr ((matcher.admits_iff input).mp short)
    have noCause : (matcher.tryCompile text).1 ≠ .error (.inputTooLong length limit) := by
      intro fails
      rw [coherent.tryCompile] at fails
      rcases Pattern.tryCompile_error fails with ⟨name, same⟩ | ⟨reason, same⟩ <;> simp at same
    rw [if_pos short]
    constructor
    · intro fails
      cases compiles : (matcher.tryCompile text).1 with
      | ok pattern => simp [compiles, Except.map] at fails
      | error cause =>
          have same : cause = .inputTooLong length limit := by simpa [compiles, Except.map] using fails
          exact absurd (same ▸ compiles) noCause
    · rintro ⟨long, _⟩
      exact absurd long notLong
  · have long : matcher.config.maxInputLength < input.utf8ByteSize :=
      Nat.not_le.mp fun fits => short ((matcher.admits_iff input).mpr fits)
    rw [if_neg short]
    constructor
    · intro same
      simp only [Except.error.injEq, Error.inputTooLong.injEq] at same
      exact ⟨long, same.1.symm, same.2.symm⟩
    · rintro ⟨_, rfl, rfl⟩
      rfl

theorem Coherent.consistent {matcher : Matcher} (coherent : matcher.Coherent)
    {collect : (String → Option Params) → List String → List (Option Params)}
    (ordered : KeepsOrder collect) : matcher.Consistent collect where
  tryTest_some_iff := by
    intro input text params
    rw [coherent.test, tryTest_eq]
    by_cases short : matcher.admits input = true
    · rw [if_pos short, if_pos short, coherent.tryCompile, afresh]
      unfold Pattern.compile
      cases Pattern.tryCompile text matcher.registry matcher.grammar matcher.config.regexSizeLimit with
      | ok pattern => simp [Except.map]
      | error cause => simp [Except.map, Pattern.never, Pattern.extract]
    · rw [if_neg short, if_neg short]
      simp
  isMatch_iff := by
    intro input text
    rw [coherent.test, coherent.isMatch]
    by_cases short : matcher.admits input = true
    · rw [if_pos short, short, Bool.true_and, Pattern.extract_isSome]
    · rw [if_neg short, Bool.eq_false_iff.mpr short, Bool.false_and]
      simp
  batch_length := by
    intro inputs text
    rw [coherent.testBatchBy ordered, List.length_map]
  batch_getElem? := by
    intro inputs text index
    rw [coherent.testBatchBy ordered, List.getElem?_map]
  never_iff := by
    intro text
    rw [coherent.compile, coherent.tryCompile]
    exact Pattern.isNever_compile_iff
  compiled := by
    intro text pattern compiles
    rw [coherent.tryCompile] at compiles
    have same : (matcher.compile text).1 = pattern := by
      rw [coherent.compile, afresh, Pattern.compile_of_tryCompile compiles]
    rw [same]
    exact ⟨rfl, rfl, rfl⟩
  tooLong_iff := coherent.tooLong_iff
  fails_iff := by
    intro input text cause fits
    rw [tryTest_eq, if_pos ((matcher.admits_iff input).mpr fits)]
    cases (matcher.tryCompile text).1 with
    | ok pattern => simp [Except.map]
    | error other => simp [Except.map]

/-- However a matcher was made and whatever was done with it, its operations are consistent. -/
theorem performAll_consistent {matcher : Matcher} (made : Made matcher) (steps : List Step)
    {collect : (String → Option Params) → List String → List (Option Params)}
    (ordered : KeepsOrder collect) :
    (matcher.performAll steps).2.Consistent collect :=
  (performAll_keeps (coherent_of_empty made.empty_cache) steps).1.consistent ordered

end Measured

/-- A batch that is divided in the middle: the pattern in the cache never matches, and the batch
gives as little as the test of each input. -/
theorem performAll_consistent_halves :
    let steps : List Step := [.register "broken" "([unclosed", .compile "[broken:]"]
    let halves := fun (extract : String → Option Params) (inputs : List String) =>
      (inputs.take (inputs.length / 2)).map extract ++ (inputs.drop (inputs.length / 2)).map extract
    KeepsOrder halves ∧ (standard.performAll steps).2.Consistent halves := by
  intro steps halves
  have ordered : KeepsOrder halves := by
    intro extract inputs
    simp only [halves]
    rw [← List.map_append, List.take_append_drop]
  exact ⟨ordered, performAll_consistent .standard
    [.register "broken" "([unclosed", .compile "[broken:]"] ordered⟩

end Matcher

end Stencil
