import Stencil.Proofs.Pattern.Compilation
import Stencil.Proofs.Pattern.Extraction
import Stencil.Regex.Estimate

/-!
The captures under the keys of a pattern, whatever its fragments are.

The fragments may have any number of groups, groups that take no part in a match and groups that are
dropped. The main statement is `extract_captures`: a match has as many captures as the pattern has
groups, and the first captures stand under the first keys, as far as there are both.

Which fragment a group belongs to is not told here.
-/

namespace Stencil

open Regex

theorem Regex.length_captures {regex : Regex} {text : String} {captures : List (Option String)}
    (captured : regex.captures? text = some captures) : captures.length = regex.groupCount := by
  obtain ⟨marks, _, rfl⟩ := Option.map_eq_some_iff.mp captured
  rw [List.length_map, List.length_range]

section Compiled

variable {text : String} {registry : Registry} {grammar : Grammar} {sizeLimit : Nat}
  {pattern : Pattern}

/-- A pattern that compiles has an expression, and the keys of its placeholders. -/
theorem Pattern.regex_of_tryCompile [Measure]
    (compiles : tryCompile text registry grammar sizeLimit = .ok pattern) :
    ∃ regex, pattern.regex = some regex ∧ pattern.keys = grammar.keys text := by
  obtain ⟨_, _, _, _, _, rfl⟩ := tryCompile_ok compiles
  exact ⟨_, rfl, rfl⟩

theorem Pattern.groupCount_of_regex {regex : Regex} (hasRegex : pattern.regex = some regex) :
    pattern.groupCount = regex.groupCount := by
  rw [groupCount, hasRegex]
  rfl

theorem Pattern.extract_of_regex {regex : Regex} (hasRegex : pattern.regex = some regex)
    (input : String) : pattern.extract input =
      (regex.captures? input).map fun captures => paramsOf captures pattern.keys := by
  simp only [extract, hasRegex, Option.bind_eq_bind, Option.bind_some]
  cases regex.captures? input <;> rfl

/-- A match reports a capture for each group of the pattern, dropped ones included that come before
another one. What stands under a key is what the last group for it captured, or the empty text if
that group took no part in the match; keys without a group and groups without a key are of no
account. -/
theorem extract_captures [Measure]
    (compiles : Pattern.tryCompile text registry grammar sizeLimit = .ok pattern) :
    ∃ regex, pattern.regex = some regex ∧ pattern.keys = grammar.keys text ∧
      ∀ input, pattern.isMatch input = true → ∃ captures params,
        regex.captures? input = some captures ∧ captures.length = pattern.groupCount ∧
        pattern.extract input = some params ∧
        (∀ key, key ∈ params ↔ key ∈ pattern.keys.take pattern.groupCount) ∧
        HoldsLast params pattern.keys (captures.map fun capture => capture.getD "") := by
  obtain ⟨regex, hasRegex, keys⟩ := Pattern.regex_of_tryCompile compiles
  refine ⟨regex, hasRegex, keys, fun input isMatch => ?_⟩
  rw [← Pattern.extract_isSome, Pattern.extract_of_regex hasRegex, Option.isSome_map,
    Option.isSome_iff_exists] at isMatch
  obtain ⟨captures, captured⟩ := isMatch
  have length : captures.length = pattern.groupCount := by
    rw [Regex.length_captures captured, Pattern.groupCount_of_regex hasRegex]
  have holds := Pattern.holdsLast_paramsOf captures pattern.keys
  refine ⟨captures, Pattern.paramsOf captures pattern.keys, captured, length, ?_, ?_, holds⟩
  · rw [Pattern.extract_of_regex hasRegex, captured, Option.map_some]
  · intro key
    rw [holds.mem_iff_mem_take, List.length_map, length]

end Compiled

/-- A fragment with two groups, and one with none. -/
def uneven : Registry := (Registry.builtin.register "pair" "([a-z])(x)?").register "dash" "-"

/-- The second group takes no part, so that the second key has the empty text; the third one is for a
key that came before; there is no group for the last key. -/
theorem extract_captures_uneven :
    ∃ pattern params, Pattern.tryCompile "[pair:p][dash:d][digit:p][dash:q]" uneven
        (Grammar.ofBound 64) defaultSizeLimit = .ok pattern ∧
      pattern.keys = ["p", "d", "p", "q"] ∧ pattern.groupCount = 3 ∧
      pattern.extract "a-7-" = some params ∧
      params["p"]? = some "7" ∧ params["d"]? = some "" ∧ "q" ∉ params := by
  have reported : ((Pattern.tryCompile "[pair:p][dash:d][digit:p][dash:q]" uneven
      (Grammar.ofBound 64) defaultSizeLimit).toOption.map fun pattern =>
        (pattern.groupCount, pattern.isMatch "a-7-",
          pattern.regex.bind fun regex => regex.captures? "a-7-")) =
        some (3, true, some [some "a", none, some "7"]) := by
    decide +kernel
  obtain ⟨pattern, compiles, seen⟩ := Pattern.exists_ok_of_map reported
  simp only [Prod.mk.injEq] at seen
  obtain ⟨groupCount, isMatch, found⟩ := seen
  obtain ⟨regex, hasRegex, keys, captured⟩ := extract_captures compiles
  obtain ⟨captures, params, captured, _, extracted, mem_iff, holds⟩ := captured _ isMatch
  obtain rfl : captures = [some "a", none, some "7"] := by
    rw [hasRegex, Option.bind_some, captured, Option.some_inj] at found
    exact found
  have keys : pattern.keys = ["p", "d", "p", "q"] := by
    rw [keys]
    decide +kernel
  rw [keys, groupCount] at mem_iff
  rw [keys] at holds
  refine ⟨pattern, params, compiles, keys, groupCount, extracted, ?_, ?_, ?_⟩
  · refine (holds.getElem?_iff _ _).mpr ⟨2, rfl, rfl, fun later after before => ?_⟩
    exact absurd before (Nat.not_lt_of_le after)
  · refine (holds.getElem?_iff _ _).mpr ⟨1, rfl, rfl, fun later after before => ?_⟩
    obtain rfl : later = 2 := Nat.le_antisymm (Nat.le_of_lt_succ before) after
    simp
  · rw [mem_iff]
    decide

end Stencil
