import Stencil.Proofs.Pattern.Captures
import Stencil.Proofs.Pattern.Keys

/-!
Placeholders that share a key, and what they lose.

The main statement is `keys_shared_iff`: when placeholders of a pattern share a key, and that a match
with a capture for each placeholder then has fewer entries than placeholders. It loses the captures
of those placeholders whose key comes again later, and no others.
-/

namespace Stencil

/-- The entries of a map filled from keys and values are as many as the keys, if there are values for
all of them, exactly if no key comes twice. -/
theorem length_lastEntries_zip_iff {keys values : List String} (enough : keys.length ≤ values.length) :
    (lastEntries (keys.zip values)).length = keys.length ↔ keys.Nodup := by
  have entries : (keys.zip values).map Prod.fst = keys := List.map_fst_zip enough
  have length : (keys.zip values).length = keys.length := by
    rw [List.length_zip, Nat.min_eq_left enough]
  rw [← length, length_lastEntries_iff, entries]

/-- A key is the property of its placeholder, or the numeral of the number of those before it that
have none. So placeholders with equal properties share a key, and so do one without a property and
another whose property is its number, and no others do. A match has the entries whose key does not
come again later. If the pattern has a group for each placeholder, then no entry is missing exactly
if no key is shared. -/
theorem keys_shared_iff [Regex.Measure] (bound : Nat) (text : String) :
    ((Grammar.ofBound bound).keys text).length = ((Grammar.ofBound bound).placeholders text).length ∧
    (∀ index key, ((Grammar.ofBound bound).keys text)[index]? = some key ↔
      ∃ placeholder, ((Grammar.ofBound bound).placeholders text)[index]? = some placeholder ∧
        (placeholder.prop = some key ∨ placeholder.prop = none ∧
          IsNumeral key (unnamedCount (((Grammar.ofBound bound).placeholders text).take index)))) ∧
    (((Grammar.ofBound bound).keys text).Nodup ↔
      KeysDiffer ((Grammar.ofBound bound).placeholders text)) ∧
    ∀ registry sizeLimit pattern,
      Pattern.tryCompile text registry (Grammar.ofBound bound) sizeLimit = .ok pattern →
      ∀ input params, pattern.extract input = some params →
        ∃ regex captures, pattern.regex = some regex ∧ regex.captures? input = some captures ∧
          captures.length = pattern.groupCount ∧
          params.toList.Perm (lastEntries (((Grammar.ofBound bound).keys text).zip
            (captures.map fun capture => capture.getD ""))) ∧
          (((Grammar.ofBound bound).placeholders text).length ≤ captures.length →
            (params.size = ((Grammar.ofBound bound).placeholders text).length ↔
              KeysDiffer ((Grammar.ofBound bound).placeholders text))) := by
  have length := (Grammar.ofBound bound).length_keys text
  have keys := (Grammar.ofBound bound).keys_eq_keysFrom text
  have distinct : ((Grammar.ofBound bound).keys text).Nodup ↔
      KeysDiffer ((Grammar.ofBound bound).placeholders text) := by
    rw [keys, nodup_keysFrom_iff]
  refine ⟨length, ?_, distinct, ?_⟩
  · intro index key
    rw [keys, getElem?_keysFrom, Option.map_eq_some_iff, Nat.zero_add]
    refine exists_congr fun placeholder => and_congr_right fun _ => ?_
    rw [isNumeral_iff, Placeholder.key]
    cases placeholder.prop with
    | none => simp [eq_comm]
    | some prop => simp
  · intro registry sizeLimit pattern compiles input params extracted
    obtain ⟨regex, hasRegex, patternKeys⟩ := Pattern.regex_of_tryCompile compiles
    rw [Pattern.extract_of_regex hasRegex, patternKeys, Option.map_eq_some_iff] at extracted
    obtain ⟨captures, captured, rfl⟩ := extracted
    have entries := Pattern.toList_paramsOf_perm captures ((Grammar.ofBound bound).keys text)
    refine ⟨regex, captures, hasRegex, captured, ?_, entries, fun enough => ?_⟩
    · rw [Regex.length_captures captured, Pattern.groupCount_of_regex hasRegex]
    · rw [← Std.ExtTreeMap.length_toList, entries.length_eq, ← length, ← distinct]
      exact length_lastEntries_zip_iff (by rwa [List.length_map, length])

/-- The first placeholder has the number of the second as its property, and loses its value. Two
zeros are not a number. -/
theorem keys_shared_iff_digits :
    ∃ pattern params, Pattern.tryCompile "[digit:0]-[digit:]-[digit:00]" Registry.builtin
        (Grammar.ofBound 64) defaultSizeLimit = .ok pattern ∧
      pattern.extract "1-2-3" = some params ∧
      params.toList.Perm [("0", "2"), ("00", "3")] ∧ params.size ≠ 3 := by
  have reported : ((Pattern.tryCompile "[digit:0]-[digit:]-[digit:00]" Registry.builtin
      (Grammar.ofBound 64) defaultSizeLimit).toOption.map fun pattern =>
        ((pattern.extract "1-2-3").isSome,
          pattern.regex.bind fun regex => regex.captures? "1-2-3")) =
        some (true, some [some "1", some "2", some "3"]) := by
    decide +kernel
  obtain ⟨pattern, compiles, seen⟩ := Pattern.exists_ok_of_map reported
  simp only [Prod.mk.injEq] at seen
  obtain ⟨isSome, found⟩ := seen
  obtain ⟨params, extracted⟩ := Option.isSome_iff_exists.mp isSome
  obtain ⟨_, _, _, matched⟩ := keys_shared_iff 64 "[digit:0]-[digit:]-[digit:00]"
  obtain ⟨regex, captures, hasRegex, captured, _, entries, size⟩ :=
    matched _ _ pattern compiles _ params extracted
  obtain rfl : captures = [some "1", some "2", some "3"] := by
    rw [hasRegex, Option.bind_some, captured, Option.some_inj] at found
    exact found
  have keys : (Grammar.ofBound 64).keys "[digit:0]-[digit:]-[digit:00]" = ["0", "0", "00"] := by
    decide +kernel
  have placeholders : (Grammar.ofBound 64).placeholders "[digit:0]-[digit:]-[digit:00]" =
      [⟨"digit", some "0"⟩, ⟨"digit", none⟩, ⟨"digit", some "00"⟩] := by
    decide +kernel
  rw [keys] at entries
  rw [placeholders] at size
  refine ⟨pattern, params, compiles, extracted, entries, fun full => ?_⟩
  have differ := (size (Nat.le_refl 3)).mp full
  exact differ.numerals "0" (by decide) 0 (by decide) (isNumeral_toString 0)

end Stencil
