import Stencil.Proofs.Matcher.Agreement
import Stencil.Proofs.Pattern.Literals
import Stencil.Proofs.Pattern.PreferredValues

/-!
Values come back from the text that a pattern makes of them.

Owns `Delimited`, which says that the literal text after each placeholder tells where its value
ends. The text that such a pattern makes of values can be made of no others
(`Delimited.eq_of_weave_eq`), so the preference of filters for long or short values has no say. The
main statement is `performAll_roundTrip`: however a matcher came about, it finds in such a text
exactly the values that were filled in, under the keys of their placeholders.
-/

namespace Stencil

/-- The parts of literal text after placeholders tell where their values end: each of them begins
with a character that the filter before it does not take, and only the last may be empty. -/
structure Delimited (placeholders : List Placeholder) (following : List (List Char)) : Prop where
  ends : List.Forall₂ (fun placeholder literal =>
    ∀ c ∈ literal.head?, (builtinChars placeholder.filter).contains c = false)
    placeholders following
  separated : ∀ literal ∈ following.dropLast, literal ≠ []

/-- Values of the filters that placeholders name. -/
def AreValues (placeholders : List Placeholder) (values : List (List Char)) : Prop :=
  List.Forall₂ (fun placeholder value => IsValue placeholder.filter value) placeholders values

instance (name : String) (value : List Char) : Decidable (IsValue name value) :=
  decidable_of_iff
    (value.all (builtinChars name).contains = true ∧ (prefersShort name = false → value ≠ []))
    ⟨fun held => ⟨List.all_eq_true.mp held.1, held.2⟩,
      fun isValue => ⟨List.all_eq_true.mpr isValue.chars, isValue.nonempty⟩⟩

instance (placeholders : List Placeholder) (values : List (List Char)) :
    Decidable (AreValues placeholders values) :=
  inferInstanceAs (Decidable (List.Forall₂ _ placeholders values))

theorem ends_iff {literal : List Char} {chars : CharSet} :
    (literal.head?.all fun c => !chars.contains c) = true ↔
      ∀ c ∈ literal.head?, chars.contains c = false := by
  cases literal <;> simp

instance (placeholders : List Placeholder) (following : List (List Char)) :
    Decidable (Delimited placeholders following) :=
  decidable_of_iff
    (List.Forall₂ (fun placeholder literal =>
        (literal.head?.all fun c => !(builtinChars placeholder.filter).contains c) = true)
        placeholders following ∧
      ∀ literal ∈ following.dropLast, literal ≠ [])
    ⟨fun held => ⟨held.1.imp fun _ _ => ends_iff.mp, held.2⟩,
      fun delimited => ⟨delimited.ends.imp fun _ _ => ends_iff.mpr, delimited.separated⟩⟩

/-! ### One filling for each text -/

theorem exists_weave_eq (literal : List Char) (literals values : List (List Char)) :
    ∃ rest, weave (literal :: literals) values = literal ++ rest := by
  cases values with
  | nil => exact ⟨_, rfl⟩
  | cons value values => exact ⟨_, rfl⟩

/-- A value ends before the first character that its filter does not take. -/
theorem IsValue.takeWhile_append {name : String} {value rest : List Char}
    (isValue : IsValue name value)
    (ends : ∀ c ∈ rest.head?, (builtinChars name).contains c = false) :
    (value ++ rest).takeWhile (builtinChars name).contains = value := by
  rw [List.takeWhile_append_of_pos isValue.chars]
  cases rest with
  | nil => rw [List.takeWhile_nil, List.append_nil]
  | cons c rest =>
      have stops := ends c rfl
      rw [List.takeWhile_cons, stops, if_neg Bool.false_ne_true, List.append_nil]

namespace Delimited

variable {placeholder : Placeholder} {placeholders : List Placeholder} {literal : List Char}
  {following values : List (List Char)}

theorem tail (delimited : Delimited (placeholder :: placeholders) (literal :: following)) :
    Delimited placeholders following where
  ends := by
    cases delimited.ends with
    | cons _ others => exact others
  separated := by
    intro part inner
    cases following with
    | nil => simp at inner
    | cons next rest =>
        exact delimited.separated part (List.mem_cons_of_mem _ inner)

/-- What follows a value begins with a character that its filter does not take, if anything
follows. -/
theorem head_weave (delimited : Delimited (placeholder :: placeholders) (literal :: following))
    (areValues : AreValues placeholders values) :
    ∀ c ∈ (weave (literal :: following) values).head?,
      (builtinChars placeholder.filter).contains c = false := by
  intro c first
  cases delimited.ends with
  | cons ends others =>
      cases literal with
      | cons d literal =>
          obtain ⟨rest, begins⟩ := exists_weave_eq (d :: literal) following values
          rw [begins] at first
          exact ends c first
      | nil =>
          -- Only the last part may be empty, so there is no other placeholder.
          cases following with
          | cons next rest => exact absurd rfl (delimited.separated [] List.mem_cons_self)
          | nil =>
              cases others
              cases areValues
              simp [weave] at first

/-- The text that a pattern makes of values tells the values. -/
theorem eq_of_weave_eq (delimited : Delimited placeholders following)
    {others : List (List Char)} (areValues : AreValues placeholders values)
    (areOthers : AreValues placeholders others) {literal : List Char}
    (same : weave (literal :: following) values = weave (literal :: following) others) :
    values = others := by
  induction placeholders generalizing literal following values others with
  | nil =>
      cases areValues
      cases areOthers
      rfl
  | cons placeholder placeholders inductionHypothesis =>
      cases areValues with
      | @cons _ value _ values isValue areValues =>
          cases areOthers with
          | @cons _ other _ others isOther areOthers =>
              cases following with
              | nil => cases delimited.ends
              | cons next following =>
                  have rest : value ++ weave (next :: following) values =
                      other ++ weave (next :: following) others :=
                    List.append_cancel_left same
                  have sameValue : value = other := by
                    rw [← isValue.takeWhile_append (delimited.head_weave areValues), rest,
                      isOther.takeWhile_append (delimited.head_weave areOthers)]
                  subst sameValue
                  rw [inductionHypothesis delimited.tail areValues areOthers
                    (List.append_cancel_left rest)]

end Delimited

/-! ### Extraction -/

open Regex

/-- If there are as many values as keys and no key comes twice, a map holds each value under the key
beside it and nothing else. -/
theorem HoldsLast.getElem?_iff_of_nodup {params : Params} {keys values : List String}
    (holds : HoldsLast params keys values) (distinct : keys.Nodup) (key value : String) :
    params[key]? = some value ↔ (key, value) ∈ keys.zip values := by
  rw [holds.getElem?_iff, List.mem_iff_getElem?]
  simp only [List.getElem?_zip_eq_some]
  constructor
  · rintro ⟨index, keyHere, valueHere, _⟩
    exact ⟨index, keyHere, valueHere⟩
  · rintro ⟨index, keyHere, valueHere⟩
    refine ⟨index, keyHere, valueHere, fun later after _ keyLater => ?_⟩
    have inside : index < keys.length := (List.getElem?_eq_some_iff.mp keyHere).1
    have same := (List.getElem?_inj inside distinct).mp (keyHere.trans keyLater.symm)
    exact absurd same (Nat.ne_of_lt after)

/-- The captures of the groups whose marks note values are the values. -/
theorem Notes.captures_eq {text : List Char} {values : List (List Char)}
    {marks : List (Nat × Nat)} (notes : Notes text 0 values marks) :
    ((List.range values.length).map fun index => Regex.capture? marks text (index + 1)) =
      values.map fun value => some (String.ofList value) := by
  refine List.ext_getElem (by simp) fun index _ inside => ?_
  have capture := notes.captures index
  rw [Nat.zero_add, Nat.add_comm] at capture
  rw [List.length_map] at inside
  simp [capture, inside]

theorem exists_literals_eq_cons (grammar : Grammar) (text : String) :
    ∃ literal following, grammar.literals text = literal :: following := by
  unfold Grammar.literals
  cases grammar.scan text with
  | nil => exact ⟨_, _, rfl⟩
  | cons located rest => exact ⟨_, _, rfl⟩

/-- If a text can be made of pieces over the built-in filters in one way only, the values of this
way are captured. -/
theorem captures_of_unique {pieces : List Piece} {input : List Char} {values : List (List Char)}
    (isFilling : IsFilling pieces input values)
    (unique : ∀ others, IsFilling pieces input others → others = values) (source : String) :
    Regex.captures? ⟨source, anchored (builtinExprs 0 pieces),
        searchProgram (anchored (builtinExprs 0 pieces))⟩ (String.ofList input) =
      some (values.map fun value => some (String.ofList value)) := by
  have follows : IsFilling pieces (Place.start input).after values := isFilling
  obtain ⟨way, others, first⟩ := List.exists_cons_of_ne_nil (follows.ways_ne_nil 0)
  have head : (fillingWays 0 pieces (Place.start input)).head? = some way := by
    rw [first, List.head?_cons]
  obtain ⟨found, isFound, notes, _⟩ := preferred_of_head (Place.inText_start input) head
  obtain rfl : found = values := unique found isFound
  have search : search (searchProgram (anchored (builtinExprs 0 pieces))) input =
      some way.marks := by
    rw [search_anchored_eq (productive_builtinExprs 0 pieces)]
    exact congrArg (Option.map Way.marks) head
  unfold Regex.captures?
  rw [String.toList_ofList, search, Regex.groupCount, lastGroup_builtinExprs,
    isFilling.areValues.length_eq]
  exact congrArg some notes.captures_eq

theorem Pattern.extract_of_captures {pattern : Pattern} {regex : Regex} {input : String}
    {captures : List (Option String)} (compiled : pattern.regex = some regex)
    (captured : regex.captures? input = some captures) :
    pattern.extract input = some (paramsOf captures pattern.keys) := by
  simp [extract, compiled, captured]

section Filled

variable {registry : Registry} {grammar : Grammar} {text : String} {values : List (List Char)}

theorem isFilling_weave
    (areValues : AreValues ((grammar.scan text).map Located.placeholder) values) :
    IsFilling (grammar.pieces text.toList) (weave (grammar.literals text) values) values where
  areValues := by
    rw [← grammar.scan_placeholders]
    exact areValues
  whole := grammar.fill_eq_weave text (by simpa using areValues.length_eq)

theorem Delimited.isFilling_unique
    (delimited : Delimited ((grammar.scan text).map Located.placeholder)
      (grammar.literals text).tail)
    (areValues : AreValues ((grammar.scan text).map Located.placeholder) values) :
    ∀ others,
      IsFilling (grammar.pieces text.toList) (weave (grammar.literals text) values) others →
        others = values := by
  intro others isFilling
  have areOthers : AreValues ((grammar.scan text).map Located.placeholder) others := by
    rw [grammar.scan_placeholders]
    exact isFilling.areValues
  have same := isFilling.whole
  rw [grammar.fill_eq_weave text (by simpa using areOthers.length_eq)] at same
  obtain ⟨literal, following, parts⟩ := exists_literals_eq_cons grammar text
  rw [parts, List.tail_cons] at delimited
  rw [parts] at same
  exact delimited.eq_of_weave_eq areOthers areValues same

/-- A pattern over the built-in filters whose literal text delimits the values extracts those that
were filled in. -/
theorem extract_weave [Regex.Measure] {sizeLimit : Nat} {pattern : Pattern}
    (builtin : UsesBuiltins registry (grammar.pieces text.toList))
    (delimited : Delimited ((grammar.scan text).map Located.placeholder)
      (grammar.literals text).tail)
    (areValues : AreValues ((grammar.scan text).map Located.placeholder) values)
    (compiles : Pattern.tryCompile text registry grammar sizeLimit = .ok pattern) :
    ∃ params, pattern.extract (String.ofList (weave (grammar.literals text) values)) =
        some params ∧
      HoldsLast params (grammar.keys text) (values.map String.ofList) := by
  obtain ⟨source, assembled⟩ := tryCompile_builtin builtin
  rw [assembled, Pattern.outcome] at compiles
  split at compiles
  next => simp at compiles
  next =>
    obtain rfl := (Except.ok.inj compiles).symm
    have captured := captures_of_unique (isFilling_weave areValues)
      (delimited.isFilling_unique areValues) (String.ofList source)
    refine ⟨_, Pattern.extract_of_captures rfl captured, ?_⟩
    have holds := Pattern.holdsLast_paramsOf
      (values.map fun value => some (String.ofList value)) (keysOf (grammar.pieces text.toList))
    rwa [List.map_map] at holds

end Filled

namespace Matcher

/-- However a matcher came about, it gives back the values that were filled in a pattern over the
built-in filters whose keys differ and whose literal text delimits the values, if the pattern
compiles and the text is not too long: each value stands under the key of its placeholder, and
nothing else is found. -/
theorem performAll_roundTrip [Regex.Measure] {start matcher : Matcher} (made : Made start)
    (steps : List Step) (reached : (start.performAll steps).2 = matcher) (text : String) (values : List (List Char))
    (builtin : UsesBuiltins matcher.registry (matcher.grammar.pieces text.toList))
    (distinct : (matcher.grammar.keys text).Nodup)
    (delimited : Delimited ((matcher.grammar.scan text).map Located.placeholder)
      (matcher.grammar.literals text).tail)
    (areValues : AreValues ((matcher.grammar.scan text).map Located.placeholder) values)
    {pattern : Pattern}
    (compiles : Pattern.tryCompile text matcher.registry matcher.grammar
      matcher.config.regexSizeLimit = .ok pattern)
    (short : byteLength (weave (matcher.grammar.literals text) values) ≤
      matcher.config.maxInputLength) :
    ∃ params,
      (matcher.test (String.ofList (weave (matcher.grammar.literals text) values)) text).1 =
        some params ∧
      ∀ key value, params[key]? = some value ↔
        (key, value) ∈ (matcher.grammar.keys text).zip (values.map String.ofList) := by
  have coherent : matcher.Coherent := by
    rw [← reached]
    exact (performAll_keeps (coherent_of_empty made.empty_cache) steps).1
  obtain ⟨params, extracted, holds⟩ := extract_weave builtin delimited areValues compiles
  refine ⟨params, ?_, holds.getElem?_iff_of_nodup distinct⟩
  rw [← utf8ByteSize_ofList, ← admits_iff] at short
  have same : matcher.afresh text = pattern := Pattern.compile_of_tryCompile compiles
  rw [coherent.test, if_pos short, same, extracted]

/-- Numbers, printable text that is empty and a word come back; before that the filter of the
numbers was another one for a time. -/
theorem performAll_roundTrip_replaced :
    let text := "v[digit:major].[digit:]-[print:]\t[word:w]"
    let steps : List Step :=
      [.register "digit" "(x)", .compile text, .register "digit" "([0-9]+)"]
    ∃ params, ((standard.performAll steps).2.test "v1.20-\tx_y" text).1 = some params ∧
      params["major"]? = some "1" ∧ params["0"]? = some "20" ∧ params["1"]? = some "" ∧
      params["w"]? = some "x_y" := by
  intro text steps
  have grammar : (standard.performAll steps).2.grammar = Grammar.ofBound 64 := by decide +kernel
  have pieces : holesOf ((Grammar.ofBound 64).pieces text.toList) =
      [⟨"digit", some "major"⟩, ⟨"digit", none⟩, ⟨"print", none⟩, ⟨"word", some "w"⟩] := by
    decide +kernel
  have literals : (Grammar.ofBound 64).literals text = [['v'], ['.'], ['-'], ['\t'], []] := by
    decide +kernel
  have keys : (Grammar.ofBound 64).keys text = ["major", "0", "1", "w"] := by decide +kernel
  have builtin : UsesBuiltins (standard.performAll steps).2.registry
      ((standard.performAll steps).2.grammar.pieces text.toList) := by
    rw [grammar, UsesBuiltins, pieces]
    intro placeholder named
    simp only [List.mem_cons, List.not_mem_nil, or_false] at named
    rcases named with rfl | rfl | rfl | rfl
    · exact ⟨"([0-9]+)", by decide, by decide +kernel⟩
    · exact ⟨"([0-9]+)", by decide, by decide +kernel⟩
    · exact ⟨"([[:print:]]*?)", by decide, by decide +kernel⟩
    · exact ⟨"([A-Za-z0-9_]+)", by decide, by decide +kernel⟩
  have areValues : AreValues
      [⟨"digit", some "major"⟩, ⟨"digit", none⟩, ⟨"print", none⟩, ⟨"word", some "w"⟩]
      [['1'], ['2', '0'], [], ['x', '_', 'y']] := by
    decide +kernel
  have delimited : Delimited
      [⟨"digit", some "major"⟩, ⟨"digit", none⟩, ⟨"print", none⟩, ⟨"word", some "w"⟩]
      [['.'], ['-'], ['\t'], []] := by
    decide +kernel
  have compiles : (Pattern.tryCompile text (standard.performAll steps).2.registry
      (standard.performAll steps).2.grammar
      (standard.performAll steps).2.config.regexSizeLimit).toOption.isSome = true := by
    decide +kernel
  cases compiled : Pattern.tryCompile text (standard.performAll steps).2.registry
      (standard.performAll steps).2.grammar (standard.performAll steps).2.config.regexSizeLimit with
  | error cause => simp [compiled, Except.toOption] at compiles
  | ok pattern =>
      obtain ⟨params, tested, holds⟩ := performAll_roundTrip .standard steps rfl text
        [['1'], ['2', '0'], [], ['x', '_', 'y']] builtin (by rw [grammar, keys]; decide)
        (by rwa [grammar, Grammar.scan_placeholders, pieces, literals])
        (by rwa [grammar, Grammar.scan_placeholders, pieces]) compiled
        (by rw [grammar, literals]; decide +kernel)
      rw [grammar, literals] at tested
      rw [grammar, keys] at holds
      exact ⟨params, tested, (holds _ _).mpr (by decide), (holds _ _).mpr (by decide),
        (holds _ _).mpr (by decide), (holds _ _).mpr (by decide)⟩

end Matcher

end Stencil
