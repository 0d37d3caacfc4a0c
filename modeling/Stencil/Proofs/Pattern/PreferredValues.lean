import Stencil.Proofs.Pattern.Extraction
import Stencil.Proofs.Pattern.Language
import Stencil.Proofs.Regex.Preference

/-!
The values that patterns over the built-in filters capture.

Owns `IsFilling`, the values with which a pattern makes an input, and `Before`, the order of
preference among them: the first placeholder is decided first, by the preference of its filter for
long or short values, then the next. The main statement is `extract_preferred`: what is extracted
from an input are the preferred of all values with which the pattern makes the input.
-/

namespace Stencil

open Regex

/-- Values of the filters of pieces with which the pieces make the input. -/
structure IsFilling (pieces : List Piece) (input : List Char) (values : List (List Char)) :
    Prop where
  areValues : List.Forall₂ (fun placeholder value => IsValue placeholder.filter value)
    (holesOf pieces) values
  whole : Piece.fill pieces values = input

/-- A built-in filter prefers one value over another by their lengths. -/
def Beats (name : String) (value other : List Char) : Prop :=
  if prefersShort name then value.length < other.length else other.length < value.length

/-- The values come before the others in the order of preference: the filter of the first placeholder
whose values differ decides. -/
inductive Before : List Placeholder → List (List Char) → List (List Char) → Prop where
  | here {placeholder : Placeholder} {rest : List Placeholder} {value other : List Char}
      {values others : List (List Char)} (beats : Beats placeholder.filter value other) :
      Before (placeholder :: rest) (value :: values) (other :: others)
  | later {placeholder : Placeholder} {rest : List Placeholder} {value : List Char}
      {values others : List (List Char)} (before : Before rest values others) :
      Before (placeholder :: rest) (value :: values) (value :: others)

theorem Beats.asymm {name : String} {value other : List Char} (beats : Beats name value other) :
    ¬Beats name other value := by
  unfold Beats at beats ⊢
  split at beats
  next short =>
    rw [if_pos short]
    omega
  next long =>
    rw [if_neg long]
    omega

/-- Of two different fillings only one can come before the other. -/
theorem Before.asymm {placeholders : List Placeholder} {values others : List (List Char)}
    (before : Before placeholders values others) : ¬Before placeholders others values := by
  induction before with
  | here beats =>
      intro after
      cases after with
      | here beatsBack => exact beats.asymm beatsBack
      | later => exact beats.asymm beats
  | later before inductionHypothesis =>
      intro after
      cases after with
      | here beats => exact beats.asymm beats
      | later after => exact inductionHypothesis after

/-! ### The order of values -/

/-- The ways note nothing, end at the offset or beyond it, and stand in the order of their length. -/
structure InOrder (greedy : Bool) (offset : Nat) (ways : List Way) : Prop where
  marks : ∀ way ∈ ways, way.marks = []
  beyond : ∀ way ∈ ways, offset ≤ way.place.offset
  sorted : ways.Pairwise fun earlier later =>
    if greedy then later.place.offset < earlier.place.offset
    else earlier.place.offset < later.place.offset

private theorem InOrder.moreOrStay {greedy : Bool} {more : Ways} {place : Place}
    (inOrder : InOrder greedy (place.offset + 1) (more place)) :
    InOrder greedy place.offset (Ways.moreOrStay greedy more place) := by
  obtain ⟨marks, beyond, sorted⟩ := inOrder
  cases greedy with
  | true =>
      change InOrder true place.offset (more place ++ [.stay place])
      refine ⟨?_, ?_, ?_⟩
      · simpa [or_imp, forall_and] using marks
      · simpa [or_imp, forall_and] using fun way member => Nat.le_of_succ_le (beyond way member)
      · rw [List.pairwise_append]
        refine ⟨sorted, List.pairwise_singleton _ _, fun way member last memberLast => ?_⟩
        obtain rfl : last = .stay place := by simpa using memberLast
        exact beyond way member
  | false =>
      change InOrder false place.offset (.stay place :: more place)
      refine ⟨?_, ?_, ?_⟩
      · simpa using marks
      · simpa using fun way member => Nat.le_of_succ_le (beyond way member)
      · rw [List.pairwise_cons]
        exact ⟨fun way member => beyond way member, sorted⟩

/-- The ways that read a character and go on stand in the order in which they go on. -/
private theorem InOrder.oneOf_andThen {greedy : Bool} (set : CharSet) {next : Ways}
    (inOrder : ∀ place, InOrder greedy place.offset (next place)) (place : Place) :
    InOrder greedy (place.offset + 1) ((Expr.oneOf set).ways.andThen next place) := by
  have nothing : InOrder greedy (place.offset + 1) [] := ⟨by simp, by simp, .nil⟩
  simp only [Ways.andThen, Expr.ways]
  cases place.after with
  | nil => exact nothing
  | cons c after =>
      by_cases member : set.contains c
      · have same : Way.andThen (.stay ⟨some c, after, place.offset + 1⟩) = id :=
          funext (Way.stay_andThen _)
        simpa [member, same] using inOrder ⟨some c, after, place.offset + 1⟩
      · simpa [member] using nothing

private theorem InOrder.upTo (greedy : Bool) (set : CharSet) (bound : Nat) (place : Place) :
    InOrder greedy place.offset (Ways.upTo greedy (Expr.oneOf set).ways bound place) := by
  induction bound generalizing place with
  | zero => exact ⟨by simp [Ways.upTo, Ways.stay], by simp [Ways.upTo, Ways.stay], by
      simp [Ways.upTo, Ways.stay]⟩
  | succ bound inductionHypothesis =>
      exact InOrder.moreOrStay (InOrder.oneOf_andThen set inductionHypothesis place)

theorem productive_valueExpr (name : String) : (valueExpr name).Productive :=
  ⟨Expr.productive_oneOf _, fun _ => Expr.reads_oneOf _⟩

/-- The ways of a built-in filter stand in the order of its preference. -/
private theorem inOrder_valueExpr (name : String) (place : Place) :
    ∃ offset, InOrder (!prefersShort name) offset ((valueExpr name).ways place) := by
  have anyNumber : ∀ place, InOrder (!prefersShort name) place.offset
      (Ways.anyNumber (!prefersShort name) (Expr.oneOf (builtinChars name)).ways place) :=
    fun place => InOrder.upTo _ _ place.after.length place
  cases short : prefersShort name with
  | true =>
      rw [short] at anyNumber
      refine ⟨place.offset, ?_⟩
      simp only [valueExpr, short, if_true, Expr.ways, Ways.times, Ways.stay_andThen]
      exact anyNumber place
  | false =>
      rw [short] at anyNumber
      refine ⟨place.offset + 1, ?_⟩
      have ways : (valueExpr name).ways = (Expr.oneOf (builtinChars name)).ways.andThen
          (.anyNumber true (Expr.oneOf (builtinChars name)).ways) := by
        simp only [valueExpr, short, Bool.false_eq_true, if_false, Expr.ways, Ways.times,
          Ways.andThen_stay, Bool.not_false]
      rw [ways]
      exact InOrder.oneOf_andThen _ anyNumber place

/-- Of two ways through a built-in filter the earlier one has the value that the filter prefers. -/
private theorem beats_of_split {name : String} {place : Place} {before after : List Way}
    {choice other : Way} (split : (valueExpr name).ways place = before ++ choice :: after)
    (member : other ∈ after) {value otherValue : List Char}
    (passes : place.pass? value = some choice.place)
    (passesOther : place.pass? otherValue = some other.place) : Beats name value otherValue := by
  obtain ⟨offset, _, _, sorted⟩ := inOrder_valueExpr name place
  rw [split, List.pairwise_append, List.pairwise_cons] at sorted
  have order := sorted.2.1.1 other member
  rw [(Place.after_eq_of_pass? passes).2, (Place.after_eq_of_pass? passesOther).2] at order
  unfold Beats
  cases short : prefersShort name with
  | true =>
      simp only [short, Bool.not_true, Bool.false_eq_true, if_false] at order
      rw [if_pos rfl]
      omega
  | false =>
      simp only [short, Bool.not_false, if_true] at order
      rw [if_neg Bool.false_ne_true]
      omega

/-! ### What groups capture -/

/-- The marks that a group notes, latest first. -/
def groupMarks (index first last : Nat) : List (Nat × Nat) :=
  [(groupEnd index, last), (groupStart index, first)]

/-- The marks note the values under the groups that come after the given number of groups, and
nothing under the groups before. -/
structure Notes (text : List Char) (groups : Nat) (values : List (List Char))
    (marks : List (Nat × Nat)) : Prop where
  earlier : ∀ index ≤ groups, Regex.markedPlace? marks (groupStart index) = none ∧
    Regex.markedPlace? marks (groupEnd index) = none
  captures : ∀ index, Regex.capture? marks text (groups + 1 + index) =
    values[index]?.map String.ofList

theorem markedPlace?_append (left right : List (Nat × Nat)) (slot : Nat) :
    Regex.markedPlace? (left ++ right) slot =
      (Regex.markedPlace? left slot).or (Regex.markedPlace? right slot) := by
  simp [Regex.markedPlace?, List.find?_append, Option.map_or]

theorem markedPlace?_groupMarks (index first last other : Nat) :
    Regex.markedPlace? (groupMarks index first last) (groupStart other) =
        (if index = other then some first else none) ∧
      Regex.markedPlace? (groupMarks index first last) (groupEnd other) =
        (if index = other then some last else none) := by
  have startEnd : groupEnd index ≠ groupStart other := by
    simp only [groupStart, groupEnd]
    omega
  have endStart : groupStart index ≠ groupEnd other := by
    simp only [groupStart, groupEnd]
    omega
  have starts : groupStart index = groupStart other ↔ index = other := by
    simp only [groupStart]
    omega
  have ends : groupEnd index = groupEnd other ↔ index = other := by
    simp only [groupEnd]
    omega
  by_cases same : index = other
  · subst same
    simp [Regex.markedPlace?, groupMarks, startEnd]
  · simp [Regex.markedPlace?, groupMarks, startEnd, endStart, starts, ends, same]

theorem Notes.none (text : List Char) (groups : Nat) : Notes text groups [] [] where
  earlier _ _ := ⟨rfl, rfl⟩
  captures _ := rfl

/-- Before the marks of the groups after it, a group notes its value. -/
theorem Notes.cons {text value : List Char} {groups : Nat} {values : List (List Char)}
    {marks : List (Nat × Nat)} {place last : Place} (inText : place.InText text)
    (passes : place.pass? value = some last) (notes : Notes text (groups + 1) values marks) :
    Notes text groups (value :: values)
      (marks ++ groupMarks (groups + 1) place.offset last.offset) where
  earlier index small := by
    obtain ⟨noStart, noEnd⟩ := notes.earlier index (by omega)
    obtain ⟨start, stop⟩ := markedPlace?_groupMarks (groups + 1) place.offset last.offset index
    rw [if_neg (by omega)] at start stop
    rw [markedPlace?_append, markedPlace?_append, noStart, noEnd, start, stop]
    exact ⟨rfl, rfl⟩
  captures index := by
    cases index with
    | zero =>
        obtain ⟨noStart, noEnd⟩ := notes.earlier (groups + 1) (Nat.le_refl _)
        obtain ⟨start, stop⟩ :=
          markedPlace?_groupMarks (groups + 1) place.offset last.offset (groups + 1)
        rw [if_pos rfl] at start stop
        obtain ⟨stands, offset⟩ := Place.after_eq_of_pass? passes
        have captured : (text.drop place.offset).take (last.offset - place.offset) = value := by
          rw [← inText.after_eq, stands, offset, Nat.add_sub_cancel_left, List.take_left]
        simp only [Regex.capture?, Nat.add_zero, markedPlace?_append, noStart, noEnd, start, stop,
          Option.none_or]
        exact congrArg (fun captured => some (String.ofList captured)) captured
    | succ index =>
        obtain ⟨start, stop⟩ := markedPlace?_groupMarks (groups + 1) place.offset last.offset
          (groups + 1 + (index + 1))
        rw [if_neg (by omega)] at start stop
        have rest := notes.captures index
        rw [show groups + 1 + 1 + index = groups + 1 + (index + 1) by omega] at rest
        rw [List.getElem?_cons_succ, ← rest]
        simp only [Regex.capture?, markedPlace?_append, start, stop, Option.or_none]

/-! ### The preferred filling -/

/-- The ways of a pattern to the end of a text. -/
def fillingWays (groups : Nat) (pieces : List Piece) : Ways :=
  Expr.waysInTurn (builtinExprs groups pieces ++ [.look .textEnd])

theorem productive_builtinExprs (groups : Nat) (pieces : List Piece) :
    ∀ part ∈ builtinExprs groups pieces, part.Productive := by
  induction pieces generalizing groups with
  | nil => simp [builtinExprs]
  | cons piece rest inductionHypothesis =>
      cases piece with
      | char c =>
          rw [builtinExprs, List.forall_mem_cons]
          exact ⟨trivial, inductionHypothesis groups⟩
      | hole placeholder =>
          rw [builtinExprs, List.forall_mem_cons]
          exact ⟨productive_valueExpr placeholder.filter, inductionHypothesis (groups + 1)⟩

/-- From a place on which a filling follows a way leads to the end of the text. -/
theorem IsFilling.ways_ne_nil {pieces : List Piece} {place : Place} {values : List (List Char)}
    (isFilling : IsFilling pieces place.after values) (groups : Nat) :
    fillingWays groups pieces place ≠ [] := by
  obtain ⟨last, passes, atEnd⟩ := place.exists_pass? (Piece.fill pieces values) [] (by
    rw [isFilling.whole, List.append_nil])
  have productive : ∀ part ∈ builtinExprs groups pieces ++ [.look .textEnd], part.Productive := by
    rw [List.forall_mem_append]
    exact ⟨productive_builtinExprs groups pieces, by simp [Expr.Productive]⟩
  have spans : Expr.SpansInTurn (builtinExprs groups pieces ++ [.look .textEnd]) place last := by
    rw [Expr.spansInTurn_append]
    refine ⟨last, (spansInTurn_builtinExprs pieces groups place last).mpr
      ⟨values, isFilling.areValues, passes⟩, last, ⟨?_, rfl⟩, rfl⟩
    simp [Look.holds, atEnd]
  obtain ⟨way, member, _⟩ := (Expr.reaches_waysInTurn_iff productive).mpr spans
  exact List.ne_nil_of_mem member

/-- The first way of a pattern to the end of a text notes the preferred of all fillings. -/
theorem preferred_of_head {text : List Char} {pieces : List Piece} {groups : Nat} {place : Place}
    {way : Way} (inText : place.InText text)
    (head : (fillingWays groups pieces place).head? = some way) :
    ∃ values, IsFilling pieces place.after values ∧ Notes text groups values way.marks ∧
      ∀ others, IsFilling pieces place.after others →
        others = values ∨ Before (holesOf pieces) values others := by
  induction pieces generalizing groups place way with
  | nil =>
      have atEnd : fillingWays groups [] place =
          if place.after.isEmpty then [.stay place] else [] := by
        simp only [fillingWays, builtinExprs, List.nil_append, Expr.waysInTurn, Ways.andThen_stay]
        rfl
      rw [atEnd] at head
      split at head
      next done =>
        obtain rfl : Way.stay place = way := by simpa using head
        refine ⟨[], ⟨.nil, ?_⟩, Notes.none text groups, fun others isFilling => .inl ?_⟩
        · exact (List.isEmpty_iff.mp done).symm
        · cases isFilling.areValues
          rfl
      next => simp at head
  | cons piece rest inductionHypothesis =>
      cases piece with
      | char c =>
          have ways : fillingWays groups (.char c :: rest) =
              (Expr.literal [c]).ways.andThen (fillingWays groups rest) := rfl
          rw [ways] at head
          obtain ⟨before, choice, after, onward, split, _, foundOnward, rfl⟩ :=
            Ways.exists_of_head?_andThen head
          have member : choice ∈ (Expr.literal [c]).ways place := by simp [split]
          obtain ⟨next, passes, rfl⟩ : ∃ next, place.pass? [c] = some next ∧ .stay next = choice := by
            simpa [Expr.ways] using member
          have stands : place.after = c :: next.after := (Place.after_eq_of_pass? passes).1
          obtain ⟨values, ⟨areValues, whole⟩, notes, preferred⟩ :=
            inductionHypothesis (inText.pass passes) foundOnward
          refine ⟨values, ⟨areValues, ?_⟩, ?_, fun others isFilling => ?_⟩
          · rw [stands]
            exact congrArg (c :: ·) whole
          · simpa using notes
          · rw [stands] at isFilling
            exact preferred others ⟨isFilling.areValues, (List.cons.inj isFilling.whole).2⟩
      | hole placeholder =>
          have ways : fillingWays groups (.hole placeholder :: rest) =
              (Expr.group (groups + 1) (valueExpr placeholder.filter)).ways.andThen
                (fillingWays (groups + 1) rest) := rfl
          rw [ways] at head
          obtain ⟨before, choice, after, onward, split, none, foundOnward, marks⟩ :=
            Expr.exists_of_head?_group head
          have reaches : ∀ last, (valueExpr placeholder.filter).ways.Reaches place last ↔
              ∃ value, IsValue placeholder.filter value ∧ place.pass? value = some last := by
            intro last
            rw [Expr.reaches_ways_iff (productive_valueExpr _), spans_valueExpr]
          have member : choice ∈ (valueExpr placeholder.filter).ways place := by simp [split]
          obtain ⟨value, isValue, passes⟩ := (reaches choice.place).mp ⟨choice, member, rfl⟩
          obtain ⟨stands, _⟩ := Place.after_eq_of_pass? passes
          obtain ⟨values, ⟨areValues, whole⟩, notes, preferred⟩ :=
            inductionHypothesis (inText.pass passes) foundOnward
          refine ⟨value :: values, ⟨.cons isValue areValues, ?_⟩, ?_, fun others isFilling => ?_⟩
          · rw [Piece.fill, whole, stands]
          · obtain ⟨offset, noMarks, _, _⟩ := inOrder_valueExpr placeholder.filter place
            rw [marks, noMarks choice member]
            exact Notes.cons inText passes notes
          · obtain ⟨areOthers, wholeOthers⟩ := isFilling
            cases areOthers with
            | @cons _ other _ others isOther areOthers =>
                obtain ⟨last, passesOther, left⟩ := place.exists_pass? other
                  (Piece.fill rest others) wholeOthers.symm
                obtain ⟨way, memberOther, rfl⟩ := (reaches last).mpr ⟨other, isOther, passesOther⟩
                have isFillingRest : IsFilling rest way.place.after others :=
                  ⟨areOthers, left.symm⟩
                rw [split, List.mem_append, List.mem_cons] at memberOther
                -- A way before the chosen one leads nowhere, so no filling of the rest follows it.
                rcases memberOther with earlier | rfl | later
                · exact absurd (none way earlier) (isFillingRest.ways_ne_nil _)
                · have same : other = value := by
                    have standsOther := (Place.after_eq_of_pass? passesOther).1
                    rw [stands] at standsOther
                    exact (List.append_cancel_right standsOther).symm
                  subst same
                  rcases preferred others isFillingRest with rfl | before
                  · exact .inl rfl
                  · exact .inr (.later before)
                · exact .inr (.here (beats_of_split split later passes passesOther))

/-! ### Keys and groups -/

/-- The groups of a pattern over the built-in filters are numbered as its placeholders are. -/
theorem groups_builtinExprs (groups : Nat) (pieces : List Piece) :
    (builtinExprs groups pieces).flatMap Expr.groups =
      List.range' (groups + 1) (holesOf pieces).length := by
  induction pieces generalizing groups with
  | nil => rfl
  | cons piece rest inductionHypothesis =>
      cases piece with
      | char c => exact inductionHypothesis groups
      | hole placeholder =>
          rw [builtinExprs, List.flatMap_cons, inductionHypothesis, holesOf_hole, List.length_cons,
            List.range'_succ]
          rfl

theorem lastGroup_builtinExprs (pieces : List Piece) :
    (anchored (builtinExprs 0 pieces)).lastGroup = (holesOf pieces).length :=
  Expr.lastGroup_of_groups ((groups_anchored _).trans (groups_builtinExprs 0 pieces))

/-! ### Extraction -/

/-- What is extracted from an input are values with which the pattern makes the input, preferred to
all other such values. They stand under the keys of their placeholders, and of equal keys the last
one counts. -/
theorem extract_preferred [Measure] (grammar : Grammar) (text : String) (registry : Registry)
    (sizeLimit : Nat) (builtin : UsesBuiltins registry (grammar.pieces text.toList))
    (input : String) (params : Params)
    (extracts : (Pattern.compile text registry grammar sizeLimit).extract input = some params) :
    ∃ values, IsFilling (grammar.pieces text.toList) input.toList values ∧
      (∀ others, IsFilling (grammar.pieces text.toList) input.toList others →
        others = values ∨
          Before ((grammar.scan text).map Located.placeholder) values others) ∧
      (Pattern.compile text registry grammar sizeLimit).keys.length = values.length ∧
      HoldsLast params (Pattern.compile text registry grammar sizeLimit).keys
        (values.map String.ofList) := by
  obtain ⟨source, compiles⟩ := tryCompile_builtin builtin
  obtain ⟨pattern, compiled, extracts⟩ := Pattern.tryCompile_of_extract extracts
  rw [compiles, Pattern.outcome] at compiled
  split at compiled
  next => simp at compiled
  next =>
    obtain rfl := (Except.ok.inj compiled).symm
    simp only [Pattern.extract, Regex.captures?, Regex.groupCount, Option.bind_eq_bind,
      Option.bind_some, Option.bind_eq_some_iff, Option.map_eq_some_iff] at extracts
    obtain ⟨captures, ⟨marks, found, rfl⟩, extracted⟩ := extracts
    rw [search_anchored_eq (productive_builtinExprs 0 _), Option.map_eq_some_iff] at found
    obtain ⟨way, head, rfl⟩ := found
    obtain ⟨values, isFilling, notes, preferred⟩ :=
      preferred_of_head (Place.inText_start input.toList) head
    have length : (holesOf (grammar.pieces text.toList)).length = values.length :=
      isFilling.areValues.length_eq
    have captured : ((List.range (holesOf (grammar.pieces text.toList)).length).map fun index =>
        (Regex.capture? way.marks input.toList (index + 1)).getD "") =
          values.map String.ofList := by
      refine List.ext_getElem? fun index => ?_
      rw [length, List.getElem?_map, List.getElem?_map]
      by_cases inside : index < values.length
      · have capture := notes.captures index
        rw [Nat.zero_add, Nat.add_comm, List.getElem?_eq_getElem inside] at capture
        rw [List.getElem?_range inside, Option.map_some, capture, List.getElem?_eq_getElem inside]
        rfl
      · have outside := Nat.le_of_not_lt inside
        rw [List.getElem?_eq_none outside, List.getElem?_eq_none (by simpa using outside)]
        rfl
    refine ⟨values, isFilling, ?_, ?_, ?_⟩
    · rw [grammar.scan_placeholders]
      exact preferred
    · rw [Pattern.keys_compile, Grammar.keys, length_keysOf, length]
    · obtain rfl := Option.some.inj extracted
      rw [Pattern.keys_compile, Grammar.keys, ← captured, lastGroup_builtinExprs]
      have holds := Pattern.holdsLast_paramsOf
        ((List.range (holesOf (grammar.pieces text.toList)).length).map fun index =>
          Regex.capture? way.marks input.toList (index + 1)) (keysOf (grammar.pieces text.toList))
      rwa [List.map_map] at holds

/-- Printable text before a number is as short as it can be, and the later of two equal keys
counts. -/
theorem extract_preferred_repeatedKey :
    ∃ params, (Pattern.compile "[print:x][digit:x]" Registry.builtin (Grammar.ofBound 64)
        10000).extract "12" = some params ∧ params["x"]? = some "12" := by
  have pieces : (Grammar.ofBound 64).pieces "[print:x][digit:x]".toList =
      [.hole ⟨"print", some "x"⟩, .hole ⟨"digit", some "x"⟩] := by
    decide +kernel
  have builtin : UsesBuiltins Registry.builtin
      ((Grammar.ofBound 64).pieces "[print:x][digit:x]".toList) := by
    rw [pieces]
    intro placeholder named
    simp only [holesOf_hole, holesOf_nil, List.mem_cons, List.not_mem_nil, or_false] at named
    rcases named with rfl | rfl
    · exact ⟨"([[:print:]]*?)", by decide, by decide +kernel⟩
    · exact ⟨"([0-9]+)", by decide, by decide +kernel⟩
  have matched : ((Pattern.compile "[print:x][digit:x]" Registry.builtin
      (Grammar.ofBound 64) 10000).extract "12").isSome = true := by
    rw [Pattern.extract_isSome]
    decide +kernel
  obtain ⟨params, extracts⟩ := Option.isSome_iff_exists.mp matched
  obtain ⟨values, ⟨areValues, whole⟩, preferred, _, holds⟩ :=
    extract_preferred _ _ _ _ builtin _ _ extracts
  rw [Grammar.scan_placeholders, pieces] at preferred
  rw [pieces] at areValues whole
  have nothing : IsValue "print" [] := ⟨by simp, by simp [prefersShort]⟩
  have number : IsValue "digit" ['1', '2'] :=
    ⟨by simp [builtinChars, CharSet.contains], fun _ => by simp⟩
  have shortest : IsFilling [.hole ⟨"print", some "x"⟩, .hole ⟨"digit", some "x"⟩] "12".toList
      [[], ['1', '2']] := ⟨.cons nothing (.cons number .nil), rfl⟩
  have same : values = [[], ['1', '2']] := by
    rcases preferred _ shortest with same | before
    · exact same.symm
    · cases before with
      | here beats => exact absurd beats (by simp [Beats, prefersShort])
      | later before =>
          cases areValues with
          | cons _ areValues =>
              cases areValues with
              | cons _ areValues =>
                  cases areValues
                  simpa [Piece.fill] using whole
  rw [Pattern.keys_compile, Grammar.keys, pieces, same] at holds
  refine ⟨params, extracts, (holds.getElem?_iff _ _).mpr ⟨1, rfl, rfl, fun later after inside => ?_⟩⟩
  exact absurd inside (Nat.not_lt.mpr after)

end Stencil
