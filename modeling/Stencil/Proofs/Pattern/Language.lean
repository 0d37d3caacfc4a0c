import Stencil.Proofs.Pattern.BuiltinValues
import Stencil.Proofs.Pattern.Compilation
import Stencil.Proofs.Pattern.Filling
import Stencil.Proofs.Regex.Matching
import Stencil.Regex.Estimate

/-!
The inputs that patterns over the built-in filters match.

Owns `UsesBuiltins`, the registries in which the filters of a pattern are the built-in ones, and the
expression that such a pattern is compiled to (`tryCompile_builtin`). The main statement is
`isMatch_iff_fill`: nothing but the size limit keeps such a pattern from compiling, and it matches
exactly the texts that it makes when its placeholders are filled with values of their filters.

Which of several fillings is captured is not told here.
-/

namespace Stencil

open Regex Regex.Reader

/-- Every filter that pieces name is registered with its built-in fragment. -/
def UsesBuiltins (registry : Registry) (pieces : List Piece) : Prop :=
  ∀ placeholder ∈ holesOf pieces, ∃ fragment,
    (placeholder.filter, fragment) ∈ builtinFilters ∧
      registry.get? placeholder.filter = some fragment

/-- The expressions of pieces before which there are the given number of groups. -/
def builtinExprs : Nat → List Piece → List Expr
  | _, [] => []
  | groups, .char c :: rest => .literal [c] :: builtinExprs groups rest
  | groups, .hole placeholder :: rest =>
    .group (groups + 1) (valueExpr placeholder.filter) :: builtinExprs (groups + 1) rest

/-! ### Compilation -/

/-- The parts that pieces over the built-in filters are read as. -/
private theorem read_pieces {registry : Registry} {pieces : List Piece}
    (builtin : UsesBuiltins registry pieces) :
    ∃ sources, pieces.mapM (Pattern.pieceSource registry) = .ok sources ∧
      ∀ parts groups names, ∃ added : List Part,
        added.map Part.expr = builtinExprs groups pieces ∧ (∀ part ∈ added, part.depth ≤ 5) ∧
          ∀ tail, (between parts groups names).read (sources.flatten ++ tail) =
            (between (added.reverse ++ parts) (groups + (holesOf pieces).length) names).read
              tail := by
  induction pieces with
  | nil => exact ⟨[], rfl, fun parts groups names => ⟨[], rfl, by simp, fun _ => rfl⟩⟩
  | cons piece rest inductionHypothesis =>
      cases piece with
      | char c =>
          obtain ⟨sources, compiles, reads⟩ := inductionHypothesis builtin
          refine ⟨Pattern.escapeChar c :: sources, ?_, fun parts groups names => ?_⟩
          · rw [List.mapM_cons, compiles]
            rfl
          · obtain ⟨added, exprs, depths, whole⟩ :=
              reads ({ expr := .literal [c] } :: parts) groups names
            refine ⟨{ expr := .literal [c] } :: added, congrArg _ exprs, ?_, fun tail => ?_⟩
            · rw [List.forall_mem_cons]
              exact ⟨Nat.zero_le _, depths⟩
            · rw [List.flatten_cons, List.append_assoc, read_escapeChar, whole, List.reverse_cons,
                List.append_assoc]
              rfl
      | hole placeholder =>
          rw [UsesBuiltins, holesOf_hole, List.forall_mem_cons] at builtin
          obtain ⟨⟨fragment, listed, registered⟩, builtinRest⟩ := builtin
          obtain ⟨sources, compiles, reads⟩ := inductionHypothesis builtinRest
          refine ⟨Pattern.enclose fragment :: sources, ?_, fun parts groups names => ?_⟩
          · rw [List.mapM_cons, compiles, Pattern.pieceSource, registered]
            rfl
          · obtain ⟨depth, small, readsHole⟩ := read_builtin listed parts groups names
            obtain ⟨added, exprs, depths, whole⟩ := reads
              ({ expr := .group (groups + 1) (valueExpr placeholder.filter), depth } :: parts)
              (groups + 1) names
            refine ⟨{ expr := .group (groups + 1) (valueExpr placeholder.filter), depth } :: added,
              congrArg _ exprs, ?_, fun tail => ?_⟩
            · rw [List.forall_mem_cons]
              exact ⟨small, depths⟩
            · rw [List.flatten_cons, List.append_assoc, readsHole, whole, List.reverse_cons,
                List.append_assoc, holesOf_hole, List.length_cons, Nat.add_right_comm groups 1]
              rfl

/-- A pattern over the built-in filters compiles to the anchored expressions of its pieces, if the
size limit allows it. -/
theorem tryCompile_builtin [Measure] {registry : Registry} {grammar : Grammar} {text : String}
    (builtin : UsesBuiltins registry (grammar.pieces text.toList)) :
    ∃ source, ∀ sizeLimit, Pattern.tryCompile text registry grammar sizeLimit =
      Pattern.outcome text (keysOf (grammar.pieces text.toList)) sizeLimit source
        (.ok (anchored (builtinExprs 0 (grammar.pieces text.toList)))) := by
  obtain ⟨sources, compiles, reads⟩ := read_pieces builtin
  obtain ⟨added, exprs, depths, whole⟩ := reads [{ expr := .look .textStart }] 0 []
  refine ⟨Pattern.assembled sources, fun sizeLimit => ?_⟩
  rw [Pattern.tryCompile_of_sources compiles]
  refine congrArg _ ?_
  have shallow : ∀ part ∈ added, part.depth < greatestDepth :=
    fun part present => Nat.lt_of_le_of_lt (depths part present) (by decide)
  unfold Pattern.assembled
  rw [ofText_anchored whole, if_pos shallow, exprs]

/-! ### Matching -/

/-- The expressions of pieces pass over exactly the fillings with values. -/
theorem spansInTurn_builtinExprs (pieces : List Piece) (groups : Nat) (first last : Place) :
    Expr.SpansInTurn (builtinExprs groups pieces) first last ↔
      ∃ values, List.Forall₂ (fun placeholder value => IsValue placeholder.filter value)
          (holesOf pieces) values ∧
        first.pass? (Piece.fill pieces values) = some last := by
  induction pieces generalizing groups first with
  | nil =>
      constructor
      · intro stays
        exact ⟨[], .nil, congrArg some stays.symm⟩
      · rintro ⟨values, _, passes⟩
        exact (Option.some.inj passes).symm
  | cons piece rest inductionHypothesis =>
      cases piece with
      | char c =>
          simp only [builtinExprs, Expr.SpansInTurn, Expr.Spans, inductionHypothesis, holesOf_char]
          constructor
          · rintro ⟨middle, passesOne, values, areValues, passes⟩
            exact ⟨values, areValues, Place.pass?_trans passesOne passes⟩
          · rintro ⟨values, areValues, passes⟩
            rw [Piece.fill, ← List.singleton_append, Place.pass?_append,
              Option.bind_eq_some_iff] at passes
            obtain ⟨middle, passesOne, passesRest⟩ := passes
            exact ⟨middle, passesOne, values, areValues, passesRest⟩
      | hole placeholder =>
          simp only [builtinExprs, Expr.SpansInTurn, Expr.Spans, inductionHypothesis, holesOf_hole,
            spans_valueExpr]
          constructor
          · rintro ⟨middle, ⟨value, isValue, passesValue⟩, values, areValues, passes⟩
            exact ⟨value :: values, .cons isValue areValues, Place.pass?_trans passesValue passes⟩
          · rintro ⟨values, areValues, passes⟩
            cases areValues with
            | cons isValue areValues =>
                rw [Piece.fill, Place.pass?_append, Option.bind_eq_some_iff] at passes
                obtain ⟨middle, passesValue, passesRest⟩ := passes
                exact ⟨middle, ⟨_, isValue, passesValue⟩, _, areValues, passesRest⟩

/-- Nothing but the size limit keeps a pattern over the built-in filters from compiling, and it
matches exactly the texts that it makes when its placeholders are filled with values. -/
theorem isMatch_iff_fill [Measure] (grammar : Grammar) (text : String) (registry : Registry)
    (builtin : UsesBuiltins registry (grammar.pieces text.toList)) :
    ∃ needed, ∀ sizeLimit,
      (sizeLimit < needed → Pattern.tryCompile text registry grammar sizeLimit =
        .error (.invalidPattern text (Regex.CompileError.tooLarge sizeLimit).message)) ∧
      (needed ≤ sizeLimit → ∃ pattern,
        Pattern.tryCompile text registry grammar sizeLimit = .ok pattern ∧
        ∀ input : String,
          (pattern.isMatch input = true ↔
            ∃ values, List.Forall₂ (fun placeholder value => IsValue placeholder.filter value)
                ((grammar.scan text).map Located.placeholder) values ∧
              Piece.fill (grammar.pieces text.toList) values = input.toList) ∧
          ((pattern.extract input).isSome = true ↔ pattern.isMatch input = true)) := by
  obtain ⟨source, compiles⟩ := tryCompile_builtin builtin
  refine ⟨Measure.bytes (anchored (builtinExprs 0 (grammar.pieces text.toList))),
    fun sizeLimit => ⟨fun tooSmall => ?_, fun enough => ?_⟩⟩
  · rw [compiles]
    exact if_pos tooSmall
  · refine ⟨_, (compiles sizeLimit).trans (if_neg (Nat.not_lt.mpr enough)), fun input => ⟨?_, ?_⟩⟩
    · simp only [Pattern.isMatch, Regex.isMatch, Option.any_some, search_anchored_iff,
        spansInTurn_builtinExprs, grammar.scan_placeholders]
      constructor
      · rintro ⟨last, ⟨values, areValues, passes⟩, atEnd⟩
        refine ⟨values, areValues, ?_⟩
        have whole := (Place.after_eq_of_pass? passes).1
        rw [atEnd, List.append_nil] at whole
        exact whole.symm
      · rintro ⟨values, areValues, whole⟩
        obtain ⟨last, passes, atEnd⟩ := Place.exists_pass? (Place.start input.toList)
          (Piece.fill (grammar.pieces text.toList) values) [] (by simp [Place.start, whole])
        exact ⟨last, ⟨values, areValues, passes⟩, atEnd⟩
    · rw [Pattern.extract_isSome]

/-- A number, a full stop and any printable text: the full stop stands for itself alone. -/
theorem isMatch_iff_fill_number :
    ∃ sizeLimit pattern,
      Pattern.tryCompile "[digit:n].[print:]" Registry.builtin (Grammar.ofBound 64) sizeLimit =
        .ok pattern ∧
      pattern.isMatch "12.x" = true ∧ pattern.isMatch "12x" = false := by
  have pieces : (Grammar.ofBound 64).pieces "[digit:n].[print:]".toList =
      [.hole ⟨"digit", some "n"⟩, .char '.', .hole ⟨"print", none⟩] := by
    decide +kernel
  have builtin : UsesBuiltins Registry.builtin
      ((Grammar.ofBound 64).pieces "[digit:n].[print:]".toList) := by
    rw [pieces]
    intro placeholder named
    simp only [holesOf_hole, holesOf_char, holesOf_nil, List.mem_cons, List.not_mem_nil,
      or_false] at named
    rcases named with rfl | rfl
    · exact ⟨"([0-9]+)", by decide, by decide +kernel⟩
    · exact ⟨"([[:print:]]*?)", by decide, by decide +kernel⟩
  obtain ⟨needed, compiles⟩ := isMatch_iff_fill _ "[digit:n].[print:]" _ builtin
  obtain ⟨pattern, compiled, matches_iff⟩ := (compiles needed).2 (Nat.le_refl needed)
  refine ⟨needed, pattern, compiled, ?_, ?_⟩
  · rw [(matches_iff "12.x").1, Grammar.scan_placeholders, pieces]
    have number : IsValue "digit" ['1', '2'] :=
      ⟨by simp [builtinChars, CharSet.contains], fun _ => by simp⟩
    have letter : IsValue "print" ['x'] :=
      ⟨by simp [builtinChars, CharSet.contains], fun _ => by simp⟩
    exact ⟨[['1', '2'], ['x']], .cons number (.cons letter .nil), rfl⟩
  · rw [Bool.eq_false_iff, Ne, (matches_iff "12x").1, Grammar.scan_placeholders, pieces]
    rintro ⟨values, areValues, whole⟩
    cases areValues with
    | cons _ areValues =>
        cases areValues with
        | cons _ areValues =>
            have hasStop : '.' ∈ "12x".toList := by
              rw [← whole]
              simp [Piece.fill]
            exact absurd hasStop (by decide)

end Stencil
