import Stencil.Proofs.Pattern.Swallowing
import Stencil.Proofs.Regex.Matching
import Stencil.Regex.Estimate

/-!
Whether validated fragments stay within their placeholders.

Owns `Contained`, which says of a pattern that it matches nothing but texts in which its literal text
stands unchanged. A validated fragment is read in a pattern as it is alone, with one exception: one
that ends within a comment swallows the text after its placeholder up to the end of the line. The
main statement is `contained_iff`: this is the only way in which a pattern is not contained.
-/

namespace Stencil

open Regex Regex.Reader

/-- Every input that the pattern matches has the literal text of the pattern in its place: it is a
filling of the pattern with some values. -/
def Contained [Measure] (registry : Registry) (grammar : Grammar) (sizeLimit : Nat)
    (text : String) : Prop :=
  ∀ pattern, Pattern.tryCompile text registry grammar sizeLimit = .ok pattern →
    ∀ input : String, (pattern.isMatch input = true ∨ (pattern.extract input).isSome = true) →
      ∃ values, values.length = (grammar.scan text).length ∧
        Piece.fill (grammar.pieces text.toList) values = input.toList

/-! ### Literal text is read as literal text -/

/-- Whether an expression may stand for a piece: the character itself, or anything for a hole. -/
def StandsFor : Piece → Expr → Prop
  | .char c, expr => expr = .literal [c]
  | .hole _, _ => True

/-- Expressions that stand for pieces pass over fillings of the pieces only. -/
theorem exists_fill_of_spansInTurn {pieces : List Piece} {exprs : List Expr}
    (stand : List.Forall₂ StandsFor pieces exprs) {first last : Place}
    (spans : Expr.SpansInTurn exprs first last) :
    ∃ values, values.length = (holesOf pieces).length ∧
      first.pass? (Piece.fill pieces values) = some last := by
  induction stand generalizing first with
  | nil => exact ⟨[], rfl, congrArg some spans.symm⟩
  | @cons piece expr pieces exprs stands _ inductionHypothesis =>
      obtain ⟨middle, spansOne, spansRest⟩ := spans
      obtain ⟨values, length, passesRest⟩ := inductionHypothesis spansRest
      cases piece with
      | char c =>
          obtain rfl : expr = .literal [c] := stands
          exact ⟨values, length, Place.pass?_trans spansOne passesRest⟩
      | hole placeholder =>
          obtain ⟨value, passesValue⟩ := spansOne.passes
          exact ⟨value :: values, congrArg (· + 1) length, Place.pass?_trans passesValue passesRest⟩

theorem standsFor_partsOf (registry : Registry) (groups : Nat) (pieces : List Piece) :
    List.Forall₂ StandsFor pieces ((partsOf registry groups pieces).map Part.expr) := by
  induction pieces generalizing groups with
  | nil => exact .nil
  | cons piece rest inductionHypothesis =>
      cases piece with
      | char c => exact .cons rfl (inductionHypothesis groups)
      | hole placeholder => exact .cons trivial (inductionHypothesis _)

variable {registry : Registry} {grammar : Grammar}

/-! ### Containment -/

theorem contained_of_ends [Measure] (validated : registry.Validated) {text : String}
    {sizeLimit : Nat} (ends : EndsItsComments registry (grammar.pieces text.toList)) :
    Contained registry grammar sizeLimit text := by
  intro pattern compiles input accepted
  have isMatch : pattern.isMatch input = true := by
    rwa [Pattern.extract_isSome, or_self] at accepted
  obtain ⟨sources, expr, found, parsed, _, rfl⟩ := Pattern.tryCompile_ok compiles
  have whole := ofText_assembled validated ends found
  rw [parsed] at whole
  split at whole
  next =>
    split at whole
    next =>
      obtain rfl := Except.ok.inj whole
      obtain ⟨last, spans, atEnd⟩ := (search_anchored_iff _ _).mp isMatch
      obtain ⟨values, length, passes⟩ :=
        exists_fill_of_spansInTurn (standsFor_partsOf registry 0 _) spans
      refine ⟨values, ?_, ?_⟩
      · rw [length, ← grammar.scan_placeholders, List.length_map]
      · have taken := (Place.after_eq_of_pass? passes).1
        rw [atEnd, List.append_nil] at taken
        exact taken.symm
    next => simp at whole
  next => simp at whole

/-- A pattern that matches an input although a fragment in it ends within a comment: with more
literal text after the placeholder it matches the input just as well. -/
theorem not_contained_of_comment [Measure] (validated : registry.Validated) {text : String}
    {sizeLimit : Nat} {pattern : Pattern} {input : String}
    (compiles : Pattern.tryCompile text registry grammar sizeLimit = .ok pattern)
    (isMatch : pattern.isMatch input = true)
    (unended : ¬ EndsItsComments registry (grammar.pieces text.toList)) :
    ∃ longer, ¬ Contained registry grammar sizeLimit longer := by
  obtain ⟨before, after, regex, _, hasRegex, swallows⟩ :=
    tryCompile_swallowing validated compiles unended
  -- More letters than the input has, all of them on the line of the comment.
  let line := List.replicate (input.toList.length + 1) 'a'
  have letters : (line.map Pattern.escapeChar).flatten = line := by
    simp only [line, List.map_replicate]
    exact List.flatten_replicate_singleton
  have linePieces : grammar.pieces (line ++ after) = line.map Piece.char ++ grammar.pieces after :=
    Grammar.pieces_append_chars (by simp [line]) after
  obtain ⟨pieces, source, compilesLonger⟩ := swallows line (line.map Piece.char)
    (line.map Pattern.escapeChar) linePieces (Pattern.mapM_pieceSource_chars line)
    (by rw [letters]; simp [line])
  refine ⟨String.ofList (before ++ (line ++ after)), fun contained => ?_⟩
  have isMatchLonger : regex.isMatch input = true := by
    simpa [Pattern.isMatch, hasRegex] using isMatch
  obtain ⟨values, _, whole⟩ := contained _ compilesLonger input (.inl isMatchLonger)
  have atLeast := Piece.length_le_fill
    (grammar.pieces (String.ofList (before ++ (line ++ after))).toList) values
  rw [whole, pieces] at atLeast
  simp [List.filter_append, Piece.placeholder?, line] at atLeast
  omega

/-- The patterns of a registry with validated fragments are contained, whatever their text, exactly
if none of them matches anything whose fragments do not all end their comments. -/
theorem contained_iff [Measure] (validated : registry.Validated) (grammar : Grammar)
    (sizeLimit : Nat) :
    (∀ text : String, EndsItsComments registry (grammar.pieces text.toList) →
      Contained registry grammar sizeLimit text) ∧
    ((∀ text, Contained registry grammar sizeLimit text) ↔
      ∀ text pattern input, Pattern.tryCompile text registry grammar sizeLimit = .ok pattern →
        pattern.isMatch input = true →
          EndsItsComments registry (grammar.pieces text.toList)) := by
  refine ⟨fun _ => contained_of_ends validated, fun contained text pattern input compiles isMatch => ?_,
    fun ends text pattern compiles input accepted => ?_⟩
  · by_contra unended
    obtain ⟨longer, escapes⟩ := not_contained_of_comment validated compiles isMatch unended
    exact escapes (contained longer)
  · have isMatch : pattern.isMatch input = true := by
      rwa [Pattern.extract_isSome, or_self] at accepted
    exact contained_of_ends validated (ends text pattern input compiles isMatch) pattern compiles
      input accepted

/-- A comment that ends with its line within the fragment swallows nothing. -/
theorem contained_iff_endedComment :
    let registry := Registry.builtin.register "f" "(?x)(a) # letter\n"
    registry.Validated ∧
      Contained registry (Grammar.ofBound 64) defaultSizeLimit "[f:]X[digit:]" := by
  have validated : (Registry.builtin.register "f" "(?x)(a) # letter\n").Validated :=
    Registry.validated_builtin.register (Registry.tryRegister_of_valid Registry.builtin
      (Grammar.ofBound 64) (by decide +kernel) (by decide +kernel))
  refine ⟨validated, (contained_iff validated _ _).1 _ ?_⟩
  have pieces : (Grammar.ofBound 64).pieces "[f:]X[digit:]".toList =
      [.hole ⟨"f", none⟩, .char 'X', .hole ⟨"digit", none⟩] := by
    decide +kernel
  rw [pieces]
  intro placeholder named fragment registered
  simp only [holesOf_hole, holesOf_char, holesOf_nil, List.mem_cons, List.not_mem_nil,
    or_false] at named
  rw [Registry.get?_register] at registered
  rcases named with rfl | rfl
  · obtain rfl : "(?x)(a) # letter\n" = fragment := by simpa using registered
    decide +kernel
  · have digits : Registry.builtin.get? "digit" = some "([0-9]+)" := by decide +kernel
    obtain rfl : "([0-9]+)" = fragment := by simpa [digits] using registered
    decide +kernel

/-- Two valid fragments, of which the first ends within a comment that the second one ends. -/
def swallowing : Registry := (Registry.builtin.register "f" "(a)(?x)#").register "g" "#\n(b)"

/-- The comment of the first fragment swallows the literal text between the two placeholders: an
input without this text matches. -/
theorem not_contained_swallowing :
    swallowing.Validated ∧
      ∃ pattern, Pattern.tryCompile "[f:]X[g:]" swallowing (Grammar.ofBound 64) defaultSizeLimit =
          .ok pattern ∧
        pattern.isMatch "ab" = true ∧
        ∀ values, Piece.fill ((Grammar.ofBound 64).pieces "[f:]X[g:]".toList) values ≠
          "ab".toList := by
  refine ⟨?_, ?_⟩
  · have first : (Registry.builtin.register "f" "(a)(?x)#").Validated :=
      Registry.validated_builtin.register (Registry.tryRegister_of_valid Registry.builtin
        (Grammar.ofBound 64) (by decide +kernel) (by decide +kernel))
    exact first.register (Registry.tryRegister_of_valid Registry.builtin (Grammar.ofBound 64)
      (by decide +kernel) (by decide +kernel))
  · have compiledMatch : (Pattern.tryCompile "[f:]X[g:]" swallowing (Grammar.ofBound 64)
        defaultSizeLimit).toOption.any (fun pattern => pattern.isMatch "ab") = true := by
      decide +kernel
    cases compiles : Pattern.tryCompile "[f:]X[g:]" swallowing (Grammar.ofBound 64)
        defaultSizeLimit with
    | error cause => simp [compiles, Except.toOption] at compiledMatch
    | ok pattern =>
        rw [compiles] at compiledMatch
        refine ⟨pattern, rfl, compiledMatch, fun values whole => ?_⟩
        have pieces : (Grammar.ofBound 64).pieces "[f:]X[g:]".toList =
            [.hole ⟨"f", none⟩, .char 'X', .hole ⟨"g", none⟩] := by
          decide +kernel
        have literal : 'X' ∈ Piece.fill ((Grammar.ofBound 64).pieces "[f:]X[g:]".toList) values := by
          rw [pieces]
          cases values <;> simp [Piece.fill]
        rw [whole] at literal
        exact absurd literal (by decide)

end Stencil
