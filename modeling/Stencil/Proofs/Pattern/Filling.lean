import Mathlib.Data.List.Forall2
import Stencil.Proofs.Pattern.Scanning

/-!
Patterns with values in their holes.

Owns `Piece.fill`, the text that the pieces of a pattern make when each placeholder gives way to a
value, with the literal text between them unchanged. The pieces of a pattern, filled with the
placeholders as they are written, make the pattern again (`fill_pieces`), so a filling changes
nothing but the placeholders that the scan of the pattern finds (`scan_placeholders`).
-/

namespace Stencil

/-- The placeholders among pieces, from left to right. -/
def holesOf (pieces : List Piece) : List Placeholder := pieces.filterMap Piece.placeholder?

@[simp] theorem holesOf_nil : holesOf [] = [] := rfl

@[simp] theorem holesOf_char (c : Char) (pieces : List Piece) :
    holesOf (.char c :: pieces) = holesOf pieces :=
  rfl

@[simp] theorem holesOf_hole (placeholder : Placeholder) (pieces : List Piece) :
    holesOf (.hole placeholder :: pieces) = placeholder :: holesOf pieces :=
  rfl

@[simp] theorem holesOf_append (left right : List Piece) :
    holesOf (left ++ right) = holesOf left ++ holesOf right :=
  List.filterMap_append

theorem mem_holesOf {placeholder : Placeholder} {pieces : List Piece} :
    placeholder ∈ holesOf pieces ↔ .hole placeholder ∈ pieces := by
  induction pieces with
  | nil => simp
  | cons piece rest inductionHypothesis =>
      cases piece <;> simp [inductionHypothesis]

/-- There is one key for each placeholder. -/
theorem length_keysOf (pieces : List Piece) : (keysOf pieces).length = (holesOf pieces).length := by
  have counted : ∀ (placeholders : List Placeholder) (unnamed : Nat),
      (keysFrom unnamed placeholders).length = placeholders.length := by
    intro placeholders
    induction placeholders with
    | nil => exact fun _ => rfl
    | cons placeholder rest inductionHypothesis =>
        intro unnamed
        rw [keysFrom]
        split <;> simp [inductionHypothesis]
  exact counted _ 0

/-- The text of pieces whose placeholders give way to values, from left to right. -/
def Piece.fill : List Piece → List (List Char) → List Char
  | [], _ => []
  | .char c :: rest, values => c :: fill rest values
  | .hole _ :: rest, value :: values => value ++ fill rest values
  | .hole _ :: rest, [] => fill rest []

/-- Filled with the placeholders as they are written, pieces make their own text. -/
theorem Piece.fill_placeholders (pieces : List Piece) :
    fill pieces ((holesOf pieces).map Placeholder.text) = pieces.flatMap Piece.text := by
  induction pieces with
  | nil => rfl
  | cons piece rest inductionHypothesis =>
      cases piece with
      | char c => exact congrArg (c :: ·) inductionHypothesis
      | hole placeholder => exact congrArg (placeholder.text ++ ·) inductionHypothesis

/-- A filling is at least as long as the literal text in it. -/
theorem Piece.length_le_fill (pieces : List Piece) (values : List (List Char)) :
    (pieces.filter fun piece => piece.placeholder?.isNone).length ≤ (fill pieces values).length := by
  induction pieces generalizing values with
  | nil => exact Nat.zero_le _
  | cons piece rest inductionHypothesis =>
      cases piece with
      | char c => exact Nat.succ_le_succ (inductionHypothesis values)
      | hole placeholder =>
          cases values with
          | nil => exact inductionHypothesis []
          | cons value values =>
              simp only [fill, List.length_append]
              exact Nat.le_trans (inductionHypothesis values) (Nat.le_add_left _ _)

/-! ### The pieces of a pattern -/

namespace Grammar

variable (grammar : Grammar)

theorem scan_placeholders (pattern : String) :
    (grammar.scan pattern).map Located.placeholder = holesOf (grammar.pieces pattern.toList) := by
  have located : ∀ (pieces : List Piece) (offset : Nat),
      (locate offset pieces).map Located.placeholder = holesOf pieces := by
    intro pieces
    induction pieces with
    | nil => exact fun _ => rfl
    | cons piece rest inductionHypothesis =>
        intro offset
        cases piece with
        | char c => exact inductionHypothesis _
        | hole placeholder => exact congrArg (placeholder :: ·) (inductionHypothesis _)
  exact located _ 0

/-- The pieces of a pattern differ from the pattern in nothing but what its placeholders stand for. -/
theorem fill_pieces (text : List Char) :
    Piece.fill (grammar.pieces text) ((holesOf (grammar.pieces text)).map Placeholder.text) =
      text := by
  rw [Piece.fill_placeholders, flatMap_text_pieces]

end Grammar

end Stencil
