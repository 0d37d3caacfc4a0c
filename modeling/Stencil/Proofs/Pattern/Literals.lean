import Mathlib.Data.String.Basic
import Stencil.Proofs.Pattern.Filling

/-!
The literal text of a pattern.

Owns:
- `Grammar.literals`, the text before, between and after the placeholders that the scan of a pattern
  finds, cut out of the pattern at the places that the scan tells;
- `weave`, which lays other texts between them.

The main statement is `fill_eq_weave`: the pieces of a pattern, filled with values, are its literal
text with the values between. Every character of the pattern that belongs to no placeholder is in
the literal text once.
-/

namespace Stencil

/-- The bytes of a text from one place up to but not including another, as characters. -/
def slice (text : String) (start stop : Nat) : List Char :=
  (String.Pos.Raw.extract text ⟨start⟩ ⟨stop⟩).toList

/-- The literal text from a place on: up to the first of the placeholders, between each two that
follow one another, and after the last. -/
def literalsFrom (text : String) (offset : Nat) : List Located → List (List Char)
  | [] => [slice text offset text.utf8ByteSize]
  | located :: rest => slice text offset located.start :: literalsFrom text located.stop rest

/-- The literal text of a pattern: one part more than there are placeholders. -/
def Grammar.literals (grammar : Grammar) (text : String) : List (List Char) :=
  literalsFrom text 0 (grammar.scan text)

/-- Parts of literal text with a value after each of them, as far as there are values. -/
def weave : List (List Char) → List (List Char) → List Char
  | [], _ => []
  | literal :: literals, [] => literal ++ weave literals []
  | literal :: literals, value :: values => literal ++ (value ++ weave literals values)

/-! ### Slices -/

private theorem utf8Len_eq_byteLength (text : List Char) :
    String.utf8Len text = byteLength text := by
  rw [← String.utf8ByteSize_ofList, utf8ByteSize_ofList]

/-- Between the lengths of what stands before it and of that and itself a part is cut out whole. -/
theorem slice_eq {text : String} {before middle after : List Char}
    (divides : text.toList = before ++ (middle ++ after)) :
    slice text (byteLength before) (byteLength before + byteLength middle) = middle := by
  have extracted := String.extract_of_valid before middle after
  rw [utf8Len_eq_byteLength, utf8Len_eq_byteLength, List.append_assoc, ← divides,
    String.ofList_toList] at extracted
  unfold slice
  rw [extracted, String.toList_ofList]

/-! ### Runs of characters -/

/-- The runs of characters between the placeholders among pieces. The first run begins with the
given characters. -/
def runsAfter (run : List Char) : List Piece → List (List Char)
  | [] => [run]
  | .char c :: rest => runsAfter (run ++ [c]) rest
  | .hole _ :: rest => run :: runsAfter [] rest

/-- What is cut out between the placeholders of a text are the runs of its characters. -/
theorem literalsFrom_locate {text : String} {before run : List Char} {pieces : List Piece}
    (whole : text.toList = before ++ (run ++ pieces.flatMap Piece.text)) :
    literalsFrom text (byteLength before) (locate (byteLength before + byteLength run) pieces) =
      runsAfter run pieces := by
  -- The place from which the next part is cut stays where the last placeholder ended, while the
  -- characters since then gather in the run.
  induction pieces generalizing before run with
  | nil =>
      have size : text.utf8ByteSize = byteLength before + byteLength run := by
        rw [← byteLength_toList, whole]
        simp
      rw [locate, literalsFrom, size, slice_eq whole, runsAfter]
  | cons piece rest inductionHypothesis =>
      cases piece with
      | char c =>
          have longer : text.toList = before ++ ((run ++ [c]) ++ rest.flatMap Piece.text) := by
            rw [whole, List.append_assoc run]
            rfl
          rw [locate, runsAfter, ← inductionHypothesis longer, byteLength_append, Nat.add_assoc]
          rfl
      | hole placeholder =>
          have later : text.toList = (before ++ (run ++ placeholder.text)) ++
              ([] ++ rest.flatMap Piece.text) := by
            rw [whole, List.append_assoc before, List.append_assoc run]
            rfl
          rw [locate, literalsFrom, runsAfter, slice_eq whole, ← inductionHypothesis later]
          simp [Nat.add_assoc]

theorem Grammar.literals_eq_runs (grammar : Grammar) (text : String) :
    grammar.literals text = runsAfter [] (grammar.pieces text.toList) := by
  have whole : text.toList = [] ++ ([] ++ (grammar.pieces text.toList).flatMap Piece.text) :=
    (grammar.flatMap_text_pieces text.toList).symm
  exact literalsFrom_locate whole

theorem weave_runsAfter {pieces : List Piece} {values : List (List Char)}
    (length : (holesOf pieces).length = values.length) (run : List Char) :
    weave (runsAfter run pieces) values = run ++ Piece.fill pieces values := by
  induction pieces generalizing run values with
  | nil =>
      obtain rfl : values = [] := List.length_eq_zero_iff.mp length.symm
      simp [runsAfter, weave, Piece.fill]
  | cons piece rest inductionHypothesis =>
      cases piece with
      | char c =>
          rw [runsAfter, inductionHypothesis length, List.append_assoc]
          rfl
      | hole placeholder =>
          cases values with
          | nil => simp at length
          | cons value values =>
              rw [runsAfter, weave, inductionHypothesis (Nat.succ.inj length), List.nil_append]
              rfl

/-- A pattern whose placeholders give way to values is its literal text with the values between. -/
theorem Grammar.fill_eq_weave (grammar : Grammar) (text : String) {values : List (List Char)}
    (length : (grammar.scan text).length = values.length) :
    Piece.fill (grammar.pieces text.toList) values = weave (grammar.literals text) values := by
  have sameLength : (holesOf (grammar.pieces text.toList)).length = values.length := by
    rw [← grammar.scan_placeholders, List.length_map, length]
  rw [grammar.literals_eq_runs, weave_runsAfter sameLength, List.nil_append]

/-- The literal text and the placeholders of a pattern, in turn, are the pattern. -/
theorem Grammar.weave_placeholders (grammar : Grammar) (text : String) :
    weave (grammar.literals text)
      (((grammar.scan text).map Located.placeholder).map Placeholder.text) = text.toList := by
  rw [← grammar.fill_eq_weave text (by simp), grammar.scan_placeholders, grammar.fill_pieces]

/-- The literal text around two placeholders that touch one another, after a character of two
bytes. -/
example : (Grammar.ofBound 8).literals "é[[a:][b:x]." = [['é', '['], [], ['.']] := by
  decide +kernel

end Stencil
