import Stencil.Proofs.Pattern.Keys
import Stencil.Proofs.Pattern.Positions
import Stencil.Proofs.Pattern.Usability

/-!
Patterns put together at a placeholder.

Owns `Located.shift`, a placeholder as it stands after other text. Brackets and colons on either side
of a token cannot hide it or make up another placeholder with it; the main statement is
`composes_at_token`: the placeholders, the keys and the expression of a pattern are those of the
texts before and after a token in it, and those of the token between them.
-/

namespace Stencil

/-- A placeholder as it stands after `offset` more bytes. -/
def Located.shift (offset : Nat) (located : Located) : Located :=
  ⟨located.placeholder, offset + located.start, offset + located.stop⟩

theorem locate_shift (offset start : Nat) (pieces : List Piece) :
    locate (offset + start) pieces = (locate start pieces).map (Located.shift offset) := by
  induction pieces generalizing start with
  | nil => rfl
  | cons piece rest inductionHypothesis =>
      cases piece with
      | char c => rw [locate, locate, Nat.add_assoc, inductionHypothesis]
      | hole placeholder =>
          rw [locate, locate, List.map_cons, Nat.add_assoc, inductionHypothesis]
          rfl

theorem locate_append (offset : Nat) (left right : List Piece) :
    locate offset (left ++ right) =
      locate offset left ++ locate (offset + byteLength (left.flatMap Piece.text)) right := by
  induction left generalizing offset with
  | nil => rfl
  | cons piece rest inductionHypothesis =>
      cases piece with
      | char c =>
          rw [List.cons_append, locate, locate, inductionHypothesis, List.flatMap_cons,
            byteLength_append, Nat.add_assoc]
          rfl
      | hole placeholder =>
          rw [List.cons_append, locate, locate, inductionHypothesis, List.flatMap_cons,
            byteLength_append, Nat.add_assoc]
          rfl

namespace Grammar

section Token

variable {grammar : Grammar} {filter prop : List Char}
  (isToken : IsToken grammar.maxIdentifierLength filter prop) (before after : String)
include isToken

theorem pieces_append_token :
    grammar.pieces (before ++ tokenText filter prop ++ after).toList =
      grammar.pieces before.toList ++
        .hole (tokenPlaceholder filter prop) :: grammar.pieces after.toList := by
  obtain ⟨admits, text⟩ := isToken.admits
  rw [String.toList_append, String.toList_append, List.append_assoc, ← text,
    pieces_append_placeholder admits]

theorem scan_append_token :
    grammar.scan (before ++ tokenText filter prop ++ after) = grammar.scan before ++
      ⟨tokenPlaceholder filter prop, before.utf8ByteSize,
          before.utf8ByteSize + (tokenText filter prop).utf8ByteSize⟩ ::
        (grammar.scan after).map
          (Located.shift (before.utf8ByteSize + (tokenText filter prop).utf8ByteSize)) := by
  rw [scan, pieces_append_token isToken, locate_append, flatMap_text_pieces, byteLength_toList,
    Nat.zero_add, locate, (isToken.admits).2, byteLength_toList, scan, scan, ← locate_shift,
    Nat.add_zero]

omit before after in
theorem placeholders_token :
    grammar.placeholders (tokenText filter prop) = [tokenPlaceholder filter prop] := by
  obtain ⟨admits, text⟩ := isToken.admits
  have pieces := pieces_to_placeholder admits []
  rw [List.nil_append, text] at pieces
  rw [placeholders, scan_placeholders, pieces, Grammar.pieces]
  rfl

theorem placeholders_append_token :
    grammar.placeholders (before ++ tokenText filter prop ++ after) =
      grammar.placeholders before ++ [tokenPlaceholder filter prop] ++
        grammar.placeholders after := by
  simp only [placeholders, scan_placeholders, pieces_append_token isToken, holesOf_append,
    holesOf_hole, List.append_assoc, List.singleton_append]

end Token

/-- The placeholders of a pattern are those before a token in it, the token, and those after it with
their places shifted. So are their keys, in which numbers grow by that of the placeholders before
that have no property; and so is the expression, if all filters are registered. -/
theorem composes_at_token (bound : Nat) (before after : String) {filter prop : List Char}
    (isToken : IsToken (max bound 1) filter prop) :
    (ofBound bound).scan (before ++ tokenText filter prop ++ after) =
      (ofBound bound).scan before ++
        ⟨tokenPlaceholder filter prop, before.utf8ByteSize,
            before.utf8ByteSize + (tokenText filter prop).utf8ByteSize⟩ ::
          ((ofBound bound).scan after).map
            (Located.shift (before.utf8ByteSize + (tokenText filter prop).utf8ByteSize)) ∧
    (ofBound bound).keys (before ++ tokenText filter prop ++ after) =
      (ofBound bound).keys before ++
        raisedKeys (unnamedCount ((ofBound bound).placeholders before))
          [tokenPlaceholder filter prop] ((ofBound bound).keys (tokenText filter prop)) ++
        raisedKeys (unnamedCount ((ofBound bound).placeholders before) +
            unnamedCount [tokenPlaceholder filter prop])
          ((ofBound bound).placeholders after) ((ofBound bound).keys after) ∧
    ∀ registry, Known registry
        ((ofBound bound).pieces (before ++ tokenText filter prop ++ after).toList) →
      ∃ first fragment last, registry.get? (String.ofList filter) = some fragment ∧
        Pattern.source registry ((ofBound bound).pieces before.toList) =
          .ok ("^" ++ first ++ "$") ∧
        Pattern.source registry ((ofBound bound).pieces after.toList) =
          .ok ("^" ++ last ++ "$") ∧
        Pattern.source registry
            ((ofBound bound).pieces (before ++ tokenText filter prop ++ after).toList) =
          .ok ("^" ++ first ++ ("(?:" ++ fragment ++ ")") ++ last ++ "$") := by
  have isToken : IsToken (ofBound bound).maxIdentifierLength filter prop := isToken
  refine ⟨scan_append_token isToken before after, ?_, ?_⟩
  · rw [keys_eq_keysFrom, keys_eq_keysFrom, keys_eq_keysFrom, keys_eq_keysFrom,
      placeholders_append_token isToken, placeholders_token isToken, raisedKeys_keysFrom,
      raisedKeys_keysFrom, keysFrom_append, keysFrom_append, unnamedCount_append, Nat.zero_add,
      Nat.zero_add]
  · intro registry known
    obtain ⟨sources, found⟩ := known.exists_sources
    rw [pieces_append_token isToken] at found
    obtain ⟨firstSources, others, firstFound, rest, rfl⟩ := Pattern.mapM_pieceSource_append_ok found
    obtain ⟨tokenSource, lastSources, tokenFound, lastFound, rfl⟩ :=
      Pattern.mapM_pieceSource_cons_ok rest
    obtain ⟨fragment, registered, rfl⟩ := Pattern.pieceSource_hole_ok tokenFound
    refine ⟨String.ofList firstSources.flatten, fragment, String.ofList lastSources.flatten,
      registered, ?_, ?_, ?_⟩
    · rw [Pattern.source_of_sources firstFound, Pattern.ofList_assembled]
    · rw [Pattern.source_of_sources lastFound, Pattern.ofList_assembled]
    · rw [pieces_append_token isToken, Pattern.source_of_sources found, Pattern.ofList_assembled,
        List.flatten_append, List.flatten_cons, String.ofList_append, String.ofList_append,
        Pattern.ofList_enclose]
      simp only [String.append_assoc]

/-- A bracket that is left open before the token, and a colon and a bracket right after it. -/
theorem composes_at_token_halfOpen :
    IsToken (max 64 1) "alpha".toList [] ∧
    (ofBound 64).scan "[digit:[alpha:]:][digit:]]" =
      [⟨⟨"alpha", none⟩, 7, 15⟩, ⟨⟨"digit", none⟩, 17, 25⟩] ∧
    (ofBound 64).keys "[digit:[alpha:]:][digit:]]" = ["0", "1"] ∧
    ∃ first last,
      Pattern.source Registry.builtin ((ofBound 64).pieces "[digit:".toList) =
        .ok ("^" ++ first ++ "$") ∧
      Pattern.source Registry.builtin ((ofBound 64).pieces ":][digit:]]".toList) =
        .ok ("^" ++ last ++ "$") ∧
      Pattern.source Registry.builtin ((ofBound 64).pieces "[digit:[alpha:]:][digit:]]".toList) =
        .ok ("^" ++ first ++ "(?:([A-Za-z]+))" ++ last ++ "$") := by
  have letters : "alpha".toList.all isWordChar = true := by decide +kernel
  have isToken : IsToken (max 64 1) "alpha".toList [] :=
    ⟨fun c member => (isWordChar_iff c).mp (List.all_eq_true.mp letters c member), by decide,
      by simp, by decide⟩
  obtain ⟨scan, keys, sources⟩ := composes_at_token 64 "[digit:" ":][digit:]]" isToken
  have whole : "[digit:" ++ tokenText "alpha".toList [] ++ ":][digit:]]" =
      "[digit:[alpha:]:][digit:]]" := by
    decide +kernel
  rw [whole] at scan keys sources
  refine ⟨isToken, scan.trans (by decide +kernel), keys.trans (by decide +kernel), ?_⟩
  obtain ⟨first, fragment, last, registered, firstFound, lastFound, found⟩ :=
    sources Registry.builtin (by decide +kernel)
  have alpha : Registry.builtin.get? "alpha" = some "([A-Za-z]+)" := by decide +kernel
  obtain rfl : "([A-Za-z]+)" = fragment := Option.some.inj (alpha.symm.trans registered)
  exact ⟨first, last, firstFound, lastFound, found⟩

end Grammar

end Stencil
