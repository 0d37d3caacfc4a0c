import Stencil.Proofs.Boundaries
import Stencil.Proofs.Pattern.AssembledSource

/-!
The scan of a pattern by byte offsets.

Owns:
- `Cursor.Stands`, the cursors at places between characters;
- `Cursor.Advances`, what a round does to the characters before and after such a cursor;
- `Cursor.Reaches`, the cursors that a scan comes to;
- `Cursor.IsSafe`, what is asked of them.

The main statement is `scan_between_characters`. The brackets, colons and word characters that the
cursor looks for are ASCII, so the places behind them are between characters, however the characters
around them are encoded, and no offset passes the end of the pattern. The brackets ahead become
fewer in each round, so there are no more rounds than brackets and one. What the scan finds and
what it puts together are the placeholders and the expression that the pieces of the pattern give.
-/

namespace Stencil

open Offset (add cut isBoundary)

/-! ### Words -/

theorem isWordByte_iff {byte : UInt8} :
    isWordByte byte = true ↔
      (0x30 ≤ byte.toNat ∧ byte.toNat ≤ 0x39) ∨ (0x41 ≤ byte.toNat ∧ byte.toNat ≤ 0x5a) ∨
        (0x61 ≤ byte.toNat ∧ byte.toNat ≤ 0x7a) ∨ byte.toNat = 0x5f := by
  simp only [isWordByte, Bool.or_eq_true, Bool.and_eq_true, decide_eq_true_eq, beq_iff_eq, or_assoc,
    UInt8.le_iff_toNat_le, ← UInt8.toNat_inj]
  rfl

theorem isWordChar_iff_code {c : Char} :
    isWordChar c = true ↔
      (0x30 ≤ c.val.toNat ∧ c.val.toNat ≤ 0x39) ∨ (0x41 ≤ c.val.toNat ∧ c.val.toNat ≤ 0x5a) ∨
        (0x61 ≤ c.val.toNat ∧ c.val.toNat ≤ 0x7a) ∨ c.val.toNat = 0x5f := by
  have codes : 'A'.val.toNat = 0x41 ∧ 'Z'.val.toNat = 0x5a ∧ 'a'.val.toNat = 0x61 ∧
      'z'.val.toNat = 0x7a ∧ '0'.val.toNat = 0x30 ∧ '9'.val.toNat = 0x39 ∧
      '_'.val.toNat = 0x5f := by
    decide
  rw [Grammar.isWordChar_iff_val, ← Char.val_inj, ← UInt32.toNat_inj]
  simp only [UInt32.le_iff_toNat_le]
  omega

/-- The word bytes that a text begins with are those of its word characters. -/
theorem takeWhile_isWordByte (text : List Char) :
    (text.flatMap String.utf8EncodeChar).takeWhile isWordByte =
      (text.takeWhile isWordChar).flatMap String.utf8EncodeChar := by
  induction text with
  | nil => rfl
  | cons c rest inductionHypothesis =>
      rw [List.flatMap_cons]
      rcases utf8EncodeChar_cases c with
        ⟨_, byte, encoding, code⟩ | ⟨wide, first, later, encoding, high, _⟩
      · have same : isWordByte byte = true ↔ isWordChar c = true := by
          rw [isWordByte_iff, isWordChar_iff_code, code]
        rw [encoding, List.singleton_append]
        by_cases isWord : isWordChar c = true
        · rw [List.takeWhile_cons_of_pos (same.mpr isWord), List.takeWhile_cons_of_pos isWord,
            List.flatMap_cons, encoding, inductionHypothesis, List.singleton_append]
        · rw [List.takeWhile_cons_of_neg (mt same.mp isWord), List.takeWhile_cons_of_neg isWord,
            List.flatMap_nil]
      · have noByte : ¬isWordByte first = true := by
          rw [isWordByte_iff]
          omega
        have noChar : ¬isWordChar c = true := by
          rw [isWordChar_iff_code]
          omega
        rw [encoding, List.cons_append, List.takeWhile_cons_of_neg noByte,
          List.takeWhile_cons_of_neg noChar, List.flatMap_nil]

/-- Word bytes are counted within the bound as word characters are. -/
theorem length_wordBytes (grammar : Grammar) (text : List Char) :
    (((text.flatMap String.utf8EncodeChar).take grammar.maxIdentifierLength).takeWhile
      isWordByte).length = (grammar.word text).length := by
  rw [← List.take_takeWhile, takeWhile_isWordByte, List.length_take, length_flatMap_utf8EncodeChar,
    Grammar.byteLength_of_isWord List.all_takeWhile, Grammar.word, List.length_take]

/-! ### Pieces that a round goes past -/

namespace Grammar

variable {grammar : Grammar}

theorem placeholder?_ne_none {text afterColon later : List Char} (named : grammar.word text ≠ [])
    (colon : text.drop (grammar.word text).length = ':' :: afterColon)
    (bracket : afterColon.drop (grammar.word afterColon).length = ']' :: later) :
    grammar.placeholder? text ≠ none := by
  unfold placeholder?
  simp [named, colon, bracket]

/-- A property that is not written is none. -/
theorem Admits.prop_eq {placeholder : Placeholder} (admits : grammar.Admits placeholder) :
    (if (placeholder.prop.getD "").isEmpty then none else some (placeholder.prop.getD "")) =
      placeholder.prop := by
  cases named : placeholder.prop with
  | none => rfl
  | some prop =>
      have notEmpty := (admits.prop prop named).2
      rw [ne_eq, String.toList_eq_nil_iff, ← String.isEmpty_iff] at notEmpty
      exact if_neg notEmpty

section Line

variable {line : List Char} (noBracket : '[' ∉ line)
include noBracket

theorem pieces_chars : grammar.pieces line = line.map Piece.char := by
  have whole : grammar.pieces (line ++ []) = line.map Piece.char ++ grammar.pieces [] :=
    pieces_append_chars noBracket []
  rwa [List.append_nil, pieces, List.append_nil] at whole

theorem pieces_chars_placeholder {placeholder : Placeholder} (admits : grammar.Admits placeholder)
    (later : List Char) :
    grammar.pieces (line ++ (placeholder.text ++ later)) =
      line.map Piece.char ++ .hole placeholder :: grammar.pieces later := by
  rw [pieces_append_chars noBracket, pieces_placeholder admits]

theorem pieces_chars_bracket {rest : List Char} (none : grammar.placeholder? rest = none) :
    grammar.pieces (line ++ '[' :: rest) =
      (line ++ ['[']).map Piece.char ++ grammar.pieces rest := by
  rw [pieces_append_chars noBracket, pieces_bracket_none none, List.map_append, List.append_assoc]
  rfl

end Line

end Grammar

theorem locate_chars (offset : Nat) (line : List Char) (pieces : List Piece) :
    locate offset (line.map Piece.char ++ pieces) = locate (offset + byteLength line) pieces := by
  induction line generalizing offset with
  | nil => rfl
  | cons c rest inductionHypothesis =>
      rw [List.map_cons, List.cons_append, locate, inductionHypothesis, byteLength_cons,
        Nat.add_assoc]

namespace Pattern

variable {registry : Registry}

theorem bodySource_chars (line : List Char) :
    bodySource registry (line.map Piece.char) = .ok (escape line) := by
  rw [bodySource, mapM_pieceSource_chars]
  rfl

theorem bodySource_chars_unknown {placeholder : Placeholder}
    (unknown : registry.get? placeholder.filter = none) (line : List Char) (pieces : List Piece) :
    bodySource registry (line.map Piece.char ++ .hole placeholder :: pieces) =
      .error (.unknownFilter placeholder.filter) := by
  rw [bodySource, List.mapM_append, mapM_pieceSource_chars, mapM_pieceSource_unknown unknown]
  rfl

theorem bodySource_chars_registered {placeholder : Placeholder} {fragment : String}
    (registered : registry.get? placeholder.filter = some fragment) (line : List Char)
    (pieces : List Piece) :
    bodySource registry (line.map Piece.char ++ .hole placeholder :: pieces) =
      (bodySource registry pieces).map fun body => escape line ++ (enclose fragment ++ body) := by
  unfold bodySource
  rw [List.mapM_append, mapM_pieceSource_chars, mapM_pieceSource_registered registered]
  cases pieces.mapM (pieceSource registry) with
  | error cause => rfl
  | ok sources =>
      change Except.ok (line.map escapeChar ++ enclose fragment :: sources).flatten = _
      rw [List.flatten_append, List.flatten_cons, ← List.flatMap_def]
      rfl

end Pattern

/-! ### One bracket -/

namespace Cursor

theorem ok_bind {α β : Type} (value : α) (next : α → Checked β) :
    (Except.ok value : Checked α) >>= next = next value :=
  rfl

section Divided

variable {text : String} {before after : List Char}

theorem divides_after {c : Char} (divides : text.toList = before ++ c :: after) :
    text.toList = (before ++ [c]) ++ after := by
  rw [divides, List.append_assoc, List.singleton_append]

theorem divides_word (grammar : Grammar) (divides : text.toList = before ++ after) :
    text.toList = (before ++ grammar.word after) ++ after.drop (grammar.word after).length := by
  rw [divides, List.append_assoc, grammar.word_append_drop]

/-- Whether an ASCII character follows can be told from its byte. -/
theorem byte_eq_iff (byte : UInt8) (c : Char) (same : byte.toNat = c.val.toNat)
    (ascii : byte.toNat < 0x80) (divides : text.toList = before ++ after) :
    (bytes text)[byteLength before]? = some byte ↔ ∃ rest, after = c :: rest := by
  rw [getElem?_bytes divides, head?_bytes_iff same ascii, List.head?_eq_some_iff]

theorem bracket?_ofList {line : List Char} (noBracket : '[' ∉ line) (rest : List Char) :
    bracket? (String.ofList (line ++ '[' :: rest)) = some (byteLength line) := by
  have others : ∀ c ∈ line, (c != '[') = true := by
    intro c member
    simpa using fun same : c = '[' => noBracket (same ▸ member)
  rw [bracket?, String.toList_ofList, if_pos (by simp), List.takeWhile_append_of_pos others,
    List.takeWhile_cons_of_neg (by simp), List.append_nil]

end Divided

section Bracket

variable {limit : Nat} {cursor : Cursor} (fits : cursor.text.utf8ByteSize ≤ limit)
include fits

/-- One more than the place before a character of one byte is the place behind it. -/
theorem add_one_eq {before rest : List Char} {c : Char} (single : c.utf8Size = 1)
    (divides : cursor.text.toList = before ++ c :: rest) :
    add limit (byteLength before) 1 = .ok (byteLength (before ++ [c])) := by
  have size := utf8ByteSize_of_divides divides
  rw [byteLength_cons, single] at size
  rw [add_eq (by omega), byteLength_append, byteLength_cons, single, byteLength_nil]

theorem wordEnd_eq {before after : List Char} (divides : cursor.text.toList = before ++ after) :
    cursor.wordEnd limit (byteLength before) =
      .ok (byteLength (before ++ cursor.grammar.word after)) := by
  have size := utf8ByteSize_of_divides (divides_word cursor.grammar divides)
  rw [byteLength_append, Grammar.byteLength_of_isWord (cursor.grammar.isWord_word after).1] at size
  rw [wordEnd, drop_bytes divides, length_wordBytes, add_eq (by omega), byteLength_append,
    Grammar.byteLength_of_isWord (cursor.grammar.isWord_word after).1, Nat.add_comm]

theorem located?_of_none {before rest : List Char}
    (divides : cursor.text.toList = before ++ '[' :: rest)
    (noPlaceholder : cursor.grammar.placeholder? rest = none) :
    cursor.located? limit (byteLength before) = .ok none := by
  have filterDivides := divides_after divides
  have filterStops := divides_word cursor.grammar filterDivides
  unfold located?
  rw [add_one_eq fits rfl divides, ok_bind, wordEnd_eq fits filterDivides, ok_bind]
  by_cases empty : cursor.grammar.word rest = []
  · rw [empty, List.append_nil, if_pos (.inl rfl)]
    rfl
  by_cases colon : ∃ afterColon, rest.drop (cursor.grammar.word rest).length = ':' :: afterColon
  · obtain ⟨afterColon, colon⟩ := colon
    rw [colon] at filterStops
    have propDivides := divides_after filterStops
    have propStops := divides_word cursor.grammar propDivides
    have noBracket := mt (byte_eq_iff 0x5d ']' rfl (by decide) propStops).mp
      fun ⟨later, bracket⟩ => Grammar.placeholder?_ne_none empty colon bracket noPlaceholder
    rw [add_one_eq fits rfl filterStops, ok_bind, wordEnd_eq fits propDivides, ok_bind,
      if_pos noBracket]
    exact ite_self _
  · have noColon := mt (byte_eq_iff 0x3a ':' rfl (by decide) filterStops).mp colon
    rw [if_pos (.inr noColon)]
    rfl

theorem located?_of_admits {before later : List Char} {placeholder : Placeholder}
    (admits : cursor.grammar.Admits placeholder)
    (divides : cursor.text.toList = before ++ (placeholder.text ++ later)) :
    cursor.located? limit (byteLength before) =
      .ok (some ⟨placeholder, byteLength before, byteLength (before ++ placeholder.text)⟩) := by
  obtain ⟨filter, filterOf⟩ : ∃ filter, filter = placeholder.filter.toList := ⟨_, rfl⟩
  obtain ⟨prop, propOf⟩ : ∃ prop, prop = (placeholder.prop.getD "").toList := ⟨_, rfl⟩
  have isFilter := filterOf ▸ admits.filter
  have isProp := propOf ▸ admits.isWord_prop
  have written : placeholder.text = '[' :: (filter ++ ':' :: (prop ++ [']'])) := by
    rw [Placeholder.text, filterOf, propOf]
  -- The text as it divides at each of the places that the cursor comes to.
  have opens : cursor.text.toList = before ++ '[' :: (filter ++ ':' :: (prop ++ ']' :: later)) := by
    rw [divides, written]
    simp
  have filterStarts := divides_after opens
  have filterStops : cursor.text.toList =
      (before ++ ['['] ++ filter) ++ ':' :: (prop ++ ']' :: later) := by
    rw [filterStarts, List.append_assoc _ filter]
  have propStarts := divides_after filterStops
  have propStops : cursor.text.toList =
      (before ++ ['['] ++ filter ++ [':'] ++ prop) ++ ']' :: later := by
    rw [propStarts, List.append_assoc _ prop]
  have stops :
      before ++ ['['] ++ filter ++ [':'] ++ prop ++ [']'] = before ++ placeholder.text := by
    rw [written]
    simp
  have colon := (byte_eq_iff 0x3a ':' rfl (by decide) filterStops).mpr ⟨_, rfl⟩
  have bracket := (byte_eq_iff 0x5d ']' rfl (by decide) propStops).mpr ⟨_, rfl⟩
  have named : byteLength (before ++ ['['] ++ filter) ≠ byteLength (before ++ ['[']) := by
    have notEmpty : filter.length ≠ 0 := mt List.length_eq_zero_iff.mp (filterOf ▸ admits.filter_ne)
    rw [byteLength_append _ filter, Grammar.byteLength_of_isWord isFilter.1]
    omega
  unfold located?
  rw [add_one_eq fits rfl opens, ok_bind, wordEnd_eq fits filterStarts, ok_bind,
    Grammar.word_append isFilter rfl, if_neg (not_or.mpr ⟨named, not_not.mpr colon⟩),
    add_one_eq fits rfl filterStops, ok_bind, wordEnd_eq fits propStarts, ok_bind,
    Grammar.word_append isProp rfl, if_neg (not_not.mpr bracket), cut_eq propStarts, ok_bind,
    cut_eq filterStarts, ok_bind, add_one_eq fits rfl propStops, ok_bind, stops, filterOf, propOf,
    String.ofList_toList, String.ofList_toList, admits.prop_eq]
  rfl

end Bracket

/-! ### One round -/

/-- A cursor between the characters before it and those after it. -/
structure Stands (limit : Nat) (cursor : Cursor) (before after : List Char) : Prop where
  fits : cursor.text.utf8ByteSize ≤ limit
  divides : cursor.text.toList = before ++ after
  position : cursor.position = byteLength before

/-- What a round does to the characters before and after a cursor. -/
inductive Advances (grammar : Grammar) : (before after : List Char) → Round →
    (nextBefore nextAfter : List Char) → Prop where
  | exhausted {before after : List Char} (noBracket : '[' ∉ after) :
      Advances grammar before after .exhausted (before ++ after) []
  | found {before line later : List Char} {placeholder : Placeholder} (noBracket : '[' ∉ line)
      (admits : grammar.Admits placeholder) :
      Advances grammar before (line ++ (placeholder.text ++ later))
        (.found ⟨placeholder, byteLength (before ++ line),
          byteLength (before ++ line ++ placeholder.text)⟩)
        (before ++ line ++ placeholder.text) later
  | passed {before line rest : List Char} (noBracket : '[' ∉ line)
      (noPlaceholder : grammar.placeholder? rest = none) :
      Advances grammar before (line ++ '[' :: rest) .passed (before ++ line ++ ['[']) rest

namespace Advances

variable {grammar : Grammar} {before after nextBefore nextAfter : List Char} {round : Round}

theorem divides (advances : Advances grammar before after round nextBefore nextAfter) :
    before ++ after = nextBefore ++ nextAfter := by
  cases advances <;> simp

/-- A round that finds a bracket goes past it. -/
theorem progress (advances : Advances grammar before after round nextBefore nextAfter)
    (finds : round ≠ .exhausted) :
    byteLength before < byteLength nextBefore ∧ nextAfter.count '[' < after.count '[' := by
  have size : '['.utf8Size = 1 := rfl
  cases advances with
  | exhausted => exact absurd rfl finds
  | found =>
      simp only [Placeholder.text, byteLength_append, byteLength_cons, List.count_append,
        List.cons_append, List.count_cons_self]
      omega
  | passed =>
      simp only [byteLength_append, byteLength_cons, List.count_append, List.count_cons_self]
      omega

end Advances

variable {limit : Nat} {cursor : Cursor} {before after : List Char}

theorem Stands.next {nextBefore nextAfter : List Char} {round : Round}
    (stands : cursor.Stands limit before after)
    (advances : Advances cursor.grammar before after round nextBefore nextAfter) :
    (cursor.moveTo (byteLength nextBefore)).Stands limit nextBefore nextAfter :=
  ⟨stands.fits, stands.divides.trans advances.divides, rfl⟩

/-- A round from a place between characters has a result, and goes on to such a place. -/
theorem round_advances (stands : cursor.Stands limit before after) :
    ∃ round nextBefore nextAfter, Advances cursor.grammar before after round nextBefore nextAfter ∧
      cursor.round limit = .ok (round, cursor.moveTo (byteLength nextBefore)) := by
  obtain ⟨fits, divides, position⟩ := stands
  have size := utf8ByteSize_of_divides divides
  have ahead : cut cursor.text cursor.position cursor.text.utf8ByteSize =
      .ok (String.ofList after) := by
    have whole : cursor.text.toList = before ++ (after ++ []) := by rw [divides, List.append_nil]
    rw [position, size, ← byteLength_append, cut_eq whole]
  unfold round
  rw [ahead, ok_bind]
  by_cases bracket : '[' ∈ after
  · obtain ⟨line, rest, rfl, noBracket⟩ := List.eq_append_cons_of_mem bracket
    have opens : cursor.text.toList = (before ++ line) ++ '[' :: rest := by
      rw [divides, List.append_assoc]
    rw [byteLength_append] at size
    rw [bracket?_ofList noBracket, position]
    simp only
    rw [add_eq (by omega), ok_bind, ← byteLength_append]
    cases look : cursor.grammar.placeholder? rest with
    | none =>
        refine ⟨_, _, _, .passed noBracket look, ?_⟩
        rw [located?_of_none fits opens look, ok_bind]
        simp only
        rw [add_one_eq fits rfl opens, ok_bind]
        rfl
    | some found =>
        obtain ⟨placeholder, later⟩ := found
        obtain ⟨admits, rfl⟩ := Grammar.placeholder?_iff.mp look
        refine ⟨_, _, _, .found noBracket admits, ?_⟩
        rw [located?_of_admits fits admits opens, ok_bind]
        rfl
  · refine ⟨_, _, _, .exhausted bracket, ?_⟩
    rw [bracket?, String.toList_ofList, if_neg bracket, size, ← byteLength_append]
    rfl

/-- At the end of a text there is nothing more to look at. -/
theorem round_at_end (limit : Nat) {cursor : Cursor}
    (atEnd : cursor.position = cursor.text.utf8ByteSize) :
    cursor.round limit = .ok (.exhausted, cursor) := by
  have nothing : cursor.text.toList = cursor.text.toList ++ ([] ++ []) := by
    rw [List.append_nil, List.append_nil]
  have ahead := cut_eq nothing
  rw [List.append_nil, byteLength_toList] at ahead
  unfold round
  rw [atEnd, ahead, ok_bind, ← atEnd]
  rfl

/-! ### Runs of rounds -/

theorem scanWithin_eq {rounds : Nat} (stands : cursor.Stands limit before after)
    (enough : after.count '[' < rounds) :
    cursor.scanWithin limit rounds =
      .ok (some (locate (byteLength before) (cursor.grammar.pieces after),
        cursor.moveTo cursor.text.utf8ByteSize)) := by
  induction rounds generalizing cursor before after with
  | zero => omega
  | succ rounds inductionHypothesis =>
      obtain ⟨round, nextBefore, nextAfter, advances, looks⟩ := round_advances stands
      have next := stands.next advances
      have progress := advances.progress
      rw [scanWithin, looks, ok_bind]
      cases advances with
      | exhausted noBracket =>
          have nothing := locate_chars (byteLength before) after []
          rw [List.append_nil] at nothing
          rw [Grammar.pieces_chars noBracket, nothing, ← stands.divides, byteLength_toList]
          rfl
      | found noBracket admits =>
          have fewer := (progress (by simp)).2
          simp only
          rw [inductionHypothesis next (by omega), ok_bind,
            Grammar.pieces_chars_placeholder noBracket admits, locate_chars, locate,
            ← byteLength_append, ← byteLength_append]
          rfl
      | passed noBracket noPlaceholder =>
          have fewer := (progress (by simp)).2
          simp only
          rw [inductionHypothesis next (by omega),
            Grammar.pieces_chars_bracket noBracket noPlaceholder, locate_chars,
            ← byteLength_append, List.append_assoc]
          rfl

/-- The literal text since a place before the cursor, up to one after it. -/
theorem Stands.cut_since {closed run line rest : List Char}
    (stands : cursor.Stands limit (closed ++ run) (line ++ rest)) :
    cut cursor.text (byteLength closed) (byteLength (closed ++ run ++ line)) =
      .ok (String.ofList (run ++ line)) := by
  have divides : cursor.text.toList = closed ++ ((run ++ line) ++ rest) := by
    rw [stands.divides]
    simp only [List.append_assoc]
  rw [List.append_assoc closed, cut_eq divides]

/-- What is put together from a cursor on. The source is complete up to the end of `closed`, and
`run` is the literal text between there and the cursor. -/
theorem assembleWithin_eq {rounds : Nat} {closed run source : List Char} (registry : Registry)
    (stands : cursor.Stands limit (closed ++ run) after) (enough : after.count '[' < rounds) :
    cursor.assembleWithin limit registry rounds (byteLength closed) source =
      .ok (some ((Pattern.bodySource registry
        (run.map Piece.char ++ cursor.grammar.pieces after)).map
          fun body => String.ofList (source ++ body ++ ['$']))) := by
  induction rounds generalizing cursor closed run after source with
  | zero => omega
  | succ rounds inductionHypothesis =>
      obtain ⟨round, nextBefore, nextAfter, advances, looks⟩ := round_advances stands
      have next := stands.next advances
      have progress := advances.progress
      rw [assembleWithin, looks, ok_bind]
      cases advances with
      | exhausted noBracket =>
          rw [← List.append_nil after] at stands
          have size : cursor.text.utf8ByteSize = byteLength (closed ++ run ++ after) :=
            utf8ByteSize_of_divides next.divides
          simp only
          rw [size, stands.cut_since, ok_bind, String.toList_ofList,
            Grammar.pieces_chars noBracket, ← List.map_append, Pattern.bodySource_chars]
          rfl
      | @found line _ placeholder noBracket admits =>
          have fewer := (progress (by simp)).2
          simp only
          rw [Grammar.pieces_chars_placeholder noBracket admits, ← List.append_assoc,
            ← List.map_append]
          cases registered : registry.get? placeholder.filter with
          | none =>
              rw [Pattern.bodySource_chars_unknown registered]
              rfl
          | some fragment =>
              -- The source is complete up to the placeholder, and no text is pending after it.
              have closes : (cursor.moveTo
                  (byteLength (closed ++ run ++ line ++ placeholder.text))).Stands limit
                  (closed ++ run ++ line ++ placeholder.text ++ []) nextAfter := by
                rw [List.append_nil]
                exact next
              simp only
              rw [Pattern.bodySource_chars_registered registered, stands.cut_since, ok_bind,
                String.toList_ofList, inductionHypothesis closes (by omega), List.map_nil,
                List.nil_append]
              change Except.ok (some (Except.map _ (Pattern.bodySource registry
                (cursor.grammar.pieces nextAfter)))) = _
              cases Pattern.bodySource registry (cursor.grammar.pieces nextAfter) with
              | error cause => rfl
              | ok body => simp only [Except.map, List.append_assoc]
      | @passed line _ noBracket noPlaceholder =>
          have fewer := (progress (by simp)).2
          have longer : (cursor.moveTo (byteLength (closed ++ run ++ line ++ ['[']))).Stands limit
              (closed ++ (run ++ (line ++ ['[']))) nextAfter := by
            simpa only [List.append_assoc] using next
          simp only
          rw [inductionHypothesis longer (by omega),
            Grammar.pieces_chars_bracket noBracket noPlaceholder, List.map_append,
            List.append_assoc]
          rfl

theorem nextWithin_ends {rounds : Nat} (stands : cursor.Stands limit before after)
    (enough : after.count '[' < rounds) :
    ∃ found next, cursor.nextWithin limit rounds = .ok (some (found, next)) := by
  induction rounds generalizing cursor before after with
  | zero => omega
  | succ rounds inductionHypothesis =>
      obtain ⟨round, nextBefore, nextAfter, advances, looks⟩ := round_advances stands
      rw [nextWithin, looks, ok_bind]
      cases round with
      | exhausted => exact ⟨_, _, rfl⟩
      | found located => exact ⟨_, _, rfl⟩
      | passed =>
          have fewer := (advances.progress (by simp)).2
          exact inductionHypothesis (stands.next advances) (by omega)

/-- A scan that has found all placeholders stands at the end of the text, and stays there. -/
theorem nextWithin_after_end {rounds further : Nat} {last : Cursor}
    (stands : cursor.Stands limit before after)
    (ends : cursor.nextWithin limit rounds = .ok (some (none, last))) (positive : 0 < further) :
    last.nextWithin limit further = .ok (some (none, last)) := by
  induction rounds generalizing cursor before after with
  | zero => simp [nextWithin, pure, Except.pure] at ends
  | succ rounds inductionHypothesis =>
      obtain ⟨round, nextBefore, nextAfter, advances, looks⟩ := round_advances stands
      have next := stands.next advances
      rw [nextWithin, looks, ok_bind] at ends
      cases advances with
      | exhausted =>
          obtain ⟨_, rfl⟩ := Prod.mk.inj (Option.some.inj (Except.ok.inj ends))
          have atEnd := utf8ByteSize_of_divides next.divides
          obtain ⟨further, rfl⟩ := Nat.exists_eq_succ_of_ne_zero (Nat.ne_of_gt positive)
          rw [nextWithin, round_at_end limit atEnd.symm, ok_bind]
          rfl
      | found => simp [pure, Except.pure] at ends
      | passed => exact inductionHypothesis next ends

/-! ### The scan of a pattern -/

/-- The cursors that the rounds of a scan come to. -/
inductive Reaches (limit : Nat) (start : Cursor) : Cursor → Prop where
  | start : Reaches limit start start
  | round {cursor next : Cursor} {round : Round} (reached : Reaches limit start cursor)
      (looks : cursor.round limit = .ok (round, next)) : Reaches limit start next

/-- The cursor is between characters of its text. The round from there misuses no offset, and goes
on, or tells that no bracket is left. The next placeholder is found, or found missing, in no more
rounds than there are brackets in the text and one; once it is missing, it is missing for ever. -/
structure IsSafe (limit : Nat) (cursor : Cursor) : Prop where
  within : cursor.position ≤ cursor.text.utf8ByteSize
  boundary : isBoundary cursor.text cursor.position = true
  proceeds : ∃ round next, cursor.round limit = .ok (round, next) ∧
    (cursor.position < next.position ∨
      round = .exhausted ∧ next.position = cursor.text.utf8ByteSize)
  ends : ∀ rounds, (bytes cursor.text).count 0x5b < rounds →
    ∃ found next, cursor.nextWithin limit rounds = .ok (some (found, next))
  ended : ∀ rounds last, cursor.nextWithin limit rounds = .ok (some (none, last)) →
    ∀ further, 0 < further → last.nextWithin limit further = .ok (some (none, last))

theorem count_bracket (text : String) : (bytes text).count 0x5b = text.toList.count '[' := by
  rw [bytes_eq_flatMap]
  exact count_flatMap_utf8EncodeChar rfl (by decide) text.toList

theorem Stands.isSafe (stands : cursor.Stands limit before after) : cursor.IsSafe limit := by
  have size := utf8ByteSize_of_divides stands.divides
  have position := stands.position
  refine ⟨by omega, ?_, ?_, fun rounds enough => ?_,
    fun rounds last ends further => nextWithin_after_end stands ends⟩
  · rw [position]
    exact isBoundary_of_divides stands.divides
  · obtain ⟨round, nextBefore, nextAfter, advances, looks⟩ := round_advances stands
    have next := stands.next advances
    refine ⟨round, _, looks, ?_⟩
    by_cases exhausted : round = .exhausted
    · subst exhausted
      cases advances
      exact .inr ⟨rfl, (utf8ByteSize_of_divides next.divides).symm⟩
    · exact .inl (position ▸ (advances.progress exhausted).1)
  · rw [count_bracket, stands.divides, List.count_append] at enough
    exact nextWithin_ends stands (by omega)

section Start

variable {grammar : Grammar} {text : String} (fits : text.utf8ByteSize ≤ limit)
include fits

theorem stands_cursor : (grammar.cursor text).Stands limit [] text.toList := ⟨fits, rfl, rfl⟩

theorem Reaches.exists_stands (reached : Reaches limit (grammar.cursor text) cursor) :
    cursor.text = text ∧ ∃ before after, cursor.Stands limit before after := by
  induction reached with
  | start => exact ⟨rfl, _, _, stands_cursor fits⟩
  | round _ looks inductionHypothesis =>
      obtain ⟨rfl, before, after, stands⟩ := inductionHypothesis
      obtain ⟨_, _, _, advances, same⟩ := round_advances stands
      obtain ⟨_, rfl⟩ := Prod.mk.inj (Except.ok.inj (looks.symm.trans same))
      exact ⟨rfl, _, _, stands.next advances⟩

theorem scanWithin_cursor {rounds : Nat} (enough : text.toList.count '[' < rounds) :
    (grammar.cursor text).scanWithin limit rounds =
      .ok (some (grammar.scan text, (grammar.cursor text).moveTo text.utf8ByteSize)) :=
  scanWithin_eq (stands_cursor fits) enough

theorem assembleWithin_cursor {rounds : Nat} (enough : text.toList.count '[' < rounds)
    (registry : Registry) :
    (grammar.cursor text).assembleWithin limit registry rounds 0 ['^'] =
      .ok (some (Pattern.source registry (grammar.pieces text.toList))) := by
  have stands : (grammar.cursor text).Stands limit ([] ++ []) text.toList := stands_cursor fits
  have assembles : (grammar.cursor text).assembleWithin limit registry rounds 0 ['^'] =
      .ok (some ((Pattern.bodySource registry (grammar.pieces text.toList)).map
        fun body => String.ofList (['^'] ++ body ++ ['$']))) :=
    assembleWithin_eq registry stands enough
  rw [assembles, Pattern.source]
  cases Pattern.bodySource registry (grammar.pieces text.toList) <;> rfl

end Start

/-- Wherever the scan of a pattern comes to, its cursor is safe. In no more rounds than there are
brackets and one the scan finds the placeholders of the pattern and stands at the end, and the
expression of the pattern is put together, or the reason found why there is none; an offset that is
misused on the way would be the result instead. -/
theorem scan_between_characters (limit bound : Nat) (text : String)
    (fits : text.utf8ByteSize ≤ limit) :
    let grammar := Grammar.ofBound bound
    (∀ cursor, Reaches limit (grammar.cursor text) cursor →
      cursor.text = text ∧ cursor.IsSafe limit) ∧
    ∀ rounds, (bytes text).count 0x5b < rounds →
      (grammar.cursor text).scanWithin limit rounds =
        .ok (some (grammar.scan text, (grammar.cursor text).moveTo text.utf8ByteSize)) ∧
      ∀ registry, (grammar.cursor text).assembleWithin limit registry rounds 0 ['^'] =
        .ok (some (Pattern.source registry (grammar.pieces text.toList))) := by
  intro grammar
  rw [count_bracket]
  refine ⟨fun cursor reached => ?_, fun rounds enough =>
    ⟨scanWithin_cursor fits enough, assembleWithin_cursor fits enough⟩⟩
  obtain ⟨same, before, after, stands⟩ := reached.exists_stands fits
  exact ⟨same, stands.isSafe⟩

/-- With the least bound the first bracket is literal text, between characters of two bytes. -/
theorem scan_between_characters_leastBound :
    let start := (Grammar.ofBound 0).cursor "é[ab:][a:]é"
    start.text.utf8ByteSize ≤ 2 ^ 64 - 1 ∧ start.IsSafe (2 ^ 64 - 1) ∧
      start.scanWithin (2 ^ 64 - 1) 3 = .ok (some ([⟨⟨"a", none⟩, 7, 11⟩], start.moveTo 13)) ∧
      start.assembleWithin (2 ^ 64 - 1) (Registry.builtin.register "a" "x+") 3 0 ['^'] =
        .ok (some (.ok "^é\\[ab:\\](?:x+)é$")) := by
  intro start
  have fits : start.text.utf8ByteSize ≤ 2 ^ 64 - 1 := by decide +kernel
  obtain ⟨safe, runs⟩ := scan_between_characters (2 ^ 64 - 1) 0 "é[ab:][a:]é" fits
  obtain ⟨scans, assembles⟩ := runs 3 (by decide +kernel)
  have found : (Grammar.ofBound 0).scan "é[ab:][a:]é" = [⟨⟨"a", none⟩, 7, 11⟩] := by
    decide +kernel
  have source : Pattern.source (Registry.builtin.register "a" "x+")
      ((Grammar.ofBound 0).pieces "é[ab:][a:]é".toList) = .ok "^é\\[ab:\\](?:x+)é$" := by
    decide +kernel
  refine ⟨fits, (safe start .start).2, ?_, ?_⟩
  · rw [scans, found]
    rfl
  · rw [assembles, source]

end Cursor

end Stencil
