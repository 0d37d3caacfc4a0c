import Stencil.Grammar

/-!
What the scan of a pattern finds.

Owns `Grammar.Admits`, the placeholders of a grammar apart from any scan. The look at a bracket
accepts exactly these (`placeholder?_iff`), so it cannot go past another opening bracket, and a
pattern divides at each of its placeholders: the pieces on either side are those of the texts on
either side (`pieces_append_placeholder`).
-/

namespace Stencil.Grammar

variable {grammar : Grammar}

/-! ### Words -/

/-- The ranges of the ASCII letters and digits. -/
theorem isWordChar_iff_val (c : Char) : isWordChar c = true ↔
    ('A'.val ≤ c.val ∧ c.val ≤ 'Z'.val) ∨ ('a'.val ≤ c.val ∧ c.val ≤ 'z'.val) ∨
      ('0'.val ≤ c.val ∧ c.val ≤ '9'.val) ∨ c = '_' := by
  have ranges : isWordChar c =
      (decide ('A'.val ≤ c.val ∧ c.val ≤ 'Z'.val) ||
        (decide ('a'.val ≤ c.val) && decide (c.val ≤ 'z'.val)) ||
        (decide ('0'.val ≤ c.val) && decide (c.val ≤ '9'.val)) || c == '_') := rfl
  rw [ranges]
  simp only [Bool.or_eq_true, Bool.and_eq_true, decide_eq_true_eq, beq_iff_eq, or_assoc]

/-- The runs of word characters within the bound. -/
def IsWord (grammar : Grammar) (word : List Char) : Prop :=
  word.all isWordChar = true ∧ word.length ≤ grammar.maxIdentifierLength

theorem isWord_word (grammar : Grammar) (text : List Char) : grammar.IsWord (grammar.word text) := by
  constructor
  · rw [List.all_eq_true]
    intro c member
    exact List.all_eq_true.mp List.all_takeWhile c (List.mem_of_mem_take member)
  · exact List.length_take_le _ _

/-- A word is what its text begins with. -/
theorem word_append_drop (grammar : Grammar) (text : List Char) :
    grammar.word text ++ text.drop (grammar.word text).length = text :=
  List.prefix_iff_eq_append.mp ((List.take_prefix _ _).trans (List.takeWhile_prefix _))

/-- A word ends before the first character that cannot stand in it. -/
theorem word_append {word : List Char} (isWord : grammar.IsWord word) {c : Char}
    (ends : isWordChar c = false) (rest : List Char) :
    grammar.word (word ++ c :: rest) = word := by
  unfold Grammar.word
  rw [List.takeWhile_append_of_pos (List.all_eq_true.mp isWord.1), List.takeWhile_cons,
    if_neg (by simp [ends]), List.append_nil, List.take_of_length_le isWord.2]

/-! ### Placeholders -/

/-- The placeholders of a grammar: a name for the filter, and perhaps one for the property. -/
structure Admits (grammar : Grammar) (placeholder : Placeholder) : Prop where
  filter : grammar.IsWord placeholder.filter.toList
  filter_ne : placeholder.filter.toList ≠ []
  prop : ∀ prop, placeholder.prop = some prop → grammar.IsWord prop.toList ∧ prop.toList ≠ []

private theorem utf8Size_of_isWordChar {c : Char} (isWord : isWordChar c = true) :
    c.utf8Size = 1 := by
  by_cases underscore : c = '_'
  · rw [underscore]
    rfl
  · rw [isWordChar_iff_val] at isWord
    unfold Char.utf8Size
    grind

/-- Word characters take one byte each. -/
theorem byteLength_of_isWord {word : List Char} (chars : word.all isWordChar = true) :
    byteLength word = word.length := by
  induction word with
  | nil => rfl
  | cons c rest inductionHypothesis =>
      rw [List.all_cons, Bool.and_eq_true] at chars
      rw [byteLength_cons, inductionHypothesis chars.2, utf8Size_of_isWordChar chars.1,
        List.length_cons, Nat.add_comm]

/-- The identifiers are the words that are not empty. Their length in bytes and in characters is one. -/
theorem isIdentifier_iff {name : String} :
    grammar.isIdentifier name = true ↔ grammar.IsWord name.toList ∧ name.toList ≠ [] := by
  have notEmpty : name.isEmpty = false ↔ name.toList ≠ [] := by
    rw [String.isEmpty_eq_false_iff, ne_eq, ne_eq, String.toList_eq_nil_iff]
  simp only [Grammar.isIdentifier, IsWord, Bool.and_eq_true, Bool.not_eq_true', decide_eq_true_eq,
    notEmpty, ← byteLength_toList]
  constructor
  · rintro ⟨⟨named, size⟩, chars⟩
    exact ⟨⟨chars, byteLength_of_isWord chars ▸ size⟩, named⟩
  · rintro ⟨⟨chars, length⟩, named⟩
    exact ⟨⟨named, (byteLength_of_isWord chars).symm ▸ length⟩, chars⟩

/-- The filter of a placeholder is an identifier. -/
theorem Admits.isIdentifier {placeholder : Placeholder} (admits : grammar.Admits placeholder) :
    grammar.isIdentifier placeholder.filter = true :=
  isIdentifier_iff.mpr ⟨admits.filter, admits.filter_ne⟩

/-- An identifier names a filter, and no property is needed. -/
theorem admits_of_isIdentifier {name : String} (isIdentifier : grammar.isIdentifier name = true) :
    grammar.Admits ⟨name, none⟩ :=
  ⟨(isIdentifier_iff.mp isIdentifier).1, (isIdentifier_iff.mp isIdentifier).2, by simp⟩

/-- A placeholder as it is written, after its opening bracket. -/
def tokenTail (placeholder : Placeholder) : List Char :=
  placeholder.filter.toList ++ ':' :: ((placeholder.prop.getD "").toList ++ [']'])

theorem text_eq_tokenTail (placeholder : Placeholder) :
    placeholder.text = '[' :: tokenTail placeholder :=
  rfl

theorem Admits.isWord_prop {placeholder : Placeholder} (admits : grammar.Admits placeholder) :
    grammar.IsWord (placeholder.prop.getD "").toList := by
  cases named : placeholder.prop with
  | none => exact ⟨rfl, Nat.zero_le _⟩
  | some prop => exact (admits.prop prop named).1

theorem Admits.placeholder? {placeholder : Placeholder} (admits : grammar.Admits placeholder)
    (rest : List Char) :
    grammar.placeholder? (tokenTail placeholder ++ rest) = some (placeholder, rest) := by
  have filter : grammar.word (tokenTail placeholder ++ rest) = placeholder.filter.toList := by
    simp only [tokenTail, List.append_assoc, List.cons_append]
    exact word_append admits.filter rfl _
  have prop : grammar.word ((placeholder.prop.getD "").toList ++ ']' :: rest) =
      (placeholder.prop.getD "").toList :=
    word_append admits.isWord_prop rfl rest
  have afterFilter : (tokenTail placeholder ++ rest).drop placeholder.filter.toList.length =
      ':' :: ((placeholder.prop.getD "").toList ++ ']' :: rest) := by
    simp [tokenTail]
  unfold Grammar.placeholder?
  simp only [filter, afterFilter, prop, List.drop_left]
  rw [if_neg (by simpa using admits.filter_ne)]
  obtain ⟨name, property⟩ := placeholder
  cases property with
  | none => simp
  | some property =>
      have notEmpty := (admits.prop property rfl).2
      simp at notEmpty
      simp [notEmpty]

theorem tokenTail_of_placeholder? {text rest : List Char} {placeholder : Placeholder}
    (found : grammar.placeholder? text = some (placeholder, rest)) :
    grammar.Admits placeholder ∧ text = tokenTail placeholder ++ rest := by
  unfold Grammar.placeholder? at found
  simp only at found
  split at found
  next => simp at found
  next filterNotEmpty =>
    split at found
    next afterColon colon =>
      split at found
      next afterBracket bracket =>
        simp only [Option.some.injEq, Prod.mk.injEq] at found
        obtain ⟨rfl, rfl⟩ := found
        have filterText := grammar.word_append_drop text
        have propText := grammar.word_append_drop afterColon
        rw [colon] at filterText
        rw [bracket] at propText
        constructor
        · constructor
          · simpa using grammar.isWord_word text
          · simpa using filterNotEmpty
          · intro prop named
            split at named
            next => simp at named
            next propNotEmpty =>
              obtain rfl := Option.some.inj named
              exact ⟨by simpa using grammar.isWord_word afterColon, by simpa using propNotEmpty⟩
        · have whole : text = grammar.word text ++
              ':' :: (grammar.word afterColon ++ ']' :: afterBracket) := by
            rw [propText, filterText]
          refine whole.trans ?_
          split
          next none =>
            rw [List.isEmpty_iff.mp none]
            simp [tokenTail]
          next => simp [tokenTail]
      next => simp at found
    next => simp at found

/-- The look at an opening bracket finds exactly the placeholders of the grammar. -/
theorem placeholder?_iff {text rest : List Char} {placeholder : Placeholder} :
    grammar.placeholder? text = some (placeholder, rest) ↔
      grammar.Admits placeholder ∧ text = tokenTail placeholder ++ rest := by
  constructor
  · exact tokenTail_of_placeholder?
  · rintro ⟨admits, rfl⟩
    exact admits.placeholder? rest

/-- A placeholder holds no opening bracket but its own. -/
theorem Admits.not_mem_tokenTail {placeholder : Placeholder}
    (admits : grammar.Admits placeholder) : '[' ∉ tokenTail placeholder := by
  have notInWord : ∀ word : List Char, grammar.IsWord word → '[' ∉ word := by
    intro word isWord member
    exact absurd (List.all_eq_true.mp isWord.1 '[' member) (by decide)
  simp [tokenTail, notInWord _ admits.filter, notInWord _ admits.isWord_prop]

/-- The look at an opening bracket does not go past the next one. -/
theorem placeholder?_append (text rest : List Char) :
    grammar.placeholder? (text ++ '[' :: rest) =
      (grammar.placeholder? text).map fun found => (found.1, found.2 ++ '[' :: rest) := by
  cases alone : grammar.placeholder? text with
  | some found =>
      obtain ⟨placeholder, after⟩ := found
      obtain ⟨admits, rfl⟩ := placeholder?_iff.mp alone
      rw [List.append_assoc, admits.placeholder?]
      rfl
  | none =>
      cases joined : grammar.placeholder? (text ++ '[' :: rest) with
      | none => rfl
      | some found =>
          obtain ⟨placeholder, after⟩ := found
          obtain ⟨admits, same⟩ := placeholder?_iff.mp joined
          -- The placeholder holds no opening bracket, so it ends before this one.
          rcases List.append_eq_append_iff.mp same with ⟨middle, token, others⟩ | ⟨middle, whole, _⟩
          · cases middle with
            | nil =>
                have found := admits.placeholder? []
                rw [token, List.append_nil, List.append_nil, alone] at found
                simp at found
            | cons c middle =>
                obtain rfl : '[' = c := (List.cons.inj others).1
                exact absurd (by simp [token]) admits.not_mem_tokenTail
          · rw [whole, admits.placeholder?] at alone
            simp at alone

/-! ### Pieces -/

theorem pieces_cons_of_ne {c : Char} (notBracket : c ≠ '[') (rest : List Char) :
    grammar.pieces (c :: rest) = .char c :: grammar.pieces rest := by
  rw [pieces, if_neg notBracket]

theorem pieces_bracket_none {rest : List Char} (none : grammar.placeholder? rest = none) :
    grammar.pieces ('[' :: rest) = .char '[' :: grammar.pieces rest := by
  rw [pieces, if_pos rfl]
  split
  next found => simp [none] at found
  next => rfl

theorem pieces_bracket_some {rest after : List Char} {placeholder : Placeholder}
    (found : grammar.placeholder? rest = some (placeholder, after)) :
    grammar.pieces ('[' :: rest) = .hole placeholder :: grammar.pieces after := by
  rw [pieces, if_pos rfl]
  split
  next same =>
    rw [found] at same
    simp only [Option.some.injEq, Prod.mk.injEq] at same
    rw [same.1, same.2]
  next same => simp [found] at same

/-- The pieces of a pattern make up the pattern. -/
theorem flatMap_text_pieces (text : List Char) :
    (grammar.pieces text).flatMap Piece.text = text := by
  induction text using pieces.induct grammar with
  | case1 => rw [pieces]; rfl
  | case2 rest placeholder after found inductionHypothesis =>
      rw [pieces_bracket_some found, List.flatMap_cons, inductionHypothesis]
      exact congrArg ('[' :: ·) (placeholder?_iff.mp found).2.symm
  | case3 rest none inductionHypothesis =>
      rw [pieces_bracket_none none, List.flatMap_cons, inductionHypothesis]
      rfl
  | case4 c rest notBracket inductionHypothesis =>
      rw [pieces_cons_of_ne notBracket, List.flatMap_cons, inductionHypothesis]
      rfl

theorem pieces_placeholder {placeholder : Placeholder} (admits : grammar.Admits placeholder)
    (after : List Char) :
    grammar.pieces (placeholder.text ++ after) = .hole placeholder :: grammar.pieces after := by
  rw [text_eq_tokenTail, List.cons_append, pieces_bracket_some (admits.placeholder? after)]

/-- A pattern divides at each of its placeholders. -/
theorem pieces_append_placeholder {placeholder : Placeholder} (admits : grammar.Admits placeholder)
    (before after : List Char) :
    grammar.pieces (before ++ (placeholder.text ++ after)) =
      grammar.pieces before ++ .hole placeholder :: grammar.pieces after := by
  induction before using pieces.induct grammar with
  | case1 =>
      rw [List.nil_append, pieces_placeholder admits, pieces]
      rfl
  | case2 rest other between found inductionHypothesis =>
      have joined : grammar.placeholder? (rest ++ (placeholder.text ++ after)) =
          some (other, between ++ (placeholder.text ++ after)) := by
        rw [text_eq_tokenTail, List.cons_append, placeholder?_append, found]
        rfl
      rw [List.cons_append, pieces_bracket_some joined, inductionHypothesis, pieces_bracket_some found]
      rfl
  | case3 rest none inductionHypothesis =>
      have joined : grammar.placeholder? (rest ++ (placeholder.text ++ after)) = .none := by
        rw [text_eq_tokenTail, List.cons_append, placeholder?_append, none]
        rfl
      rw [List.cons_append, pieces_bracket_none joined, inductionHypothesis, pieces_bracket_none none]
      rfl
  | case4 c rest notBracket inductionHypothesis =>
      rw [List.cons_append, pieces_cons_of_ne notBracket, inductionHypothesis,
        pieces_cons_of_ne notBracket]
      rfl

theorem pieces_to_placeholder {placeholder : Placeholder} (admits : grammar.Admits placeholder)
    (before : List Char) :
    grammar.pieces (before ++ placeholder.text) = grammar.pieces before ++ [.hole placeholder] := by
  have divides := pieces_append_placeholder admits before []
  rwa [List.append_nil, pieces] at divides

/-- The text after a placeholder is divided into pieces as it is alone. -/
theorem pieces_through_placeholder {placeholder : Placeholder} (admits : grammar.Admits placeholder)
    (before after : List Char) :
    grammar.pieces (before ++ placeholder.text ++ after) =
      grammar.pieces (before ++ placeholder.text) ++ grammar.pieces after := by
  rw [pieces_to_placeholder admits, List.append_assoc, pieces_append_placeholder admits,
    List.append_assoc, List.singleton_append]

/-- Characters other than the opening bracket are pieces of their own. -/
theorem pieces_append_chars {line : List Char} (noBracket : '[' ∉ line) (after : List Char) :
    grammar.pieces (line ++ after) = line.map Piece.char ++ grammar.pieces after := by
  induction line with
  | nil => rfl
  | cons c line inductionHypothesis =>
      rw [List.mem_cons, not_or] at noBracket
      rw [List.cons_append, pieces_cons_of_ne (Ne.symm noBracket.1),
        inductionHypothesis noBracket.2]
      rfl

/-- A pattern with a placeholder of some kind divides at the first one of that kind. -/
theorem exists_first_placeholder (kind : Placeholder → Prop) (text : List Char)
    (present : ∃ placeholder, .hole placeholder ∈ grammar.pieces text ∧ kind placeholder) :
    ∃ before placeholder after, text = before ++ (placeholder.text ++ after) ∧
      grammar.Admits placeholder ∧ kind placeholder ∧
      ∀ other, .hole other ∈ grammar.pieces before → ¬ kind other := by
  induction text using pieces.induct grammar with
  | case1 =>
      obtain ⟨placeholder, member, _⟩ := present
      rw [pieces] at member
      simp at member
  | case2 rest placeholder after found inductionHypothesis =>
      obtain ⟨admits, whole⟩ := placeholder?_iff.mp found
      by_cases first : kind placeholder
      · refine ⟨[], placeholder, after, by rw [whole]; rfl, admits, first, fun other member => ?_⟩
        rw [pieces] at member
        simp at member
      · rw [pieces_bracket_some found] at present
        obtain ⟨other, member, isKind⟩ := present
        have later : .hole other ∈ grammar.pieces after := by
          rcases List.mem_cons.mp member with same | later
          · exact absurd (Piece.hole.inj same ▸ isKind) first
          · exact later
        obtain ⟨before, next, rest, divides, admitsNext, isKind, none⟩ :=
          inductionHypothesis ⟨other, later, isKind⟩
        refine ⟨placeholder.text ++ before, next, rest, ?_, admitsNext, isKind, ?_⟩
        · rw [whole, divides, List.append_assoc, text_eq_tokenTail]
          rfl
        · intro other member
          rw [pieces_placeholder admits] at member
          rcases List.mem_cons.mp member with same | later
          · rw [Piece.hole.inj same]
            exact first
          · exact none other later
  | case3 rest absent inductionHypothesis =>
      rw [pieces_bracket_none absent] at present
      obtain ⟨other, member, isKind⟩ := present
      obtain ⟨before, next, after, rfl, admits, isKind, none⟩ := inductionHypothesis
        ⟨other, by simpa using member, isKind⟩
      refine ⟨'[' :: before, next, after, rfl, admits, isKind, ?_⟩
      rw [text_eq_tokenTail, List.cons_append, placeholder?_append, Option.map_eq_none_iff] at absent
      rw [pieces_bracket_none absent]
      simpa using none
  | case4 c rest notBracket inductionHypothesis =>
      rw [pieces_cons_of_ne notBracket] at present
      obtain ⟨other, member, isKind⟩ := present
      obtain ⟨before, next, after, rfl, admits, isKind, none⟩ := inductionHypothesis
        ⟨other, by simpa using member, isKind⟩
      refine ⟨c :: before, next, after, rfl, admits, isKind, ?_⟩
      rw [pieces_cons_of_ne notBracket]
      simpa using none

/-- The pieces of a pattern hold no placeholders but those of the grammar. -/
theorem admits_of_mem_pieces {text : List Char} {placeholder : Placeholder}
    (present : .hole placeholder ∈ grammar.pieces text) : grammar.Admits placeholder := by
  obtain ⟨_, found, _, _, admits, rfl, _⟩ :=
    exists_first_placeholder (· = placeholder) text ⟨placeholder, present, rfl⟩
  exact admits

end Stencil.Grammar
