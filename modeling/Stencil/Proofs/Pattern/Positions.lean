import Stencil.Proofs.Pattern.Scanning

/-!
Where the scan of a pattern finds its placeholders.

Owns `Occurs`, which tells what bytes of a text are, and `IsToken`, the placeholders as they are
written, both apart from the scan. Bytes that are the encoding of some text begin and end between
characters (`occurs_iff`), so a scan of the characters misses none. The main statement is
`scan_exact`: the scan finds every token of the pattern, wherever its bytes stand, and nothing else.

The keys of the placeholders are not told here.
-/

namespace Stencil

/-! ### Bytes of a text -/

/-- The bytes of `text` from `start` up to but not including `stop` are those of `token`. -/
structure Occurs (text token : String) (start stop : Nat) : Prop where
  within : stop ≤ text.utf8ByteSize
  bytes : text.toByteArray.extract start stop = token.toByteArray

/-- What occurs in a text takes as many bytes as it has. -/
theorem Occurs.size {text token : String} {start stop : Nat}
    (occurs : Occurs text token start stop) : stop - start = token.utf8ByteSize := by
  have sizes := congrArg ByteArray.size occurs.bytes
  rw [ByteArray.size_extract] at sizes
  change min stop text.utf8ByteSize - start = token.utf8ByteSize at sizes
  rwa [Nat.min_eq_left occurs.within] at sizes

/-- The first byte of what occurs begins a character, so the text divides there. -/
theorem Occurs.divides {text token : String} (notEmpty : token ≠ "") {start stop : Nat}
    (occurs : Occurs text token start stop) :
    ∃ before rest : String, text = before ++ rest ∧ start = before.utf8ByteSize := by
  have positive : 0 < token.toByteArray.size := by
    rw [Nat.pos_iff_ne_zero]
    exact fun empty => notEmpty (String.utf8ByteSize_eq_zero_iff.mp empty)
  have size := occurs.size
  have within := occurs.within
  have inText : start < text.toByteArray.size := by
    change start < text.utf8ByteSize
    change 0 < token.utf8ByteSize at positive
    omega
  have sameByte : text.toByteArray[start] = token.toByteArray[0] := by
    have bytes := occurs.bytes
    have inExtract : 0 < (text.toByteArray.extract start stop).size := bytes ▸ positive
    have first := ByteArray.getElem_extract inExtract
    simp only [Nat.add_zero] at first
    rw [← first]
    congr 1
  have begins : (text.getUTF8Byte ⟨start⟩ inText).IsUTF8FirstByte := by
    rw [String.getUTF8Byte_eq_getElem, sameByte]
    exact token.isValidUTF8.isUTF8FirstByte_getElem_zero positive
  have valid : String.Pos.Raw.IsValid text ⟨start⟩ :=
    String.Pos.Raw.isValid_iff_isUTF8FirstByte.mpr (.inr ⟨inText, begins⟩)
  obtain ⟨before, rest, whole, position⟩ := String.Pos.Raw.isValid_iff_exists_append.mp valid
  exact ⟨before, rest, whole, congrArg String.Pos.Raw.byteIdx position⟩

/-- A text that is not empty occurs in another one between whole characters only: its first byte
begins a character, and from there on the encoding leaves no choice. -/
theorem occurs_iff {text token : String} (notEmpty : token ≠ "") {start stop : Nat} :
    Occurs text token start stop ↔
      ∃ before after : List Char, text.toList = before ++ (token.toList ++ after) ∧
        start = byteLength before ∧ stop = start + byteLength token.toList := by
  constructor
  · intro occurs
    obtain ⟨before, rest, whole, position⟩ := occurs.divides notEmpty
    have size := occurs.size
    have stops : stop = before.utf8ByteSize + token.utf8ByteSize := by
      have positive : token.utf8ByteSize ≠ 0 :=
        fun empty => notEmpty (String.utf8ByteSize_eq_zero_iff.mp empty)
      omega
    have bytes : rest.toByteArray.extract 0 token.utf8ByteSize = token.toByteArray := by
      have extracted := occurs.bytes
      rw [whole, String.toByteArray_append, position, stops] at extracted
      have shifted := ByteArray.extract_append_size_add (a := before.toByteArray)
        (b := rest.toByteArray) (i := 0) (j := token.utf8ByteSize)
      exact shifted.symm.trans extracted
    have fits : token.utf8ByteSize ≤ rest.utf8ByteSize := by
      have within := occurs.within
      rw [whole, String.utf8ByteSize_append] at within
      omega
    have parts : token.toList.utf8Encode ++ rest.toByteArray.extract token.utf8ByteSize
        rest.utf8ByteSize = rest.toList.utf8Encode := by
      rw [String.utf8Encode_toList, String.utf8Encode_toList, ← bytes,
        ← ByteArray.extract_eq_extract_append_extract _ (Nat.zero_le _) fits]
      exact ByteArray.extract_zero_size
    obtain ⟨after, begins⟩ := List.isPrefix_of_utf8Encode_append_eq_utf8Encode _ parts
    refine ⟨before.toList, after, ?_, ?_, ?_⟩
    · rw [whole, String.toList_append, ← begins]
    · rw [byteLength_toList, position]
    · rw [byteLength_toList, position, stops]
  · rintro ⟨before, after, whole, rfl, rfl⟩
    have text_eq : text = String.ofList before ++ (token ++ String.ofList after) := by
      rw [← String.ofList_toList (s := text), whole, String.ofList_append, String.ofList_append,
        String.ofList_toList]
    rw [byteLength_toList, ← utf8ByteSize_ofList]
    constructor
    · rw [text_eq, String.utf8ByteSize_append, String.utf8ByteSize_append]
      omega
    · rw [text_eq, String.toByteArray_append, String.toByteArray_append]
      have shifted := ByteArray.extract_append_size_add (a := (String.ofList before).toByteArray)
        (b := token.toByteArray ++ (String.ofList after).toByteArray) (i := 0)
        (j := token.utf8ByteSize)
      exact shifted.trans (ByteArray.extract_append_eq_left rfl)

namespace Grammar

/-! ### Tokens -/

/-- The ASCII letters and digits, and the underscore. -/
def IsNameChar (c : Char) : Prop :=
  ('a' ≤ c ∧ c ≤ 'z') ∨ ('A' ≤ c ∧ c ≤ 'Z') ∨ ('0' ≤ c ∧ c ≤ '9') ∨ c = '_'

theorem isWordChar_iff (c : Char) : isWordChar c = true ↔ IsNameChar c := by
  rw [isWordChar_iff_val]
  simp only [IsNameChar, Char.le_def]
  grind

/-- The names of a filter and of a property that make a token where identifiers have at most `bound`
characters. The property may have no name. -/
structure IsToken (bound : Nat) (filter prop : List Char) : Prop where
  filter_chars : ∀ c ∈ filter, IsNameChar c
  filter_length : 1 ≤ filter.length ∧ filter.length ≤ bound
  prop_chars : ∀ c ∈ prop, IsNameChar c
  prop_length : prop.length ≤ bound

/-- A token as it is written. -/
def tokenText (filter prop : List Char) : String :=
  String.ofList ('[' :: (filter ++ ':' :: (prop ++ [']'])))

/-- The placeholder that a token stands for. -/
def tokenPlaceholder (filter prop : List Char) : Placeholder :=
  ⟨String.ofList filter, if prop = [] then none else some (String.ofList prop)⟩

theorem tokenText_ne (filter prop : List Char) : tokenText filter prop ≠ "" := by
  intro empty
  have none := congrArg String.toList empty
  simp [tokenText] at none

variable {grammar : Grammar}

/-- A token stands for a placeholder of the grammar, and is its text. -/
theorem IsToken.admits {filter prop : List Char}
    (isToken : IsToken grammar.maxIdentifierLength filter prop) :
    grammar.Admits (tokenPlaceholder filter prop) ∧
      (tokenPlaceholder filter prop).text = (tokenText filter prop).toList := by
  have isWord : ∀ word : List Char, (∀ c ∈ word, IsNameChar c) →
      word.length ≤ grammar.maxIdentifierLength → grammar.IsWord word := by
    intro word chars length
    exact ⟨List.all_eq_true.mpr fun c member => (isWordChar_iff c).mpr (chars c member), length⟩
  have filterWord := isWord filter isToken.filter_chars isToken.filter_length.2
  have propWord := isWord prop isToken.prop_chars isToken.prop_length
  have filterNotEmpty : filter ≠ [] := List.ne_nil_of_length_pos isToken.filter_length.1
  by_cases unnamed : prop = []
  · subst unnamed
    refine ⟨⟨by simpa [tokenPlaceholder] using filterWord, by simpa [tokenPlaceholder] using
      filterNotEmpty, by simp [tokenPlaceholder]⟩, ?_⟩
    simp [tokenPlaceholder, tokenText, Placeholder.text]
  · refine ⟨⟨by simpa [tokenPlaceholder] using filterWord, by simpa [tokenPlaceholder] using
      filterNotEmpty, ?_⟩, ?_⟩
    · intro name named
      obtain rfl : String.ofList prop = name := by simpa [tokenPlaceholder, unnamed] using named
      exact ⟨by simpa using propWord, by simpa using unnamed⟩
    · simp [tokenPlaceholder, tokenText, Placeholder.text, unnamed]

/-- Every placeholder of the grammar is that of a token. -/
theorem Admits.exists_token {placeholder : Placeholder} (admits : grammar.Admits placeholder) :
    ∃ filter prop, IsToken grammar.maxIdentifierLength filter prop ∧
      placeholder = tokenPlaceholder filter prop := by
  have chars : ∀ word : List Char, grammar.IsWord word → ∀ c ∈ word, IsNameChar c := by
    intro word isWord c member
    exact (isWordChar_iff c).mp (List.all_eq_true.mp isWord.1 c member)
  have filterLength : 1 ≤ placeholder.filter.toList.length :=
    List.length_pos_iff.mpr admits.filter_ne
  have propWord := admits.isWord_prop
  refine ⟨placeholder.filter.toList, (placeholder.prop.getD "").toList, ?_, ?_⟩
  · exact ⟨chars _ admits.filter, ⟨filterLength, admits.filter.2⟩, chars _ propWord, propWord.2⟩
  · obtain ⟨filter, property⟩ := placeholder
    cases property with
    | none => simp [tokenPlaceholder]
    | some name =>
        have notEmpty := (admits.prop name rfl).2
        have named : name ≠ "" := by simpa using notEmpty
        simp [tokenPlaceholder, named]

/-! ### The places of placeholders -/

private theorem exists_before_cons {piece : Piece} {rest : List Piece}
    {holds : List Piece → List Piece → Prop} {hole : Piece} :
    (∃ before after, piece :: rest = before ++ hole :: after ∧ holds before after) ↔
      (∃ after, piece :: rest = hole :: after ∧ holds [] after) ∨
        ∃ before after, rest = before ++ hole :: after ∧ holds (piece :: before) after := by
  constructor
  · rintro ⟨before, after, whole, held⟩
    cases before with
    | nil => exact .inl ⟨after, whole, held⟩
    | cons first before =>
        obtain ⟨rfl, others⟩ := List.cons.inj whole
        exact .inr ⟨before, after, others, held⟩
  · rintro (⟨after, whole, held⟩ | ⟨before, after, whole, held⟩)
    · exact ⟨[], after, whole, held⟩
    · exact ⟨piece :: before, after, congrArg (piece :: ·) whole, held⟩

theorem mem_locate_iff {pieces : List Piece} {offset : Nat} {located : Located} :
    located ∈ locate offset pieces ↔
      ∃ before after, pieces = before ++ .hole located.placeholder :: after ∧
        located.start = offset + byteLength (before.flatMap Piece.text) ∧
        located.stop = located.start + byteLength located.placeholder.text := by
  induction pieces generalizing offset with
  | nil => simp [locate]
  | cons piece rest inductionHypothesis =>
      -- What stands before the placeholder is nothing, or begins with this piece.
      rw [exists_before_cons]
      cases piece with
      | char c =>
          rw [locate, inductionHypothesis]
          simp [Piece.text, Nat.add_assoc]
      | hole placeholder =>
          rw [locate, List.mem_cons, inductionHypothesis]
          refine or_congr ?_ ?_
          · obtain ⟨found, start, stop⟩ := located
            simp only [Located.mk.injEq, List.cons.injEq, Piece.hole.injEq]
            constructor
            · rintro ⟨rfl, rfl, rfl⟩
              exact ⟨rest, ⟨rfl, rfl⟩, rfl, rfl⟩
            · rintro ⟨after, ⟨rfl, rfl⟩, rfl, rfl⟩
              exact ⟨rfl, rfl, rfl⟩
          · simp [Piece.text, Nat.add_assoc]

/-- Placeholders stand one after another. -/
theorem pairwise_locate (pieces : List Piece) (offset : Nat) :
    (locate offset pieces).Pairwise fun earlier later =>
      earlier.start < later.start ∧ earlier.stop ≤ later.start := by
  induction pieces generalizing offset with
  | nil => exact .nil
  | cons piece rest inductionHypothesis =>
      cases piece with
      | char c => exact inductionHypothesis _
      | hole placeholder =>
          refine .cons ?_ (inductionHypothesis _)
          intro later present
          obtain ⟨before, after, _, starts, _⟩ := mem_locate_iff.mp present
          have positive : 0 < byteLength placeholder.text := by
            rw [text_eq_tokenTail, byteLength_cons]
            exact Nat.lt_of_lt_of_le (Char.utf8Size_pos _) (Nat.le_add_right _ _)
          simp only
          omega

/-- The scan of a pattern finds what the grammar admits where its text stands. -/
theorem mem_scan_iff {pattern : String} {located : Located} :
    located ∈ grammar.scan pattern ↔ grammar.Admits located.placeholder ∧
      ∃ before after, pattern.toList = before ++ (located.placeholder.text ++ after) ∧
        located.start = byteLength before ∧
        located.stop = located.start + byteLength located.placeholder.text := by
  rw [scan, mem_locate_iff]
  constructor
  · rintro ⟨before, after, divides, starts, stops⟩
    have present : .hole located.placeholder ∈ grammar.pieces pattern.toList := by simp [divides]
    have whole := grammar.flatMap_text_pieces pattern.toList
    rw [divides, List.flatMap_append, List.flatMap_cons] at whole
    exact ⟨admits_of_mem_pieces present, _, _, whole.symm, by rw [starts, Nat.zero_add], stops⟩
  · rintro ⟨admits, before, after, whole, starts, stops⟩
    refine ⟨grammar.pieces before, grammar.pieces after, ?_, ?_, stops⟩
    · rw [whole, pieces_append_placeholder admits]
    · rw [flatMap_text_pieces, starts, Nat.zero_add]

/-- The scan of a pattern finds its placeholders one after another. Under a bound on identifiers, of
which zero counts as one, they are exactly the tokens whose bytes stand in the pattern, each of them
with its place. -/
theorem scan_exact (bound : Nat) (pattern : String) :
    ((ofBound bound).scan pattern).Pairwise (fun earlier later =>
      earlier.start < later.start ∧ earlier.stop ≤ later.start) ∧
    ∀ located, located ∈ (ofBound bound).scan pattern ↔
      ∃ filter prop, IsToken (max bound 1) filter prop ∧
        Occurs pattern (tokenText filter prop) located.start located.stop ∧
        located.placeholder = tokenPlaceholder filter prop := by
  refine ⟨pairwise_locate _ _, fun located => ?_⟩
  rw [mem_scan_iff]
  constructor
  · rintro ⟨admits, before, after, whole, starts, stops⟩
    obtain ⟨filter, prop, isToken, same⟩ := admits.exists_token
    have text := (isToken.admits).2
    rw [← same] at text
    rw [text] at whole stops
    exact ⟨filter, prop, isToken,
      (occurs_iff (tokenText_ne filter prop)).mpr ⟨before, after, whole, starts, stops⟩, same⟩
  · rintro ⟨filter, prop, isToken, occurs, same⟩
    obtain ⟨before, after, whole, starts, stops⟩ :=
      (occurs_iff (tokenText_ne filter prop)).mp occurs
    have withinBound : IsToken (ofBound bound).maxIdentifierLength filter prop := isToken
    obtain ⟨admits, text⟩ := withinBound.admits
    rw [← same] at admits text
    rw [← text] at whole stops
    exact ⟨admits, before, after, whole, starts, stops⟩

/-- An oversized token and one behind a failed bracket, after characters of two bytes. -/
example : (ofBound 2).scan "é[abc:][[x:ab]é" = [⟨⟨"x", some "ab"⟩, 9, 15⟩] := by
  decide +kernel

end Grammar

end Stencil
