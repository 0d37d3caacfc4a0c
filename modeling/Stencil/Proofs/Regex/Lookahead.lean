import Mathlib.Data.List.Basic
import Stencil.Regex.Reader

/-!
What a reader sees of the text that follows.

Owns the lemmas on the look-ahead of a reader when a closing parenthesis with any text after it is
put behind the text that is read: the names of ASCII classes (`ofText?_append`), the character after
a hyphen (`afterHyphen_append`) and the opening of a group (`stepQuestion_append`) are seen as
before, for none of them goes past a closing parenthesis. Nor does any step (`step_tail`), so that a
text up to a closing parenthesis is read whatever follows (`read_tail`).
-/

namespace Stencil.Regex

/-! ### Names of classes -/

private theorem isPrefixOf_append {name : List Char} (absent : ')' ∉ name)
    (rest tail : List Char) : name.isPrefixOf (rest ++ ')' :: tail) = name.isPrefixOf rest := by
  induction name generalizing rest with
  | nil => simp
  | cons c name inductionHypothesis =>
      rw [List.mem_cons, not_or] at absent
      cases rest with
      | nil =>
          have notClosing : c ≠ ')' := fun same => absent.1 same.symm
          simp [List.isPrefixOf, notClosing]
      | cons d rest =>
          rw [List.cons_append, List.isPrefixOf_cons_cons, List.isPrefixOf_cons_cons,
            inductionHypothesis absent.2]

/-- No name of a class holds a parenthesis, so none is completed by one. -/
theorem ofText?_append (rest tail : List Char) :
    AsciiClass.ofText? (rest ++ ')' :: tail) = AsciiClass.ofText? rest := by
  have absent : ∀ entry ∈ asciiClasses, ')' ∉ entry.1.toList := by decide
  unfold AsciiClass.ofText?
  rw [← List.head?_filterMap, ← List.head?_filterMap]
  refine congrArg List.head? (List.filterMap_congr fun entry listed => ?_)
  have notInName := absent entry listed
  simp only
  rw [isPrefixOf_append (by simp [notInName]), isPrefixOf_append (by simp [notInName])]

namespace Reader

/-! ### Hyphens in classes -/

private theorem dropWhile_white_append (rest tail : List Char) :
    (rest ++ ')' :: tail).dropWhile Unicode.whiteSpace.contains =
      rest.dropWhile Unicode.whiteSpace.contains ++ ')' :: tail := by
  have notWhite : Unicode.whiteSpace.contains ')' = false := rfl
  rw [List.dropWhile_append]
  split
  next blank =>
    rw [List.isEmpty_iff.mp blank, List.dropWhile_cons, if_neg (by simp [notWhite])]
    rfl
  next => rfl

private theorem head?_of_dropWhile {d : Char} {rest text : List Char}
    (notWhite : Unicode.whiteSpace.contains d = false)
    (dropped : rest.dropWhile Unicode.whiteSpace.contains = text) (other : text.head? ≠ some d) :
    rest.head? ≠ some d := by
  intro head
  cases rest with
  | nil => simp at head
  | cons c rest =>
      obtain rfl : c = d := by simpa using head
      rw [List.dropWhile_cons, if_neg (by simp [notWhite])] at dropped
      exact other (by rw [← dropped]; rfl)

/-- Behind a hyphen the characters that matter are seen as before. Where verbose mode passes over
all that is left, the parenthesis is seen instead of a gap, and neither of them matters. -/
theorem afterHyphen_append (flags : Flags) (rest tail : List Char) {d : Char}
    (notWhite : Unicode.whiteSpace.contains d = false) (notSign : d ≠ '#')
    (notClosing : d ≠ ')') :
    afterHyphen flags (rest ++ ')' :: tail) = some d ↔ afterHyphen flags rest = some d := by
  have head : (rest ++ ')' :: tail).head? = some d ↔ rest.head? = some d := by
    cases rest with
    | nil => simpa using notClosing.symm
    | cons c rest => rfl
  unfold afterHyphen
  split
  · rw [dropWhile_white_append]
    cases blank : rest.dropWhile Unicode.whiteSpace.contains with
    | nil =>
        have noHead := head?_of_dropWhile notWhite blank (by simp)
        simp [noHead, notClosing.symm]
    | cons c more =>
        by_cases sign : c = '#'
        · subst sign
          have noHead := head?_of_dropWhile notWhite blank (by simpa using notSign.symm)
          simp only [List.cons_append, dropWhile_white_append]
          cases more.dropWhile Unicode.whiteSpace.contains with
          | nil => simp [noHead, notClosing.symm]
          | cons e others => simp
        · simp [sign]
  · exact head

/-! ### Openings of groups -/

/-- What opens a group is seen in the text itself, which is not at its end there. -/
theorem stepQuestion_append {reader after : Reader} {rest : List Char}
    (opens : reader.stepQuestion rest = .ok after) (tail : List Char) :
    reader.stepQuestion (rest ++ ')' :: tail) = .ok after := by
  unfold stepQuestion at opens
  split at opens
  next => simp at opens
  next => simp at opens
  next => simp at opens
  next => simp at opens
  next => simp at opens
  next others notBehind notNegated =>
    cases others with
    | nil => exact opens
    | cons d others =>
        have notEqual : d ≠ '=' := fun same => notBehind others (by rw [same])
        have notMark : d ≠ '!' := fun same => notNegated others (by rw [same])
        simpa [stepQuestion, notEqual, notMark] using opens
  next others => exact opens
  next notEmpty notAhead notNegated _ _ notNamed notLong =>
    cases rest with
    | nil => exact absurd rfl notEmpty
    | cons c others =>
        have notEqual : c ≠ '=' := fun same => notAhead others (by rw [same])
        have notMark : c ≠ '!' := fun same => notNegated others (by rw [same])
        have notAngle : c ≠ '<' := fun same => notNamed others (by rw [same])
        cases others with
        | nil => simpa [stepQuestion, notEqual, notMark, notAngle] using opens
        | cons d others =>
            by_cases letter : c = 'P'
            · subst letter
              have notAngle : d ≠ '<' := fun same => notLong others (by rw [same])
              simpa [stepQuestion, notAngle] using opens
            · simpa [stepQuestion, notEqual, notMark, notAngle, letter] using opens

/-! ### Steps -/

section Tail

variable (reader : Reader) (rest tail : List Char)

private theorem head?_tail : (rest ++ ')' :: tail).head? = (rest ++ [')']).head? := by
  cases rest <;> rfl

theorem afterHyphen_tail (flags : Flags) :
    afterHyphen flags (rest ++ ')' :: tail) = afterHyphen flags (rest ++ [')']) := by
  unfold afterHyphen
  rw [dropWhile_white_append, dropWhile_white_append, head?_tail rest]
  cases rest.dropWhile Unicode.whiteSpace.contains with
  | nil => rfl
  | cons c more =>
      by_cases sign : c = '#'
      · subst sign
        simp only [List.cons_append, dropWhile_white_append]
        rw [head?_tail]
      · simp [sign]

theorem stepQuestion_tail :
    reader.stepQuestion (rest ++ ')' :: tail) = reader.stepQuestion (rest ++ [')']) := by
  cases rest with
  | nil => rfl
  | cons c others =>
      by_cases angle : c = '<'
      · subst angle
        cases others with
        | nil => rfl
        | cons d others =>
            by_cases behind : d = '=' ∨ d = '!'
            · rcases behind with rfl | rfl <;> rfl
            · rw [not_or] at behind
              simp [stepQuestion, behind]
      · by_cases letter : c = 'P'
        · subst letter
          cases others with
          | nil => rfl
          | cons d others =>
              by_cases angle : d = '<'
              · subst angle
                rfl
              · simp [stepQuestion, angle]
        · by_cases ahead : c = '=' ∨ c = '!'
          · rcases ahead with rfl | rfl <;> rfl
          · rw [not_or] at ahead
            simp [stepQuestion, angle, letter, ahead]

theorem stepEscape_tail (escape : Escape) (c : Char) :
    reader.stepEscape escape c (rest ++ ')' :: tail) =
      reader.stepEscape escape c (rest ++ [')']) := by
  cases escape with
  | opened => simp only [stepEscape, stepEscaped, head?_tail rest tail]
  | _ => rfl

theorem stepMember_tail (bracket : Bracket) (outer : List Bracket) (c : Char) :
    reader.stepMember bracket outer c (rest ++ ')' :: tail) =
      reader.stepMember bracket outer c (rest ++ [')']) := by
  simp only [stepMember, ofText?_append, head?_tail rest tail]

theorem stepBetween_tail (c : Char) :
    reader.stepBetween c (rest ++ ')' :: tail) = reader.stepBetween c (rest ++ [')']) := by
  simp only [stepBetween, stepPlain, stepBracket, repeatSign, stepMember_tail, afterHyphen_tail,
    head?_tail rest tail]

/-- No step looks further than to the next closing parenthesis. -/
theorem step_tail (c : Char) :
    reader.step c (rest ++ ')' :: tail) = reader.step c (rest ++ [')']) := by
  have plain (reader : Reader) :
      reader.stepPlain c (rest ++ ')' :: tail) = reader.stepPlain c (rest ++ [')']) := by
    simp only [stepPlain, repeatSign, head?_tail rest tail]
  simp only [step, stepMode, stepBetween_tail, stepQuestion_tail, stepEscape_tail, plain]

end Tail

/-- The step that reads a closing parenthesis does not look beyond it. -/
theorem step_closing_tail (reader : Reader) (tail : List Char) :
    reader.step ')' tail = reader.step ')' [] := by
  have member (reader : Reader) (bracket : Bracket) (outer : List Bracket) :
      reader.stepMember bracket outer ')' tail = reader.stepMember bracket outer ')' [] := rfl
  have bracket (reader : Reader) (bracket : Bracket) (outer : List Bracket) :
      reader.stepBracket bracket outer ')' tail = reader.stepBracket bracket outer ')' [] := by
    unfold stepBracket
    cases bracket.place <;> rfl
  have escape (reader : Reader) (escape : Escape) :
      reader.stepEscape escape ')' tail = reader.stepEscape escape ')' [] := by
    cases escape <;> rfl
  simp only [step, stepMode, stepBetween, bracket, escape]
  rfl

/-- A text up to a closing parenthesis is read without regard to what follows. -/
theorem read_tail (reader : Reader) (text tail : List Char) :
    reader.read (text ++ ')' :: tail) =
      reader.read (text ++ [')']) >>= fun after => after.read tail := by
  induction text generalizing reader with
  | nil =>
      simp only [List.nil_append, read]
      rw [step_closing_tail reader tail]
      cases reader.step ')' [] <;> rfl
  | cons c rest inductionHypothesis =>
      simp only [List.cons_append, read]
      rw [step_tail]
      cases reader.step c (rest ++ [')']) with
      | error cause => rfl
      | ok after => exact inductionHypothesis after

end Reader

end Stencil.Regex
