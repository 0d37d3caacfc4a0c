import Stencil.Placeholder

/-!
The grammar of placeholders.

Owns `Grammar`, which bounds the length of identifiers, and the division of a pattern into pieces.
A placeholder is a bracketed filter name, a colon, and a property name that may be empty; both names
are runs of ASCII letters, digits and underscores within the bound. Every other bracket is literal
text, and the search for a placeholder goes on right after it.
-/

namespace Stencil

/-- Whether a character may stand in an identifier. -/
def isWordChar (c : Char) : Bool := c.isAlphanum || c == '_'

/-- A grammar: the greatest length of an identifier in bytes, at least one. -/
structure Grammar where
  maxIdentifierLength : Nat
  positive : 0 < maxIdentifierLength
deriving Repr, DecidableEq

namespace Grammar

/-- The grammar with the given bound; a bound of zero counts as one. -/
def ofBound (bound : Nat) : Grammar := ⟨max bound 1, by omega⟩

def isIdentifier (grammar : Grammar) (name : String) : Bool :=
  !name.isEmpty && name.utf8ByteSize ≤ grammar.maxIdentifierLength && name.toList.all isWordChar

/-- The word characters that a text begins with, as far as the bound allows. -/
def word (grammar : Grammar) (text : List Char) : List Char :=
  (text.takeWhile isWordChar).take grammar.maxIdentifierLength

/-- The placeholder whose text after the opening bracket a text begins with, and what follows it. -/
def placeholder? (grammar : Grammar) (text : List Char) : Option (Placeholder × List Char) :=
  let filter := grammar.word text
  if filter.isEmpty then none
  else
    match text.drop filter.length with
    | ':' :: rest =>
      let prop := grammar.word rest
      match rest.drop prop.length with
      | ']' :: rest =>
        let prop := if prop.isEmpty then none else some (String.ofList prop)
        some (⟨String.ofList filter, prop⟩, rest)
      | _ => none
    | _ => none

/-- What follows a placeholder is shorter than the text from its filter on. -/
theorem length_lt_of_placeholder?
    {grammar : Grammar} {text rest : List Char} {placeholder : Placeholder}
    (found : grammar.placeholder? text = some (placeholder, rest)) :
    rest.length < text.length := by
  unfold placeholder? at found
  simp only at found
  split at found
  · simp at found
  · split at found
    · rename_i afterColon colon
      split at found
      · rename_i afterBracket bracket
        simp only [Option.some.injEq, Prod.mk.injEq] at found
        have colonLength := congrArg List.length colon
        have bracketLength := congrArg List.length bracket
        simp only [List.length_drop, List.length_cons] at colonLength bracketLength
        rw [← found.2]
        omega
      · simp at found
    · simp at found

/-- The pieces of a text, from left to right. -/
def pieces (grammar : Grammar) : List Char → List Piece
  | [] => []
  | c :: rest =>
    if c = '[' then
      match _found : grammar.placeholder? rest with
      | some (placeholder, after) => .hole placeholder :: pieces grammar after
      | none => .char c :: pieces grammar rest
    else .char c :: pieces grammar rest
termination_by text => text.length
decreasing_by
  · have shorter := length_lt_of_placeholder? _found
    simp only [List.length_cons]
    omega
  · simp
  · simp

/-- The placeholders of a pattern with their places, from left to right. -/
def scan (grammar : Grammar) (pattern : String) : List Located :=
  locate 0 (grammar.pieces pattern.toList)

/-- The keys of the placeholders of a pattern, from left to right. -/
def keys (grammar : Grammar) (pattern : String) : List String :=
  keysOf (grammar.pieces pattern.toList)

end Grammar

end Stencil
