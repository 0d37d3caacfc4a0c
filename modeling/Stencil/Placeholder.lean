import Stencil.Text

/-!
Placeholders and pieces of a pattern.

Owns `Placeholder`, a hole of a pattern that names the filter of its value and perhaps a property,
`Piece`, which is a character of literal text or a placeholder, and what follows from the sequence
of pieces alone: the keys of the values and the places of the placeholders.
-/

namespace Stencil

/-- A hole of a pattern: the filter of its value, and the property that names the value if there is
one. -/
structure Placeholder where
  filter : String
  prop : Option String
deriving Repr, DecidableEq

/-- A placeholder as it is written: the filter and the property between brackets, divided by a
colon. -/
def Placeholder.text (placeholder : Placeholder) : List Char :=
  '[' :: (placeholder.filter.toList ++ ':' :: ((placeholder.prop.getD "").toList ++ [']']))

/-- A piece of a pattern: a character that stands for itself, or a placeholder. -/
inductive Piece where
  | char (c : Char)
  | hole (placeholder : Placeholder)
deriving Repr, DecidableEq

namespace Piece

def text : Piece → List Char
  | .char c => [c]
  | .hole placeholder => placeholder.text

/-- The placeholder of a piece, if it is one. -/
def placeholder? : Piece → Option Placeholder
  | .char _ => none
  | .hole placeholder => some placeholder

end Piece

/-- A placeholder with the bytes of the pattern that it takes: from `start` up to but not including
`stop`. -/
structure Located where
  placeholder : Placeholder
  start : Nat
  stop : Nat
deriving Repr, DecidableEq

/-- The placeholders among pieces of which the first starts at byte `offset`. -/
def locate (offset : Nat) : List Piece → List Located
  | [] => []
  | .char c :: rest => locate (offset + c.utf8Size) rest
  | .hole placeholder :: rest =>
    let stop := offset + byteLength placeholder.text
    ⟨placeholder, offset, stop⟩ :: locate stop rest

/-- The keys of placeholders before which `unnamed` placeholders had no property: the property, or
the number of placeholders before it that have none. -/
def keysFrom (unnamed : Nat) : List Placeholder → List String
  | [] => []
  | placeholder :: rest =>
    match placeholder.prop with
    | some prop => prop :: keysFrom unnamed rest
    | none => toString unnamed :: keysFrom (unnamed + 1) rest

def keysOf (pieces : List Piece) : List String := keysFrom 0 (pieces.filterMap Piece.placeholder?)

end Stencil
