/-!
Documents: what a text in a data format says, as far as settings go.

Owns `Document`, a tree of scalars, lists and maps. A scalar has up to three readings, as a text, as
a natural number and as a truth value; the format decides which of them it has. A map keeps its
entries in the order of the text, repeated keys included. `wordLimit` bounds the natural numbers.
-/

namespace Stencil

/-- The numbers that a machine word can hold are below this one. -/
def wordLimit : Nat := Nat.pow 2 64

structure Scalar where
  text : Option String := none
  natural : Option Nat := none
  flag : Option Bool := none
  /-- Whether nothing is written in the place of the scalar. -/
  isAbsent : Bool := false
deriving Repr, DecidableEq, Inhabited

/-- What a text says. -/
inductive Document where
  | scalar (scalar : Scalar)
  | list (items : List Document)
  /-- A map; a key without a text is none that a setting can have. -/
  | map (entries : List (Option String × Document))
  /-- What can be no setting. -/
  | other
deriving Repr, Inhabited

namespace Document

def text? : Document → Option String
  | .scalar reading => reading.text
  | _ => none

def natural? : Document → Option Nat
  | .scalar reading => reading.natural
  | _ => none

/-- The truth value of a scalar. -/
def flag? : Document → Option Bool
  | .scalar reading => reading.flag
  | _ => none

/-- The entries of a map; where nothing is written there are none. -/
def entries? : Document → Option (List (Option String × Document))
  | .map entries => some entries
  | .scalar reading => if reading.isAbsent then some [] else none
  | _ => none

end Document

end Stencil
