import Stencil.Regex.NamedClass

/-!
Bracketed classes while they are read.

Owns `Bracket`, a class of which the opening bracket has come and the closing one has not: its
members so far, the set operation that waits for its second operand, and the place within the
class. Operations have one strength and are taken from left to right.

Case is folded before a class is negated, and in both operands of an operation. Where characters
are not Unicode, a class may hold ASCII characters only.
-/

namespace Stencil.Regex

inductive SetOperation where
  | intersection
  | difference
  | symmetricDifference
deriving Repr, DecidableEq

def SetOperation.apply (operation : SetOperation) (left right : CharSet) : CharSet :=
  match operation with
  | .intersection => left.inter right
  | .difference => left.diff right
  | .symmetricDifference => left.symmDiff right

/-- The operation whose sign is the given character, written twice. -/
def SetOperation.ofChar? : Char → Option SetOperation
  | '&' => some .intersection
  | '-' => some .difference
  | '~' => some .symmetricDifference
  | _ => none

/-- A member of a class: a character, which may begin or end a range, or a class. -/
inductive Member where
  | char (c : Char)
  | set (set : CharSet)
deriving Repr

inductive BracketPlace where
  /-- After the opening bracket, where a caret may come. -/
  | opened
  /-- After the caret, where hyphens and a first closing bracket are characters. -/
  | leading
  | members
  /-- After a member, which a hyphen may make the start of a range. -/
  | afterMember (member : Member)
  | inRange (low : Member)
deriving Repr

/-- The members of an operand: their union, their number, and the depth of the deepest. -/
structure Operand where
  set : CharSet := CharSet.empty
  count : Nat := 0
  depth : Nat := 0
deriving Repr

namespace Operand

def add (operand : Operand) (set : CharSet) (depth : Nat) : Operand :=
  ⟨operand.set.union set, operand.count + 1, max operand.depth depth⟩

/-- How deep an operand is nested: several members count as one level. -/
def nesting (operand : Operand) : Nat :=
  if 2 ≤ operand.count then operand.depth + 1 else operand.depth

end Operand

/-- The set with its cases folded, if case is ignored. -/
def foldUnder (flags : Flags) (set : CharSet) : CharSet :=
  if flags.ignoreCase then
    if flags.unicode then Unicode.foldCase set else Unicode.foldAsciiCase set
  else set

/-- The set, or its complement if it is negated. A complement holds more than ASCII characters, so
it needs Unicode. -/
def negateUnder (flags : Flags) (negated : Bool) (set : CharSet) : Except SyntaxError CharSet :=
  if negated then
    if flags.unicode then .ok set.complement else .error .notText
  else .ok set

/-- A class that is being read. -/
structure Bracket where
  negated : Bool := false
  place : BracketPlace := .opened
  /-- The first operand of an operation, and how deep it is nested. -/
  waiting : Option (SetOperation × CharSet × Nat) := none
  operand : Operand := {}
deriving Repr

namespace Bracket

/-- The class with a set as its next member. -/
def addSet (bracket : Bracket) (set : CharSet) (depth : Nat) : Bracket :=
  { bracket with place := .members, operand := bracket.operand.add set depth }

/-- The class with a member that begins no range. -/
def addMember (bracket : Bracket) (member : Member) : Bracket :=
  match member with
  | .char c => bracket.addSet (CharSet.singleton c) 0
  | .set set => bracket.addSet set 0

/-- The class with a range between two members, both of which must be characters in order. -/
def addRange (bracket : Bracket) (low high : Member) : Except SyntaxError Bracket :=
  match low, high with
  | .char first, .char last =>
    if first ≤ last then .ok (bracket.addSet (CharSet.interval first.toNat last.toNat) 0)
    else .error .classRange
  | _, _ => .error .classRange

def takeMember (bracket : Bracket) (member : Member) : Except SyntaxError Bracket :=
  match bracket.place with
  | .inRange low => bracket.addRange low member
  | _ => .ok { bracket with place := .afterMember member }

/-- The value of what has been read and how deep it is nested, with the waiting operation
applied. -/
def value (bracket : Bracket) (flags : Flags) : CharSet × Nat :=
  match bracket.waiting with
  | none => (bracket.operand.set, bracket.operand.nesting)
  | some (operation, left, depth) =>
    (operation.apply (foldUnder flags left) (foldUnder flags bracket.operand.set),
      max depth bracket.operand.nesting + 1)

/-- Takes the sign of an operation: what has been read becomes its first operand. -/
def takeOperation (bracket : Bracket) (flags : Flags) (operation : SetOperation) : Bracket :=
  let left := bracket.value flags
  { bracket with waiting := some (operation, left.1, left.2), operand := {} }

/-- The set of a finished class and how deep it is nested. -/
def close (bracket : Bracket) (flags : Flags) : Except SyntaxError (CharSet × Nat) := do
  let result := bracket.value flags
  let set ← negateUnder flags bracket.negated (foldUnder flags result.1)
  pure (set, result.2 + 1)

end Bracket

end Stencil.Regex
