import Stencil.CharSet

/-!
Regular expressions as trees.

Owns:
- `Look`, the conditions on a place between two characters, and when they hold;
- `Expr`, the expressions, with their groups numbered from 1 in the order of their opening;
- the builders that keep expressions in normal form: runs of characters in one node, and no
  repetition that is empty, single, or able to repeat an empty match;
- the greatest index of a group, which counts the groups that were opened up to the last one left.
-/

namespace Stencil.Regex

/-! ### Conditions on a place -/

/-- What a word condition asks of the two sides of a place. -/
inductive WordSide where
  /-- Exactly one of the sides is a word character. -/
  | boundary
  /-- Both sides are word characters or neither is. -/
  | inside
  /-- A word begins here. -/
  | start
  /-- A word ends here. -/
  | stop
  /-- No word character stands before the place. -/
  | startHalf
  /-- No word character stands after the place. -/
  | stopHalf
deriving Repr, DecidableEq

/-- A condition on a place between two characters. -/
inductive Look where
  | textStart
  | textEnd
  /-- The start of a line, where lines end with a line feed. -/
  | lineStart
  | lineEnd
  /-- The start of a line, where lines end with a carriage return, a line feed or both. -/
  | anyLineStart
  | anyLineEnd
  /-- A word condition, for words of the given characters. -/
  | word (side : WordSide) (characters : CharSet)
deriving Repr, DecidableEq

/-- Whether a word condition holds, by whether a word character stands before and after. -/
def WordSide.holds (side : WordSide) (before after : Bool) : Bool :=
  match side with
  | .boundary => before != after
  | .inside => before == after
  | .start => !before && after
  | .stop => before && !after
  | .startHalf => !before
  | .stopHalf => !after

/-- Whether a condition holds between the character before a place and the text after it. A place
between a carriage return and a line feed is neither the start nor the end of a line. -/
def Look.holds (look : Look) (before : Option Char) (after : List Char) : Bool :=
  match look with
  | .textStart => before.isNone
  | .textEnd => after.isEmpty
  | .lineStart => before.isNone || before == some '\n'
  | .lineEnd => after.isEmpty || after.head? == some '\n'
  | .anyLineStart =>
    before.isNone || before == some '\n' || (before == some '\r' && after.head? != some '\n')
  | .anyLineEnd =>
    after.isEmpty || after.head? == some '\r' || (after.head? == some '\n' && before != some '\r')
  | .word side characters =>
    side.holds (before.any characters.contains) (after.head?.any characters.contains)

/-! ### Expressions -/

/-- A regular expression. -/
inductive Expr where
  | empty
  /-- Matches the characters in their order. -/
  | literal (text : List Char)
  | oneOf (set : CharSet)
  /-- Matches the empty text where the condition holds. -/
  | look (condition : Look)
  /-- Matches the body and captures what it matched. -/
  | group (index : Nat) (body : Expr)
  | sequence (first second : Expr)
  /-- Matches either part and prefers the first. -/
  | choice (first second : Expr)
  /-- Matches the body at least `least` and at most `most` times, and prefers more rounds if it is
  greedy. -/
  | rounds (least : Nat) (most : Option Nat) (greedy : Bool) (body : Expr)
deriving Repr, Inhabited

namespace Expr

/-- Whether the expression can match nothing but the empty text, by its form. -/
def isEmptyOnly : Expr → Bool
  | .empty => true
  | .literal text => text.isEmpty
  | .oneOf _ => false
  | .look _ => true
  | .group _ body => body.isEmptyOnly
  | .sequence first second => first.isEmptyOnly && second.isEmptyOnly
  | .choice first second => first.isEmptyOnly && second.isEmptyOnly
  | .rounds _ _ _ body => body.isEmptyOnly

/-- The greatest index of a group in the expression, zero if there is none. A group that can have no
rounds is not in it, but keeps its number, so that the groups after it count it. -/
def lastGroup : Expr → Nat
  | .empty => 0
  | .literal _ => 0
  | .oneOf _ => 0
  | .look _ => 0
  | .group index body => max index body.lastGroup
  | .sequence first second => max first.lastGroup second.lastGroup
  | .choice first second => max first.lastGroup second.lastGroup
  | .rounds _ _ _ body => body.lastGroup

/-- The repetition of a body. An empty match is not repeated; no rounds at all match the empty text,
and with them the groups of the body are gone; one round is the body itself. -/
def repeated (least : Nat) (most : Option Nat) (greedy : Bool) (body : Expr) : Expr :=
  let least := if body.isEmptyOnly then min least 1 else least
  let most := if body.isEmptyOnly then some (min (most.getD 1) 1) else most
  if least = 0 ∧ most = some 0 then .empty
  else if least = 1 ∧ most = some 1 then body
  else .rounds least most greedy body

/-- One expression after another. Empty expressions are dropped and runs of characters joined. -/
def andThen (first second : Expr) : Expr :=
  match first, second with
  | .empty, second => second
  | first, .empty => first
  | .literal left, .literal right => .literal (left ++ right)
  | .literal left, .sequence (.literal right) rest => .sequence (.literal (left ++ right)) rest
  | first, second => .sequence first second

def inSequence (parts : List Expr) : Expr := parts.foldr andThen .empty

/-- The listed alternatives, earlier ones preferred. -/
def alternatives : List Expr → Expr
  | [] => .empty
  | [last] => last
  | first :: rest => .choice first (alternatives rest)

end Expr

end Stencil.Regex
