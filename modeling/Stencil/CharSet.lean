/-!
Sets of characters, given by the intervals of their code points.

Owns:
- `CharSet`, a list of closed intervals in ascending order that neither touch nor overlap;
- membership of a character, and the set operations on intervals;
- the reading of a set from its table form, hexadecimal intervals between spaces.

A complement is taken in the code points up to 10FFFF. It may hold code points that are no
characters; no question about a character can tell.
-/

namespace Stencil

/-- The code points of a set of characters, as closed intervals in ascending order. -/
structure CharSet where
  intervals : List (Nat × Nat)
deriving Repr, DecidableEq, Inhabited

namespace CharSet

def empty : CharSet := ⟨[]⟩

def lastCodePoint : Nat := 0x10FFFF

def all : CharSet := ⟨[(0, lastCodePoint)]⟩

/-- A character belongs to a set when one of the intervals holds its code point. -/
def contains (set : CharSet) (c : Char) : Bool :=
  set.intervals.any fun interval => interval.1 ≤ c.toNat && c.toNat ≤ interval.2

/-- Whether some code point of the set lies in the interval from `low` to `high`. -/
def meets (set : CharSet) (low high : Nat) : Bool :=
  set.intervals.any fun interval => interval.1 ≤ high && low ≤ interval.2

/-- An interval list in ascending order, with the interval from `low` to `high` added: intervals
that touch or overlap it are melted into it. -/
def insertInterval (low high : Nat) : List (Nat × Nat) → List (Nat × Nat)
  | [] => [(low, high)]
  | (first, last) :: rest =>
    if high + 1 < first then (low, high) :: (first, last) :: rest
    else if last + 1 < low then (first, last) :: insertInterval low high rest
    else insertInterval (min low first) (max high last) rest

/-- The set with the code points from `low` to `high` added. -/
def insert (low high : Nat) (set : CharSet) : CharSet :=
  ⟨insertInterval low high set.intervals⟩

def interval (low high : Nat) : CharSet := ⟨[(low, high)]⟩

def singleton (c : Char) : CharSet := interval c.toNat c.toNat

/-- The set of the listed intervals, which may come in any order. -/
def ofIntervals (intervals : List (Nat × Nat)) : CharSet :=
  intervals.foldl (fun set interval => set.insert interval.1 interval.2) empty

/-- Two interval lists in ascending order as one, in the order of where the intervals start. -/
def mergeIntervals : (left right : List (Nat × Nat)) → List (Nat × Nat)
  | [], right => right
  | interval :: left, right =>
    right.takeWhile (·.1 < interval.1) ++
      interval :: mergeIntervals left (right.dropWhile (·.1 < interval.1))

/-- The interval from `low` to `high` and those after it, with neighbours that touch or overlap
melted into one. -/
def meltIntervals (low high : Nat) : List (Nat × Nat) → List (Nat × Nat)
  | [] => [(low, high)]
  | (first, last) :: rest =>
    if high + 1 < first ∨ last + 1 < low then (low, high) :: meltIntervals first last rest
    else meltIntervals (min low first) (max high last) rest

def union (left right : CharSet) : CharSet :=
  match mergeIntervals left.intervals right.intervals with
  | [] => empty
  | (low, high) :: rest => ⟨meltIntervals low high rest⟩

/-- The gaps that ascending intervals leave from `next` up to the last code point. -/
def gaps (next : Nat) : List (Nat × Nat) → List (Nat × Nat)
  | [] => if next ≤ lastCodePoint then [(next, lastCodePoint)] else []
  | (first, last) :: rest =>
    if next < first then (next, first - 1) :: gaps (last + 1) rest else gaps (last + 1) rest

/-- The code points outside the set. -/
def complement (set : CharSet) : CharSet := ⟨gaps 0 set.intervals⟩

def inter (left right : CharSet) : CharSet :=
  (left.complement.union right.complement).complement

/-- The characters of the first set that are not in the second. -/
def diff (left right : CharSet) : CharSet := left.inter right.complement

/-- The characters of exactly one of the two sets. -/
def symmDiff (left right : CharSet) : CharSet := (left.union right).diff (left.inter right)

/-- Whether every member is below code point 80. -/
def isAscii (set : CharSet) : Bool := set.intervals.all fun interval => interval.2 < 0x80

def unions (sets : List CharSet) : CharSet := sets.foldl union empty

/-! ### Table form -/

def hexDigitValue? (c : Char) : Option Nat :=
  if '0' ≤ c ∧ c ≤ '9' then some (c.toNat - '0'.toNat)
  else if 'a' ≤ c ∧ c ≤ 'f' then some (c.toNat - 'a'.toNat + 10)
  else if 'A' ≤ c ∧ c ≤ 'F' then some (c.toNat - 'A'.toNat + 10)
  else none

/-- What has been read of a table: the finished intervals, latest first, the start of the interval
that is being read once its end has begun, and the number that is being read. -/
structure TableState where
  finished : List (Nat × Nat)
  first : Option Nat
  number : Option Nat

/-- Ends the interval that is being read, if there is one. -/
def TableState.close (state : TableState) : TableState :=
  match state.number with
  | some number => ⟨(state.first.getD number, number) :: state.finished, none, none⟩
  | none => state

/-- Reads one character of a table: a hyphen divides the ends of an interval, and spaces and line
breaks divide intervals. -/
def TableState.read (state : TableState) (c : Char) : TableState :=
  if c = ' ' ∨ c = '\n' then state.close
  else if c = '-' then { state with first := state.number, number := none }
  else
    match hexDigitValue? c with
    | some digit => { state with number := some (state.number.getD 0 * 16 + digit) }
    | none => state

/-- The set that a table lists in ascending order, such as `41-5A 5F 61-7A`. -/
def ofTable (table : String) : CharSet :=
  ⟨(table.toList.foldl TableState.read ⟨[], none, none⟩).close.finished.reverse⟩

end CharSet

end Stencil
