import Stencil.Regex.Compiled

/-!
An estimate of the size of compiled expressions.

Owns the measure that the program runs with (`estimated`). An engine has one of its own, and nothing
is proved about this one: the results hold for every measure, and only a run needs a value.
-/

namespace Stencil.Regex

namespace Estimate

/-- The bytes that one state of a compiled expression takes. -/
def stateSize : Nat := 32

/-- The bytes that the states of a set take. Beyond ASCII a set needs several states for the bytes
of its characters. -/
def setSize (set : CharSet) : Nat :=
  if set.isAscii then stateSize + 8 * set.intervals.length
  else stateSize + 80 * set.intervals.length

/-- The bytes that the states of an expression take. The copies that a repetition makes are counted
without making them. -/
def statesSize : Expr → Nat
  | .empty => stateSize
  | .literal text => stateSize * text.length
  | .oneOf set => setSize set
  | .look _ => stateSize
  | .group _ body => 2 * stateSize + statesSize body
  | .sequence first second => statesSize first + statesSize second
  | .choice first second => stateSize + statesSize first + statesSize second
  | .rounds least most _ body =>
    match most with
    | some bound => stateSize + bound * (statesSize body + stateSize)
    | none => (max least 1) * statesSize body + 2 * stateSize

/-- The bytes that every compiled expression takes beside its states. -/
def fixedSize : Nat := 96

end Estimate

instance estimated : Measure where
  bytes expr := Estimate.fixedSize + Estimate.statesSize expr

end Stencil.Regex
