import Stencil.Registry

/-!
Compiled patterns.

Owns `Pattern`: the text of a pattern with the keys of its placeholders and the regular expression
that decides which inputs match. The expression is anchored at both ends; literal text is escaped in
it, and each placeholder gives way to the fragment of its filter. A pattern without an expression
never matches.
-/

namespace Stencil

/-- The values of a match under their keys. -/
abbrev Params := Std.ExtTreeMap String String

structure Pattern where
  text : String
  keys : List String
  regex : Option Regex

namespace Pattern

/-- A character as an expression that matches it alone. -/
def escapeChar (c : Char) : List Char :=
  if Regex.Reader.metaChars.contains c then ['\\', c] else [c]

/-- Literal text as an expression that matches it alone. -/
def escape (text : List Char) : List Char := text.flatMap escapeChar

def enclose (fragment : String) : List Char := "(?:".toList ++ fragment.toList ++ [')']

/-- The part of the expression that a piece gives way to. -/
def pieceSource (registry : Registry) : Piece → Except Error (List Char)
  | .char c => .ok (escapeChar c)
  | .hole placeholder =>
    match registry.get? placeholder.filter with
    | some fragment => .ok (enclose fragment)
    | none => .error (.unknownFilter placeholder.filter)

/-- The expression between the anchors. The leftmost unknown filter is reported. -/
def bodySource (registry : Registry) (pieces : List Piece) : Except Error (List Char) := do
  let parts ← pieces.mapM (pieceSource registry)
  pure parts.flatten

/-- The expression of a pattern. -/
def source (registry : Registry) (pieces : List Piece) : Except Error String := do
  let body ← bodySource registry pieces
  pure (String.ofList ('^' :: (body ++ ['$'])))

/-- A pattern that matches no input. -/
def never (text : String) (keys : List String) : Pattern := ⟨text, keys, none⟩

section

variable [Regex.Measure]

/-- Compiles a pattern, or tells why it cannot be compiled. -/
def tryCompile (text : String) (registry : Registry) (grammar : Grammar) (sizeLimit : Nat) :
    Except Error Pattern := do
  let pieces := grammar.pieces text.toList
  let source ← source registry pieces
  match Regex.compile source sizeLimit with
  | .ok regex => pure ⟨text, keysOf pieces, some regex⟩
  | .error cause => throw (.invalidPattern text cause.message)

/-- Compiles a pattern. One that cannot be compiled keeps its keys and never matches. -/
def compile (text : String) (registry : Registry) (grammar : Grammar) (sizeLimit : Nat) : Pattern :=
  match tryCompile text registry grammar sizeLimit with
  | .ok pattern => pattern
  | .error _ => never text (grammar.keys text)

end

/-- Whether the pattern matches no input because it has no expression. -/
def isNever (pattern : Pattern) : Bool := pattern.regex.isNone

/-- The text of the expression. -/
def source? (pattern : Pattern) : Option String := pattern.regex.map Regex.source

def groupCount (pattern : Pattern) : Nat := (pattern.regex.map Regex.groupCount).getD 0

/-- The captures in the order of the groups under the keys in their order, as far as there are both.
A group that took no part in the match captures the empty text; of equal keys the last counts. -/
def paramsOf (captures : List (Option String)) (keys : List String) : Params :=
  (keys.zip (captures.map fun capture => capture.getD "")).foldl
    (fun params entry => params.insert entry.1 entry.2) ∅

/-- The values of the placeholders in an input, if it matches. -/
def extract (pattern : Pattern) (input : String) : Option Params := do
  let regex ← pattern.regex
  let captures ← regex.captures? input
  pure (paramsOf captures pattern.keys)

def isMatch (pattern : Pattern) (input : String) : Bool :=
  pattern.regex.any fun regex => regex.isMatch input

/-- There are values exactly for the inputs that match. -/
theorem extract_isSome (pattern : Pattern) (input : String) :
    (pattern.extract input).isSome = pattern.isMatch input := by
  unfold extract isMatch
  cases pattern.regex with
  | none => rfl
  | some regex =>
    cases found : Regex.search regex.program input.toList <;>
      simp [Regex.captures?, Regex.isMatch, found]

end Pattern

end Stencil
