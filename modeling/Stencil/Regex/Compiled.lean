import Stencil.Regex.Reader
import Stencil.Regex.Search

/-!
Compiled regular expressions.

Owns `Regex`, a text with its expression and its program, the two causes for which a text has none,
and what a match captures. The syntax is checked before the size, and the size before the program is
laid out. How large an expression is when it is compiled is the engine's own affair: `Measure` stands
for it, and whatever compiles takes one.
-/

namespace Stencil

open Regex (Expr Inst SyntaxError)

/-- A compiled regular expression. -/
structure Regex where
  source : String
  expr : Expr
  program : Array Inst

namespace Regex

/-- The causes for which a text cannot be compiled. -/
inductive CompileError where
  | malformed (cause : SyntaxError)
  | tooLarge (limit : Nat)
deriving Repr, DecidableEq

/-- The wording of a cause. -/
def CompileError.message : CompileError → String
  | .malformed _ => "regex parse error"
  | .tooLarge limit => s!"Compiled regex exceeds size limit of {limit} bytes."

/-- The size of compiled expressions. -/
class Measure where
  /-- The bytes that an expression takes when it is compiled. -/
  bytes : Expr → Nat

/-- Compiles a text within a limit of bytes. -/
def compile [Measure] (source : String) (sizeLimit : Nat) : Except CompileError Regex :=
  match Expr.ofText source.toList with
  | .error cause => .error (.malformed cause)
  | .ok expr =>
    if sizeLimit < Measure.bytes expr then .error (.tooLarge sizeLimit)
    else .ok ⟨source, expr, searchProgram expr⟩

/-- The number of groups that a match reports: the greatest index of a group. -/
def groupCount (regex : Regex) : Nat := regex.expr.lastGroup

/-- The place that a mark notes, the latest if there are several. -/
def markedPlace? (marks : List (Nat × Nat)) (slot : Nat) : Option Nat :=
  (marks.find? fun mark => mark.1 == slot).map Prod.snd

/-- The text that a group captured, if it took part in the match. In a repetition a group keeps what
it captured in the last round in which it took part. -/
def capture? (marks : List (Nat × Nat)) (text : List Char) (index : Nat) : Option String := do
  let first ← markedPlace? marks (groupStart index)
  let last ← markedPlace? marks (groupEnd index)
  pure (String.ofList ((text.drop first).take (last - first)))

/-- The captures of the preferred match in a text, in the order of the indices, if there is a match.
An index without a group captures nothing. -/
def captures? (regex : Regex) (text : String) : Option (List (Option String)) :=
  (search regex.program text.toList).map fun marks =>
    (List.range regex.groupCount).map fun index => capture? marks text.toList (index + 1)

def isMatch (regex : Regex) (text : String) : Bool :=
  (search regex.program text.toList).isSome

end Regex

end Stencil
