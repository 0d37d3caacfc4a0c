import Stencil.Document
import Stencil.Yaml.Node

/-!
Documents in YAML.

Owns the readings of scalars as natural numbers and truth values, and `Yaml.document?`, the document
that a text in YAML denotes. Every scalar reads as a text. Plain scalars, and literal ones with the
tag of the kind, read as numbers and truth values as well.
-/

namespace Stencil.Yaml

/-- The value of digits in a base, if there are any and all are digits of that base. -/
def digitsValue? (base : Nat) (digits : List Char) : Option Nat :=
  if digits.isEmpty then none
  else
    digits.foldlM (fun value c => do
      let digit ← CharSet.hexDigitValue? c
      if digit < base then some (value * base + digit) else none) 0

/-- A natural number: after a plus sign, which may be absent, digits in base 16, 8 or 2 after their
mark, or in base 10 without a leading zero. -/
def natural? (text : List Char) : Option Nat :=
  let unsigned := match text with
    | '+' :: rest => rest
    | _ => text
  let value := match unsigned with
    | '0' :: 'x' :: digits => digitsValue? 16 digits
    | '0' :: 'o' :: digits => digitsValue? 8 digits
    | '0' :: 'b' :: digits => digitsValue? 2 digits
    | ['0'] => some 0
    | '0' :: _ => none
    | digits => digitsValue? 10 digits
  value.filter fun value => value < wordLimit

/-- A truth value in one of its three spellings. -/
def flag? (text : String) : Option Bool :=
  if text = "true" ∨ text = "True" ∨ text = "TRUE" then some true
  else if text = "false" ∨ text = "False" ∨ text = "FALSE" then some false
  else none

/-- Whether a scalar may read as a value of the kind whose tag has the given name. -/
def readsAs (style : Style) (tag : Option (List Char)) (kind : String) : Bool :=
  match style with
  | .plain => true
  | .literal => tag == some (coreTagStart ++ kind.toList)
  | .other => false

def scalarOf (text : String) (style : Style) (tag : Option (List Char)) : Scalar :=
  { text := some text
    natural := if readsAs style tag "int" then natural? text.toList else none
    flag := if readsAs style tag "bool" then flag? text else none
    isAbsent := style == .plain && text.isEmpty }

namespace Tree

/-- A node with its alias followed. What a reference stands for is no alias. -/
def follow (tree : Tree) (node : Node) : Option Node :=
  match node with
  | .alias reference => tree.refer? reference
  | _ => some node

/-- The text of a node, if it is a scalar. -/
def text? (tree : Tree) (node : Node) : Option String :=
  match tree.follow node with
  | some (.scalar text _ _) => some text
  | _ => none

/-- A node as a document down to the given depth. A sequence is no setting, and neither is what lies
deeper. -/
def document (tree : Tree) : (depth : Nat) → Node → Document
  | 0, _ => .other
  | depth + 1, node =>
    match tree.follow node with
    | some (.scalar text style tag) => .scalar (scalarOf text style tag)
    | some (.mapping entries) =>
      .map (entries.map fun entry => (tree.text? entry.1, document tree depth entry.2))
    | _ => .other

end Tree

/-- The greatest depth of settings: a map of maps of scalars. -/
def settingsDepth : Nat := 3

/-- The document that a text denotes, as deep as settings go. -/
def document? (text : String) : Option Document := do
  let tree ← tree? text
  match tree.root with
  | some root => pure (tree.document settingsDepth root)
  | none => pure (.scalar { isAbsent := true })

end Stencil.Yaml
