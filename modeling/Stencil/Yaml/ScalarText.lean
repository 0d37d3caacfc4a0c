import Stencil.CharSet
import Stencil.Yaml.Cell

/-!
The texts of YAML scalars.

Owns the reading of plain, quoted and block scalars from their first cell to their last. Within
plain and quoted scalars a single line break reads as a space, and of several the first is dropped;
blanks at the ends of their lines are dropped. `Fold` holds the breaks and blanks that have been read and
wait for the text after them.
-/

namespace Stencil.Yaml

/-- A text that is being read, latest character first, with the blanks and breaks after it. -/
structure Fold where
  text : List Char := []
  /-- Blanks since the text, latest first, if no break has come. -/
  blanks : List Char := []
  /-- The first break since the text. -/
  break? : Option Char := none
  /-- The breaks after it, latest first. -/
  breaks : List Char := []
  /-- Whether the line of the text has ended. -/
  broken : Bool := false
deriving Repr

namespace Fold

def takeBlank (fold : Fold) (c : Char) : Fold :=
  if fold.broken then fold else { fold with blanks := c :: fold.blanks }

def takeBreak (fold : Fold) (c : Char) : Fold :=
  if fold.broken then { fold with breaks := c :: fold.breaks }
  else { fold with blanks := [], break? := some c, broken := true }

/-- Ends the line of the text with a break that is not part of it. -/
def takeHiddenBreak (fold : Fold) : Fold := { fold with broken := true }

def join (fold : Fold) : Fold :=
  if fold.broken then
    if fold.break? == some '\n' then
      { text := if fold.breaks.isEmpty then ' ' :: fold.text else fold.breaks ++ fold.text }
    else { text := fold.breaks ++ (fold.break?.toList ++ fold.text) }
  else { text := fold.blanks ++ fold.text }

/-- Joins what waits to the text, and a character after it. -/
def take (fold : Fold) (c : Char) : Fold :=
  let joined := fold.join
  { joined with text := c :: joined.text }

end Fold

/-! ### Plain scalars -/

/-- The text of a plain scalar, the cells after it, and whether a line has ended between them. -/
structure PlainScalar where
  text : String
  rest : List Cell
  broken : Bool

/-- The scalar that ends with what has been read; blanks and breaks after its text are not part of
it. -/
def PlainScalar.ofFold (fold : Fold) (rest : List Cell) : PlainScalar :=
  ⟨String.ofList fold.text.reverse, rest, fold.broken⟩

/-- Whether a character delimits the parts of a flow collection. -/
def isFlowSign (c : Char) : Bool :=
  c == ',' || c == '[' || c == ']' || c == '\x7b' || c == '\x7d'

/-- Reads a plain scalar. In a block its lines are indented by `indent` at least. It ends before a
colon with a gap after it, before a number sign with a gap before it, before the sign of a document,
and in a flow collection before its delimiters. -/
def plainScalar? (inFlow : Bool) (indent : Nat) (fold : Fold) (inGap : Bool) :
    List Cell → Option PlainScalar
  | [] => some (.ofFold fold [])
  | cell :: rest =>
    if cell.isBlank then
      if fold.broken ∧ cell.mark.column < indent ∧ cell.char = '\t' then none
      else plainScalar? inFlow indent (fold.takeBlank cell.char) true rest
    else if cell.isBreak then
      plainScalar? inFlow indent (fold.takeBreak cell.char) true rest
    else if inGap && ((!inFlow && cell.mark.column < indent) || atDocumentSign (cell :: rest) ||
        cell.char == '#') then some (.ofFold fold (cell :: rest))
    else if inFlow && cell.char == ':' && (startsWith '?' rest ||
        rest.head?.any (fun next => isFlowSign next.char)) then none
    else if (cell.char == ':' && atGap rest) || (inFlow && isFlowSign cell.char) then
      some (.ofFold fold (cell :: rest))
    else plainScalar? inFlow indent (fold.take cell.char) false rest

/-! ### Quoted scalars -/

/-- The character that an escape of one letter stands for. -/
def escapedChar? : Char → Option Char
  | '0' => some '\x00'
  | 'a' => some '\x07'
  | 'b' => some '\x08'
  | 't' => some '\t'
  | '\t' => some '\t'
  | 'n' => some '\n'
  | 'v' => some '\x0b'
  | 'f' => some '\x0c'
  | 'r' => some '\r'
  | 'e' => some '\x1b'
  | ' ' => some ' '
  | '"' => some '"'
  | '/' => some '/'
  | '\\' => some '\\'
  | 'N' => some '\u0085'
  | '_' => some '\u00a0'
  | 'L' => some '\u2028'
  | 'P' => some '\u2029'
  | _ => none

/-- The number of digits that follow the letter of an escape for a code point. -/
def escapeWidth? : Char → Option Nat
  | 'x' => some 2
  | 'u' => some 4
  | 'U' => some 8
  | _ => none

inductive QuotePlace where
  | inside
  /-- After a backslash. -/
  | escape
  | digits (left value : Nat)
  /-- After the first of two single quotes. -/
  | quote
deriving Repr, DecidableEq

/-- The character of a code point, if it is one. -/
def charOf? (value : Nat) : Option Char :=
  if value < 0xD800 ∨ (0xDFFF < value ∧ value ≤ CharSet.lastCodePoint)
  then some (Char.ofNat value) else none

/-- Reads a quoted scalar from after its opening quote: its text and the cells after it. Two single
quotes stand for one in single quotes, and escapes for characters in double quotes; a backslash at
the end of a line hides the break. -/
def quotedScalar? (quote : Char) (place : QuotePlace) (fold : Fold) :
    List Cell → Option (String × List Cell)
  | [] => none
  | cell :: rest =>
    match place with
    | .quote => quotedScalar? quote .inside (fold.take cell.char) rest
    | .escape =>
      if cell.isBreak then quotedScalar? quote .inside fold.join.takeHiddenBreak rest
      else
        match escapeWidth? cell.char with
        | some width => quotedScalar? quote (.digits width 0) fold rest
        | none =>
          match escapedChar? cell.char with
          | some c => quotedScalar? quote .inside (fold.take c) rest
          | none => none
    | .digits left value =>
      match CharSet.hexDigitValue? cell.char with
      | none => none
      | some digit =>
        let value := value * 16 + digit
        if left ≤ 1 then
          match charOf? value with
          | some c => quotedScalar? quote .inside (fold.take c) rest
          | none => none
        else quotedScalar? quote (.digits (left - 1) value) fold rest
    | .inside =>
      if cell.isBlank then quotedScalar? quote .inside (fold.takeBlank cell.char) rest
      else if cell.isBreak then quotedScalar? quote .inside (fold.takeBreak cell.char) rest
      else if atDocumentSign (cell :: rest) then none
      else if quote == '\'' && cell.char == quote && startsWith quote rest then
        quotedScalar? quote .quote fold rest
      else if cell.char == quote then some (String.ofList fold.join.text.reverse, rest)
      else if quote == '"' && cell.char == '\\' then quotedScalar? quote .escape fold rest
      else quotedScalar? quote .inside (fold.take cell.char) rest

/-! ### Block scalars -/

/-- What becomes of the breaks at the end of a block scalar. -/
inductive Chomping where
  /-- The first is kept. -/
  | clip
  | strip
  | keep
deriving Repr, DecidableEq

/-- The header of a block scalar: its chomping, and its indentation if it is given. -/
structure BlockHeader where
  chomping : Chomping := .clip
  increment : Option Nat := none
deriving Repr, DecidableEq

def Chomping.ofChar? : Char → Option Chomping
  | '+' => some .keep
  | '-' => some .strip
  | _ => none

/-- Reads the two indicators of a block scalar, which may come in either order. -/
def blockHeader? (cells : List Cell) : Option (BlockHeader × List Cell) :=
  let digit? (cells : List Cell) : Option (Option Nat × List Cell) :=
    match cells with
    | cell :: rest =>
      if cell.char = '0' then none
      else if cell.char.isDigit then some (some (cell.char.toNat - 48), rest)
      else some (none, cells)
    | [] => some (none, [])
  let sign (cells : List Cell) : Option Chomping × List Cell :=
    match cells with
    | cell :: rest =>
      match Chomping.ofChar? cell.char with
      | some chomping => (some chomping, rest)
      | none => (none, cells)
    | [] => (none, [])
  match sign cells with
  | (some chomping, rest) => do
    let (increment, rest) ← digit? rest
    pure (⟨chomping, increment⟩, rest)
  | (none, rest) => do
    let (increment, rest) ← digit? rest
    match increment with
    | none => pure ({}, rest)
    | some _ =>
      let (chomping, rest) := sign rest
      pure (⟨chomping.getD .clip, increment⟩, rest)

/-- The cells after the blanks and the comment at the end of a line and after its break; nothing
else may stand there. -/
def lineEnd? (inComment : Bool) : List Cell → Option (List Cell)
  | [] => some []
  | cell :: rest =>
    if cell.isBreak then some rest
    else if inComment then lineEnd? true rest
    else if cell.isBlank then lineEnd? false rest
    else if cell.char = '#' then lineEnd? true rest
    else none

/-- The lines of a block scalar that is being read. -/
structure BlockState where
  text : List Char := []
  /-- The break after the last line. -/
  break? : Option Char := none
  /-- The breaks after that one, latest first. -/
  breaks : List Char := []
  /-- Whether the last line begins with a blank. -/
  lastIsIndented : Bool := false
  /-- The indentation, once it is known. -/
  indent : Option Nat := none
  /-- The greatest column that the indentation so far has reached. -/
  widest : Nat := 0
deriving Repr

namespace BlockState

def isWithin (state : BlockState) (column : Nat) : Bool :=
  state.indent.all fun indent => column < indent

/-- The state with the indentation known: at least one more than that of the block around, and at
least what has been reached. -/
def settle (state : BlockState) (least column : Nat) : BlockState :=
  { state with indent := some (state.indent.getD (max (max state.widest column) least)) }

/-- Begins a line: the breaks before it join the text. In a folded scalar a single break between two
lines that do not begin with a blank reads as a space, and of several the first is dropped. -/
def beginLine (state : BlockState) (folded isIndented : Bool) : BlockState :=
  let joined :=
    if folded && state.break? == some '\n' && !state.lastIsIndented && !isIndented then
      if state.breaks.isEmpty then ' ' :: state.text else state.breaks ++ state.text
    else state.breaks ++ (state.break?.toList ++ state.text)
  { state with text := joined, break? := none, breaks := [], lastIsIndented := isIndented }

/-- The text at the end of the scalar. -/
def finish (state : BlockState) (chomping : Chomping) : String :=
  let text := match chomping with
    | .strip => state.text
    | .clip => state.break?.toList ++ state.text
    | .keep => state.breaks ++ (state.break?.toList ++ state.text)
  String.ofList text.reverse

end BlockState

/-- Reads the lines of a block scalar: its text and the cells after it. The scalar ends before the
first line that is indented less. -/
def blockLines? (folded : Bool) (chomping : Chomping) (least : Nat) (inLine : Bool)
    (state : BlockState) : List Cell → Option (String × List Cell)
  | [] => some (state.finish chomping, [])
  | cell :: rest =>
    if inLine then
      if cell.isBreak then
        blockLines? folded chomping least false { state with break? := some cell.char } rest
      else
        blockLines? folded chomping least true { state with text := cell.char :: state.text } rest
    else if state.isWithin cell.mark.column && cell.char == ' ' then
      blockLines? folded chomping least false
        { state with widest := max state.widest (cell.mark.column + 1) } rest
    else if state.isWithin cell.mark.column && cell.char == '\t' then none
    else if cell.isBreak then
      blockLines? folded chomping least false
        { state with breaks := cell.char :: state.breaks } rest
    else
      let state := state.settle least cell.mark.column
      if state.indent == some cell.mark.column then
        let begun := state.beginLine folded cell.isBlank
        blockLines? folded chomping least true { begun with text := cell.char :: begun.text } rest
      else some (state.finish chomping, cell :: rest)

/-- Reads a block scalar from after its sign: its text and the cells after it. `outer` is the
indentation of the block around, if there is one. -/
def blockScalar? (folded : Bool) (outer : Option Nat) (cells : List Cell) :
    Option (String × List Cell) := do
  let (header, rest) ← blockHeader? cells
  let rest ← lineEnd? false rest
  let indent := header.increment.map fun increment => outer.getD 0 + increment
  let least := match outer with
    | some indent => indent + 1
    | none => 1
  blockLines? folded header.chomping least false { indent } rest

end Stencil.Yaml
