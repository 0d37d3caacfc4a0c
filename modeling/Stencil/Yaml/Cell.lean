/-!
Characters with their places.

Owns `Cell`, a character of a YAML text with its line, its column and its offset in bytes, and
`cells?`, which divides a text into cells. A line break is one cell, whatever it is written as; all
breaks but the two Unicode separators read as a line feed. A text with a character that may not
stand in YAML has no cells.
-/

namespace Stencil.Yaml

/-- Where a character stands: how many bytes come before it, its line and its column, from zero. -/
structure Mark where
  offset : Nat := 0
  line : Nat := 0
  column : Nat := 0
deriving Repr, DecidableEq, Inhabited

/-- A character with its place. -/
structure Cell where
  char : Char
  mark : Mark
deriving Repr, DecidableEq, Inhabited

/-- Whether a character may stand in a text. -/
def isAllowed (c : Char) : Bool :=
  let n := c.toNat
  n == 0x9 || n == 0xA || n == 0xD || (0x20 ≤ n && n ≤ 0x7E) || n == 0x85 ||
    (0xA0 ≤ n && n ≤ 0xD7FF) || (0xE000 ≤ n && n ≤ 0xFFFD) || 0x10000 ≤ n

/-- The two Unicode separators, which break a line and are kept as they are. -/
def isSeparator (c : Char) : Bool := c == '\u2028' || c == '\u2029'

/-- Whether a character is a space or a tab. -/
def isBlankChar (c : Char) : Bool := c == ' ' || c == '\t'

namespace Cell

def isBreak (cell : Cell) : Bool := cell.char == '\n' || isSeparator cell.char

def isBlank (cell : Cell) : Bool := isBlankChar cell.char

end Cell

/-- The cells of characters from a place on, and the place after them. -/
def cellsFrom (mark : Mark) : List Char → List Cell × Mark
  | [] => ([], mark)
  | '\r' :: '\n' :: rest =>
    let (cells, last) := cellsFrom ⟨mark.offset + 2, mark.line + 1, 0⟩ rest
    (⟨'\n', mark⟩ :: cells, last)
  | c :: rest =>
    let offset := mark.offset + c.utf8Size
    if c = '\r' ∨ c = '\n' ∨ c = '\u0085' then
      let (cells, last) := cellsFrom ⟨offset, mark.line + 1, 0⟩ rest
      (⟨'\n', mark⟩ :: cells, last)
    else if isSeparator c then
      let (cells, last) := cellsFrom ⟨offset, mark.line + 1, 0⟩ rest
      (⟨c, mark⟩ :: cells, last)
    else
      let (cells, last) := cellsFrom ⟨offset, mark.line, mark.column + 1⟩ rest
      (⟨c, mark⟩ :: cells, last)

def cells? (text : List Char) : Option (List Cell × Mark) :=
  if text.all isAllowed then some (cellsFrom {} text) else none

/-- Whether the cells begin with a blank or a line break, or there are none. -/
def atGap : List Cell → Bool
  | [] => true
  | cell :: _ => cell.isBlank || cell.isBreak

def startsWith (c : Char) : List Cell → Bool
  | [] => false
  | cell :: _ => cell.char == c

/-- Whether a line begins here with three of the given character and then a gap. -/
def atTriple (c : Char) : List Cell → Bool
  | first :: second :: third :: rest =>
    first.mark.column == 0 && first.char == c && second.char == c && third.char == c && atGap rest
  | _ => false

/-- Whether a line begins here with the sign of the start or of the end of a document. -/
def atDocumentSign (cells : List Cell) : Bool := atTriple '-' cells || atTriple '.' cells

end Stencil.Yaml
