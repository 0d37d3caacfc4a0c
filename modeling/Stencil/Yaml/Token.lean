import Stencil.Yaml.ScalarText

/-!
Tokens of YAML texts.

Owns `Token` and `tokens?`, which divides a text into its tokens. The structure of blocks shows in
tokens of its own: a block collection starts where something is indented more than the block around
and ends where something is indented less.

A mapping key is known as such only when the colon after it comes. What may be a key is remembered
as a `PendingKey` with the number of its first token, and the tokens of the key and of the mapping
that it may start are put in before that one.
-/

namespace Stencil.Yaml

/-- How a scalar is written. -/
inductive Style where
  | plain
  | literal
  /-- Quoted or folded. -/
  | other
deriving Repr, DecidableEq

inductive Token where
  | version (major minor : Nat)
  | tagHandle (handle tagStart : List Char)
  | documentStart
  | documentEnd
  | blockSequenceStart
  | blockMappingStart
  | blockEnd
  | flowSequenceStart
  | flowSequenceEnd
  | flowMappingStart
  | flowMappingEnd
  | blockEntry
  | flowEntry
  | key
  | value
  | alias (name : List Char)
  | anchor (name : List Char)
  | tag (handle suffix : List Char)
  | scalar (text : String) (style : Style)
deriving Repr, DecidableEq

/-! ### Names, tags and directives -/

/-- Whether a character may stand in the name of an anchor, of a directive or of a tag handle. -/
def isNameChar (c : Char) : Bool := c.isAlphanum || c == '_' || c == '-'

/-- The characters that satisfy a condition at the start of the cells, and the cells after them. -/
def spanChars (condition : Char → Bool) : List Cell → List Char × List Cell
  | [] => ([], [])
  | cell :: rest =>
    if condition cell.char then
      let (taken, rest) := spanChars condition rest
      (cell.char :: taken, rest)
    else ([], cell :: rest)

/-- The name of an anchor or an alias, after its sign. A gap or one of some signs must follow. -/
def anchorName? (cells : List Cell) : Option (List Char × List Cell) :=
  let (name, rest) := spanChars isNameChar cells
  let mayFollow := atGap rest || rest.head?.any fun cell =>
    ['?', ':', ',', ']', '\x7d', '%', '@', '\x60'].contains cell.char
  if !name.isEmpty && mayFollow then some (name, rest) else none

/-- Whether a character may stand in a tag; in angle brackets a few more may. -/
def isTagChar (verbatim : Bool) (c : Char) : Bool :=
  isNameChar c ||
    [';', '/', '?', ':', '@', '&', '=', '+', '$', '.', '!', '~', '*', '\'', '(', ')'].contains c ||
    (verbatim && (c == ',' || c == '[' || c == ']'))

/-- The number of bytes of a character in UTF-8 whose first byte is given; zero if it is none. -/
def leadingWidth (byte : Nat) : Nat :=
  if byte < 0x80 then 1
  else if 0xC0 ≤ byte ∧ byte < 0xE0 then 2
  else if 0xE0 ≤ byte ∧ byte < 0xF0 then 3
  else if 0xF0 ≤ byte ∧ byte < 0xF8 then 4
  else 0

/-- The value of two hexadecimal digits. -/
def hexByte? (high low : Char) : Option Nat := do
  let high ← CharSet.hexDigitValue? high
  let low ← CharSet.hexDigitValue? low
  pure (high * 16 + low)

/-- Reads the characters of a tag, latest first. An escaped byte is read as the character of that
number; `pending` counts the bytes of a character that are still to come. -/
def tagChars? (verbatim : Bool) (pending : Nat) (taken : List Char) :
    List Cell → Option (List Char × List Cell)
  | [] => if pending = 0 then some (taken, []) else none
  | cell :: rest =>
    if cell.char = '%' then
      match rest with
      | high :: low :: rest =>
        match hexByte? high.char low.char with
        | none => none
        | some byte =>
          if pending = 0 then
            if leadingWidth byte = 0 then none
            else tagChars? verbatim (leadingWidth byte - 1) (Char.ofNat byte :: taken) rest
          else if 0x80 ≤ byte ∧ byte < 0xC0 then
            tagChars? verbatim (pending - 1) (Char.ofNat byte :: taken) rest
          else none
      | _ => none
    else if pending ≠ 0 then none
    else if isTagChar verbatim cell.char then tagChars? verbatim 0 (cell.char :: taken) rest
    else some (taken, cell :: rest)

/-- The handle of a tag, from its exclamation mark on: it may end with another one. -/
def tagHandle? (cells : List Cell) : Option (List Char × List Cell) :=
  match cells with
  | cell :: rest =>
    if cell.char = '!' then
      let (name, rest) := spanChars isNameChar rest
      match rest with
      | next :: after =>
        if next.char = '!' then some ('!' :: (name ++ ['!']), after) else some ('!' :: name, rest)
      | [] => some ('!' :: name, [])
    else none
  | [] => none

/-- Whether a handle is one that a directive can define: it ends with an exclamation mark. -/
def isFullHandle (handle : List Char) : Bool := 2 ≤ handle.length && handle.getLast? == some '!'

/-- What counts of the characters of a tag, which were read latest first: those before a NUL. -/
def tagText (taken : List Char) : List Char := taken.reverse.takeWhile (· != '\x00')

/-- The handle and the suffix of a tag, from its exclamation mark on. A tag without a handle of its
own has the handle `!`; one in angle brackets, and the tag `!` itself, have none. -/
def tagParts? (cells : List Cell) : Option (List Char × List Char × List Cell) :=
  match cells with
  | _ :: second :: rest =>
    if second.char = '<' then
      match tagChars? true 0 [] rest with
      | some (taken, close :: rest) =>
        if !taken.isEmpty && close.char == '>' then some ([], tagText taken, rest) else none
      | _ => none
    else shorthand cells
  | _ => shorthand cells
where
  /-- A tag that is not in angle brackets. -/
  shorthand (cells : List Cell) : Option (List Char × List Char × List Cell) := do
    let (handle, rest) ← tagHandle? cells
    if isFullHandle handle then
      let (taken, rest) ← tagChars? false 0 [] rest
      if taken.isEmpty then none else some (handle, tagText taken, rest)
    else
      let (taken, rest) ← tagChars? false 0 [] rest
      let suffix := handle.drop 1 ++ tagText taken
      if suffix.isEmpty then some ([], ['!'], rest) else some (['!'], suffix, rest)

/-- The token of a tag. A gap must follow, or a comma in a flow collection. -/
def tagToken? (inFlow : Bool) (cells : List Cell) : Option (Token × List Cell) := do
  let (handle, suffix, rest) ← tagParts? cells
  if atGap rest || (inFlow && startsWith ',' rest) then some (.tag handle suffix, rest) else none

def versionDigits : Nat := 9

def versionNumber? (cells : List Cell) : Option (Nat × List Cell) :=
  let (digits, rest) := spanChars Char.isDigit cells
  if digits.isEmpty || versionDigits < digits.length then none
  else some (digits.foldl (fun value digit => value * 10 + (digit.toNat - 48)) 0, rest)

def skipBlanks (cells : List Cell) : List Cell := cells.dropWhile Cell.isBlank

/-- The token of a directive, from after its percent sign, and the cells after its line. -/
def directive? (cells : List Cell) : Option (Token × List Cell) := do
  let (name, rest) := spanChars isNameChar cells
  if !atGap rest then none
  else if name = ['Y', 'A', 'M', 'L'] then
    let (major, rest) ← versionNumber? (skipBlanks rest)
    if startsWith '.' rest then
      let (minor, rest) ← versionNumber? (rest.drop 1)
      let rest ← lineEnd? false rest
      some (.version major minor, rest)
    else none
  else if name = ['T', 'A', 'G'] then
    let (handle, rest) ← tagHandle? (skipBlanks rest)
    if (handle == ['!'] || handle.getLast? == some '!') && rest.head?.any Cell.isBlank then
      let (taken, rest) ← tagChars? true 0 [] (skipBlanks rest)
      if taken.isEmpty || !atGap rest then none
      else
        let rest ← lineEnd? false rest
        some (.tagHandle handle (tagText taken), rest)
    else none
  else none

/-! ### The lexer -/

/-- What may turn out to be the key of a mapping: the number of its first token, its place, and
whether nothing else can stand there. -/
structure PendingKey where
  number : Nat
  mark : Mark
  required : Bool
deriving Repr

/-- What has been read and what is known of it. -/
structure Lexer where
  cells : List Cell
  last : Mark
  /-- The tokens so far, latest first, and their number. -/
  tokens : List Token := []
  count : Nat := 0
  keyAllowed : Bool := true
  /-- What may be a key, for each open flow collection and last for the block. -/
  flowKeys : List (Option PendingKey) := []
  blockKey : Option PendingKey := none
  /-- The column of the block, if there is one, and those of the blocks around it. -/
  indent : Option Nat := none
  outer : List (Option Nat) := []

namespace Lexer

def inFlow (lexer : Lexer) : Bool := !lexer.flowKeys.isEmpty

def mark (lexer : Lexer) : Mark := (lexer.cells.head?.map Cell.mark).getD lexer.last

def push (lexer : Lexer) (token : Token) : Lexer :=
  { lexer with tokens := token :: lexer.tokens, count := lexer.count + 1 }

def pushAt (lexer : Lexer) (token : Token) (cells : List Cell) : Lexer :=
  { lexer.push token with cells }

def insertAt (lexer : Lexer) (number : Nat) (token : Token) : Lexer :=
  let later := lexer.count - number
  { lexer with
    tokens := lexer.tokens.take later ++ token :: lexer.tokens.drop later
    count := lexer.count + 1 }

/-! #### Keys -/

def pending (lexer : Lexer) : Option PendingKey :=
  match lexer.flowKeys with
  | key :: _ => key
  | [] => lexer.blockKey

def setPending (lexer : Lexer) (key : Option PendingKey) : Lexer :=
  match lexer.flowKeys with
  | _ :: outer => { lexer with flowKeys := key :: outer }
  | [] => { lexer with blockKey := key }

/-- Gives up what may be a key. It is an error if it must be one. -/
def dropKey (lexer : Lexer) : Option Lexer :=
  if lexer.pending.any PendingKey.required then none else some (lexer.setPending none)

/-- Remembers that what comes next may be a key. In a block it must be one if it stands in the
column of the block. -/
def saveKey (lexer : Lexer) : Option Lexer :=
  if lexer.keyAllowed then do
    let dropped ← lexer.dropKey
    let required := !lexer.inFlow && lexer.indent == some lexer.mark.column
    pure (dropped.setPending (some ⟨lexer.count, lexer.mark, required⟩))
  else some lexer

/-- The greatest length of a key in bytes. -/
def keyLimit : Nat := 1024

/-- Whether a key that starts at one place cannot have its colon at another: a key takes one line
and has a greatest length. -/
def isStale (key : PendingKey) (mark : Mark) : Bool :=
  key.mark.line < mark.line || key.mark.offset + keyLimit < mark.offset

/-- Gives up the key of the block if it is stale. It is an error if it must be one. In flow
collections nothing must be a key, so a stale key is passed over only when its colon comes. -/
def dropStale (lexer : Lexer) : Option Lexer :=
  match lexer.blockKey with
  | some key =>
    if isStale key lexer.mark then
      if key.required then none else some { lexer with blockKey := none }
    else some lexer
  | none => some lexer

/-! #### Blocks -/

/-- Starts a block collection in the given column, if that is indented more than the block around.
Its token is put in before the one with the given number. -/
def enterBlock (lexer : Lexer) (column number : Nat) (token : Token) : Lexer :=
  if !lexer.inFlow && lexer.indent.all (fun indent => indent < column) then
    { lexer with indent := some column, outer := lexer.indent :: lexer.outer }.insertAt
      number token
  else lexer

/-- The number of blocks that end where something stands in the given column, if anything does. -/
def blocksToLeave (column : Option Nat) : Option Nat → List (Option Nat) → Nat
  | none, _ => 0
  | some indent, outer =>
    if column.all fun column => column < indent then
      match outer with
      | next :: rest => blocksToLeave column next rest + 1
      | [] => 1
    else 0

def leaveBlock (lexer : Lexer) : Lexer :=
  { lexer with indent := lexer.outer.head?.getD none, outer := lexer.outer.drop 1 }.push
    .blockEnd

/-- Ends the given number of blocks. -/
def leaveCount (lexer : Lexer) : Nat → Lexer
  | 0 => lexer
  | count + 1 => lexer.leaveBlock.leaveCount count

/-- Ends the blocks that are indented more than the given column, or all of them. -/
def leaveBlocks (lexer : Lexer) (column : Option Nat) : Lexer :=
  if lexer.inFlow then lexer
  else lexer.leaveCount (blocksToLeave column lexer.indent lexer.outer)

/-! #### Gaps -/

/-- The mark of the byte order, which is passed over where a line begins. -/
def byteOrderMark : Char := '\ufeff'

/-- The cells after blanks, comments and line breaks, and whether a key may start there. Tabs may
stand in flow collections, and in blocks where no key may start. -/
def skipGap (inFlow keyAllowed inComment : Bool) : List Cell → List Cell × Bool
  | [] => ([], keyAllowed)
  | cell :: rest =>
    if cell.isBreak then skipGap inFlow (keyAllowed || !inFlow) false rest
    else if inComment then skipGap inFlow keyAllowed true rest
    else if cell.char = ' ' ∨ (cell.char = byteOrderMark ∧ cell.mark.column = 0) then
      skipGap inFlow keyAllowed false rest
    else if cell.char = '\t' ∧ (inFlow ∨ !keyAllowed) then skipGap inFlow keyAllowed false rest
    else if cell.char = '#' then skipGap inFlow keyAllowed true rest
    else (cell :: rest, keyAllowed)

/-! #### Tokens -/

/-- Reads a token that ends all blocks and keys: a directive or the sign of a document. -/
def takeDocumentToken (lexer : Lexer) (token : Token) (cells : List Cell) : Option Lexer := do
  let lexer ← (lexer.leaveBlocks none).dropKey
  pure ({ lexer with keyAllowed := false }.pushAt token cells)

def openFlow (lexer : Lexer) (token : Token) (cells : List Cell) : Option Lexer := do
  let lexer ← lexer.saveKey
  pure ({ lexer with flowKeys := none :: lexer.flowKeys, keyAllowed := true }.pushAt token cells)

def closeFlow (lexer : Lexer) (token : Token) (cells : List Cell) : Option Lexer := do
  let lexer ← lexer.dropKey
  pure ({ lexer with flowKeys := lexer.flowKeys.drop 1, keyAllowed := false }.pushAt token cells)

/-- Starts a block collection at the place of the lexer, for which a key must be allowed. -/
def enterBlockHere (lexer : Lexer) (token : Token) : Option Lexer :=
  if lexer.inFlow then some lexer
  else if lexer.keyAllowed then
    some (lexer.enterBlock lexer.mark.column lexer.count token)
  else none

def takeBlockEntry (lexer : Lexer) (cells : List Cell) : Option Lexer := do
  let lexer ← lexer.enterBlockHere .blockSequenceStart
  let lexer ← lexer.dropKey
  pure ({ lexer with keyAllowed := true }.pushAt .blockEntry cells)

def takeKeySign (lexer : Lexer) (cells : List Cell) : Option Lexer := do
  let lexer ← lexer.enterBlockHere .blockMappingStart
  let lexer ← lexer.dropKey
  pure ({ lexer with keyAllowed := !lexer.inFlow }.pushAt .key cells)

/-- Reads the sign of a value. What may be a key before it turns out to be one, if it is not
stale. -/
def takeValueSign (lexer : Lexer) (cells : List Cell) : Option Lexer :=
  match lexer.pending.filter fun key => !isStale key lexer.mark with
  | some key =>
    let keyed := (lexer.insertAt key.number .key).enterBlock key.mark.column key.number
      .blockMappingStart
    some ({ keyed.setPending none with keyAllowed := false }.pushAt .value cells)
  | none => do
    let lexer ← lexer.enterBlockHere .blockMappingStart
    pure ({ lexer with keyAllowed := !lexer.inFlow }.pushAt .value cells)

def takeNode (lexer : Lexer) (token : Token) (cells : List Cell) : Option Lexer := do
  let lexer ← lexer.saveKey
  pure ({ lexer with keyAllowed := false }.pushAt token cells)

/-- Reads a block scalar, which can be no key. -/
def takeBlockScalar (lexer : Lexer) (folded : Bool) (cells : List Cell) : Option Lexer := do
  let lexer ← lexer.dropKey
  let (text, rest) ← blockScalar? folded lexer.indent cells
  pure ({ lexer with keyAllowed := true }.pushAt
    (.scalar text (if folded then .other else .literal)) rest)

/-- Reads a plain scalar. A key may start after it if its line has ended. -/
def takePlain (lexer : Lexer) : Option Lexer := do
  let lexer ← lexer.saveKey
  let indent := match lexer.indent with
    | some indent => indent + 1
    | none => 0
  let plain ← plainScalar? lexer.inFlow indent {} false lexer.cells
  pure ({ lexer with keyAllowed := plain.broken }.pushAt (.scalar plain.text .plain) plain.rest)

/-- The signs with which no plain scalar starts. -/
def indicators : List Char :=
  ['-', '?', ':', ',', '[', ']', '\x7b', '\x7d', '#', '&', '*', '!', '|', '>', '\'', '"', '%', '@',
    '\x60']

/-- Whether a plain scalar starts with a character that was read as no other token. -/
def startsPlain (inFlow : Bool) (cell : Cell) : Bool :=
  if cell.isBlank then false
  else if cell.char == '-' then true
  else if cell.char == '?' || cell.char == ':' then !inFlow
  else !indicators.contains cell.char

def takeToken (lexer : Lexer) (cell : Cell) (rest : List Cell) : Option Lexer :=
  let c := cell.char
  let inFlow := lexer.inFlow
  let all := cell :: rest
  if cell.mark.column = 0 ∧ c = '%' then do
    let (token, cells) ← directive? rest
    lexer.takeDocumentToken token cells
  else if atTriple '-' all then lexer.takeDocumentToken .documentStart (all.drop 3)
  else if atTriple '.' all then lexer.takeDocumentToken .documentEnd (all.drop 3)
  else if c = '[' then lexer.openFlow .flowSequenceStart rest
  else if c = '\x7b' then lexer.openFlow .flowMappingStart rest
  else if c = ']' then lexer.closeFlow .flowSequenceEnd rest
  else if c = '\x7d' then lexer.closeFlow .flowMappingEnd rest
  else if c = ',' then do
    let lexer ← lexer.dropKey
    pure ({ lexer with keyAllowed := true }.pushAt .flowEntry rest)
  else if c = '-' ∧ atGap rest then lexer.takeBlockEntry rest
  else if c = '?' ∧ (inFlow ∨ atGap rest) then lexer.takeKeySign rest
  else if c = ':' ∧ (inFlow ∨ atGap rest) then lexer.takeValueSign rest
  else if c = '*' then do
    let (name, cells) ← anchorName? rest
    lexer.takeNode (.alias name) cells
  else if c = '&' then do
    let (name, cells) ← anchorName? rest
    lexer.takeNode (.anchor name) cells
  else if c = '!' then do
    let (token, cells) ← tagToken? inFlow all
    lexer.takeNode token cells
  else if c = '|' ∧ !inFlow then lexer.takeBlockScalar false rest
  else if c = '>' ∧ !inFlow then lexer.takeBlockScalar true rest
  else if c = '\'' ∨ c = '"' then do
    let (text, cells) ← quotedScalar? c .inside {} rest
    lexer.takeNode (.scalar text .other) cells
  else if startsPlain inFlow cell then lexer.takePlain
  else none

/-- Ends the text: all blocks end, and nothing may be left that must be a key. -/
def finish (lexer : Lexer) : Option (List Token) := do
  let lexer ← (lexer.leaveBlocks none).dropKey
  pure lexer.tokens.reverse

/-- Reads the tokens from here on. Each round reads a token of one character or more, so there are
at most as many rounds as cells, and one more that finds the end. -/
def readAll : (rounds : Nat) → Lexer → Option (List Token)
  | 0, _ => none
  | rounds + 1, lexer => do
    let (cells, keyAllowed) :=
      skipGap lexer.inFlow lexer.keyAllowed false lexer.cells
    let lexer ← { lexer with cells, keyAllowed }.dropStale
    match lexer.cells with
    | [] => lexer.finish
    | cell :: rest =>
      let lexer ← (lexer.leaveBlocks (some cell.mark.column)).takeToken cell rest
      readAll rounds lexer

end Lexer

def tokens? (text : List Char) : Option (List Token) := do
  let (cells, last) ← cells? text
  Lexer.readAll (cells.length + 1) { cells, last }

end Stencil.Yaml
