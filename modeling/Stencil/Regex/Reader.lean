import Stencil.Regex.Bracket
import Stencil.Regex.Expr
import Stencil.Unicode.Name

/-!
The reading of a regular expression, one character after another.

Owns:
- `Reader`, all that is known after the characters read so far: the flags, the open groups with
  their finished parts, the open classes, and the construct in the midst of which the reader stands;
- `Reader.step`, what one character does, given the text that follows it;
- `Expr.ofText`, the expression that a text denotes.

The text after a character is looked at and never consumed: a construct of several characters is
read in as many steps, and `skip` counts the characters that it already accounts for. So the reading
of a text is one pass over its characters. In verbose mode gaps (white space and comments) may stand
before every construct and within most of them; `Mode.allowsGaps` tells where.
-/

namespace Stencil.Regex

/-- A part of a sequence: an expression with its depth of nesting, or a setting of flags, which
denotes nothing and cannot be repeated. -/
structure Part where
  expr : Expr
  depth : Nat := 0
  isSetting : Bool := false
deriving Repr, Inhabited

def Part.inSequence (parts : List Part) : Part :=
  let depth := (parts.map Part.depth).foldl max 0
  { expr := Expr.inSequence (parts.map Part.expr)
    depth := if 2 ≤ parts.length then depth + 1 else depth }

def Part.alternatives (parts : List Part) : Part :=
  let depth := (parts.map Part.depth).foldl max 0
  { expr := Expr.alternatives (parts.map Part.expr)
    depth := if 2 ≤ parts.length then depth + 1 else depth }

/-- A group that is open, or the whole expression: the number under which it captures, the flags
outside of it, its finished alternatives and the parts of the last one, latest first. -/
structure Layer where
  capture : Option Nat := none
  outerFlags : Flags := {}
  finished : List Part := []
  parts : List Part := []
deriving Repr, Inhabited

def Layer.contents (layer : Layer) : Part :=
  Part.alternatives (Part.inSequence layer.parts.reverse :: layer.finished).reverse

/-- The part that a closed group makes. -/
def Layer.close (layer : Layer) : Part :=
  let contents := layer.contents
  let expr := match layer.capture with
    | some index => Expr.group index contents.expr
    | none => contents.expr
  { expr, depth := contents.depth + 1 }

inductive Escape where
  | opened
  /-- After the letter of a code point that may stand in braces or have `width` digits. -/
  | codePoint (width : Nat)
  /-- Within the digits of a code point of fixed width. -/
  | digits (left value : Nat) (isByte : Bool)
  /-- Within the digits of a code point in braces. -/
  | braced (value : Option Nat)
  | property (negated : Bool)
  /-- Within the braces of a property; the name is in reverse. -/
  | propertyName (negated : Bool) (name : List Char)
  /-- After the brace of a word condition or of a repeated one. -/
  | wordSide
  /-- Within the braces of a word condition; the name is in reverse. -/
  | wordSideName (name : List Char)
deriving Repr, DecidableEq

structure Count where
  /-- The lower bound, once the comma has come. -/
  least : Option Nat := none
  number : Option Nat := none
  ended : Bool := false
  afterComma : Bool := false
deriving Repr, DecidableEq

/-- The construct in the midst of which the reader stands. -/
inductive Mode where
  /-- Between two constructs, or in a class. -/
  | plain
  | opening
  /-- Within the name of a group, which is in reverse. -/
  | naming (name : List Char)
  | setting (list : FlagList)
  | escape (escape : Escape)
  | counting (count : Count)
  /-- After the closing brace of a count, where a question mark may come. -/
  | counted (least : Nat) (most : Option Nat)
deriving Repr, DecidableEq

def Mode.allowsGaps : Mode → Bool
  | .naming _ => false
  | .setting _ => false
  | .escape .opened => false
  | _ => true

/-- All that is known after the characters read so far. -/
structure Reader where
  flags : Flags := {}
  layer : Layer := {}
  /-- The layers around the innermost one, innermost first. -/
  outer : List Layer := []
  /-- The number of captures opened so far. -/
  groups : Nat := 0
  names : List (List Char) := []
  /-- The open classes, innermost first. -/
  brackets : List Bracket := []
  mode : Mode := .plain
  inComment : Bool := false
  skip : Nat := 0
deriving Repr, Inhabited

namespace Reader

/-! ### Parts -/

def addPart (reader : Reader) (part : Part) : Reader :=
  { reader with
    mode := .plain
    layer := { reader.layer with parts := part :: reader.layer.parts } }

/-- Adds an expression that holds no other. -/
def addExpr (reader : Reader) (expr : Expr) : Reader := reader.addPart { expr }

/-- The expression of a character: with its other cases, if case is ignored. -/
def charExpr (flags : Flags) (c : Char) : Expr :=
  if flags.ignoreCase then
    if flags.unicode then
      match Unicode.orbit? c with
      | some orbit => .oneOf (CharSet.ofIntervals (orbit.map fun point => (point, point)))
      | none => .literal [c]
    else if c.isAlpha then .oneOf (Unicode.foldAsciiCase (CharSet.singleton c))
    else .literal [c]
  else .literal [c]

def takeMember (reader : Reader) (bracket : Bracket) (outer : List Bracket) (member : Member) :
    Except SyntaxError Reader := do
  let bracket ← bracket.takeMember member
  pure { reader with mode := .plain, brackets := bracket :: outer }

/-- Takes a character, in a class or outside of it. Without Unicode a byte beyond ASCII is not text,
and neither is a character beyond ASCII in a class. -/
def takeChar (reader : Reader) (c : Char) (isByte : Bool := false) : Except SyntaxError Reader :=
  let beyond := !reader.flags.unicode && 0x80 ≤ c.toNat
  match reader.brackets with
  | [] =>
    if beyond && isByte then .error .notText
    else .ok (reader.addExpr (charExpr reader.flags c))
  | bracket :: outer =>
    if beyond then .error .notText else reader.takeMember bracket outer (.char c)

/-- Takes a named class, in a class or outside of it. -/
def takeSet (reader : Reader) (set : CharSet) : Except SyntaxError Reader :=
  match reader.brackets with
  | [] => .ok (reader.addExpr (.oneOf set))
  | bracket :: outer => reader.takeMember bracket outer (.set set)

/-- Takes a condition, which cannot stand in a class. -/
def takeLook (reader : Reader) (condition : Look) : Except SyntaxError Reader :=
  match reader.brackets with
  | [] => .ok (reader.addExpr (.look condition))
  | _ :: _ => .error .classItem

def takeWordSide (reader : Reader) (side : WordSide) : Except SyntaxError Reader :=
  reader.takeLook (.word side (wordClass reader.flags))

/-! ### Repetition -/

def canRepeat (reader : Reader) : Bool :=
  match reader.layer.parts with
  | [] => false
  | part :: _ => !part.isSetting

def repeatLast (reader : Reader) (least : Nat) (most : Option Nat) (lazy : Bool) :
    Except SyntaxError Reader :=
  match reader.layer.parts with
  | [] => .error .nothingToRepeat
  | part :: parts =>
    if part.isSetting then .error .nothingToRepeat
    else
      let greedy := lazy == reader.flags.swapGreed
      let whole : Part :=
        { expr := .repeated least most greedy part.expr, depth := part.depth + 1 }
      .ok { reader with mode := .plain, layer := { reader.layer with parts := whole :: parts } }

/-- Repeats the last part after a sign, which a question mark makes lazy. -/
def repeatSign (reader : Reader) (least : Nat) (most : Option Nat) (rest : List Char) :
    Except SyntaxError Reader := do
  let lazy := rest.head? == some '?'
  let reader ← reader.repeatLast least most lazy
  pure { reader with skip := if lazy then 1 else 0 }

def greatestCount : Nat := 0xFFFFFFFF

/-- What a finished count leads to: the bounds must be in order and representable. -/
def endCount (reader : Reader) (least : Nat) (most : Option Nat) : Except SyntaxError Reader :=
  if greatestCount < least ∨ most.any (fun bound => greatestCount < bound || bound < least)
  then .error .repetitionCount
  else .ok { reader with mode := .counted least most }

/-- Reads a character of a count: numbers may have spaces around them, but none between the comma
and a brace that closes it. -/
def stepCount (reader : Reader) (count : Count) (c : Char) : Except SyntaxError Reader :=
  let goOn (count : Count) : Except SyntaxError Reader :=
    .ok { reader with mode := .counting count }
  if c.isDigit then
    if count.ended then .error .repetitionCount
    else goOn { count with
      number := some (count.number.getD 0 * 10 + (c.toNat - '0'.toNat)), afterComma := false }
  else if c = ',' then
    match count.least, count.number with
    | none, some number => goOn { least := some number, afterComma := true }
    | _, _ => .error .repetitionCount
  else if c = '\x7d' then
    match count.least, count.number with
    | none, some number => reader.endCount number (some number)
    | some least, some number => reader.endCount least (some number)
    | some least, none =>
      if count.afterComma then reader.endCount least none else .error .repetitionCount
    | none, none => .error .repetitionCount
  else if Unicode.whiteSpace.contains c then
    goOn { count with ended := count.number.isSome, afterComma := false }
  else .error .repetitionCount

/-! ### Groups -/

def openGroup (reader : Reader) (capture : Option Nat) (flags : Flags) : Reader :=
  { reader with
    mode := .plain
    flags
    layer := { capture, outerFlags := reader.flags }
    outer := reader.layer :: reader.outer }

/-- Opens a group with the next number. -/
def openCapture (reader : Reader) : Reader :=
  { reader with groups := reader.groups + 1 }.openGroup (some (reader.groups + 1)) reader.flags

/-- Closes the innermost group; its flags end with it. -/
def closeGroup (reader : Reader) : Except SyntaxError Reader :=
  match reader.outer with
  | [] => .error .unopenedGroup
  | layer :: outer =>
    .ok ({ reader with flags := reader.layer.outerFlags, layer, outer }.addPart reader.layer.close)

def nextAlternative (reader : Reader) : Reader :=
  { reader with
    layer := { reader.layer with
      finished := Part.inSequence reader.layer.parts.reverse :: reader.layer.finished
      parts := [] } }

def isNameChar (isFirst : Bool) (c : Char) : Bool :=
  if isFirst then c == '_' || c.isAlpha || Unicode.nameStart.contains c
  else
    c == '_' || c == '.' || c == '[' || c == ']' || c.isAlphanum || Unicode.nameContinue.contains c

/-- Reads a character of the name of a group. No two groups may have one name. -/
def stepName (reader : Reader) (name : List Char) (c : Char) : Except SyntaxError Reader :=
  if c = '>' then
    if name.isEmpty ∨ reader.names.contains name then .error .groupName
    else .ok { reader with names := name :: reader.names }.openCapture
  else if isNameChar name.isEmpty c then .ok { reader with mode := .naming (c :: name) }
  else .error .groupName

/-- Reads a character of a list of flags: a parenthesis ends a setting for the rest of the group
around it, a colon opens a group for which the flags are set. -/
def stepFlags (reader : Reader) (list : FlagList) (c : Char) : Except SyntaxError Reader :=
  if c = ')' then
    if list.isEmpty then .error .nothingToRepeat
    else if list.hyphenLast then .error .flags
    else .ok ({ reader with flags := list.apply reader.flags }.addPart
      { expr := .empty, isSetting := true })
  else if c = ':' then
    if list.hyphenLast then .error .flags
    else .ok (reader.openGroup none (list.apply reader.flags))
  else do
    let list ← list.read c
    pure { reader with mode := .setting list }

/-- What follows an opening parenthesis and a question mark: a name, or a list of flags. -/
def stepQuestion (reader : Reader) (rest : List Char) : Except SyntaxError Reader :=
  match rest with
  | [] => .error .unclosedGroup
  | '=' :: _ => .error .lookAround
  | '!' :: _ => .error .lookAround
  | '<' :: '=' :: _ => .error .lookAround
  | '<' :: '!' :: _ => .error .lookAround
  | '<' :: _ => .ok { reader with mode := .naming [], skip := 1 }
  | 'P' :: '<' :: _ => .ok { reader with mode := .naming [], skip := 2 }
  | _ => .ok { reader with mode := .setting FlagList.start }

/-! ### Escapes -/

/-- The characters that mean something in an expression and stand for themselves when escaped. -/
def metaChars : List Char :=
  ['\\', '.', '+', '*', '?', '(', ')', '|', '[', ']', '\x7b', '\x7d', '^', '$', '#', '&', '-', '~']

/-- Whether a character stands for itself when escaped: all of ASCII but letters, digits and the
angle brackets. -/
def standsForItself (c : Char) : Bool :=
  metaChars.contains c || (c.toNat < 0x80 && !c.isAlphanum && c != '<' && c != '>')

/-- Takes a code point, which must be that of a character. -/
def takeCodePoint (reader : Reader) (value : Nat) (isByte : Bool) : Except SyntaxError Reader :=
  if value < 0xD800 ∨ (0xDFFF < value ∧ value ≤ CharSet.lastCodePoint)
  then reader.takeChar (Char.ofNat value) isByte
  else .error .escape

/-- Takes the class of a property, if there is one. It may be negated twice, by a capital letter and
by its own sign. -/
def takeProperty (reader : Reader) (negated : Bool) (property : Option PropertyClass) :
    Except SyntaxError Reader :=
  match property with
  | none => .error .unknownClass
  | some property =>
    if reader.flags.unicode then
      let folded := foldUnder reader.flags property.set
      reader.takeSet (if negated != property.negated then folded.complement else folded)
    else .error .unknownClass

/-- Takes a class of a letter, negated if the letter is a capital. -/
def takeLetterClass (reader : Reader) (letter : Char) : Except SyntaxError Reader := do
  let lower := letter.toLower
  let set := if reader.flags.unicode then unicodeLetterClass lower else asciiLetterClass lower
  let set ← negateUnder reader.flags (letter != lower) set
  reader.takeSet set

/-- What an escape of one character stands for. -/
def stepEscaped (reader : Reader) (c : Char) (rest : List Char) : Except SyntaxError Reader :=
  let enter (escape : Escape) : Except SyntaxError Reader :=
    .ok { reader with mode := .escape escape }
  match c with
  | 'x' => enter (.codePoint 2)
  | 'u' => enter (.codePoint 4)
  | 'U' => enter (.codePoint 8)
  | 'p' => enter (.property false)
  | 'P' => enter (.property true)
  | 'd' => reader.takeLetterClass c
  | 's' => reader.takeLetterClass c
  | 'w' => reader.takeLetterClass c
  | 'D' => reader.takeLetterClass c
  | 'S' => reader.takeLetterClass c
  | 'W' => reader.takeLetterClass c
  | 'a' => reader.takeChar '\x07'
  | 'f' => reader.takeChar '\x0c'
  | 't' => reader.takeChar '\t'
  | 'n' => reader.takeChar '\n'
  | 'r' => reader.takeChar '\r'
  | 'v' => reader.takeChar '\x0b'
  | 'A' => reader.takeLook .textStart
  | 'z' => reader.takeLook .textEnd
  | 'b' =>
    if rest.head? == some '\x7b' then .ok { reader with mode := .escape .wordSide, skip := 1 }
    else reader.takeWordSide .boundary
  | 'B' => reader.takeWordSide .inside
  | '<' => reader.takeWordSide .start
  | '>' => reader.takeWordSide .stop
  | _ => if standsForItself c then reader.takeChar c else .error .escape

def wordSide? (name : List Char) : Option WordSide :=
  if name = ['s', 't', 'a', 'r', 't'] then some .start
  else if name = ['e', 'n', 'd'] then some .stop
  else if name = ['s', 't', 'a', 'r', 't', '-', 'h', 'a', 'l', 'f'] then some .startHalf
  else if name = ['e', 'n', 'd', '-', 'h', 'a', 'l', 'f'] then some .stopHalf
  else none

/-- Whether a character may stand in the name of a word condition. -/
def isWordSideChar (c : Char) : Bool := c.isAlpha || c == '-'

def stepEscape (reader : Reader) (escape : Escape) (c : Char) (rest : List Char) :
    Except SyntaxError Reader :=
  let goOn (escape : Escape) : Except SyntaxError Reader :=
    .ok { reader with mode := .escape escape }
  let readDigit (left value : Nat) (isByte : Bool) : Except SyntaxError Reader :=
    match CharSet.hexDigitValue? c with
    | none => .error .escape
    | some digit =>
      if left ≤ 1 then reader.takeCodePoint (value * 16 + digit) isByte
      else goOn (.digits (left - 1) (value * 16 + digit) isByte)
  match escape with
  | .opened => reader.stepEscaped c rest
  | .codePoint width =>
    if c = '\x7b' then goOn (.braced none) else readDigit width 0 (width == 2)
  | .digits left value isByte => readDigit left value isByte
  | .braced value =>
    if c = '\x7d' then
      match value with
      | some value => reader.takeCodePoint value false
      | none => .error .escape
    else
      match CharSet.hexDigitValue? c with
      | some digit => goOn (.braced (some (value.getD 0 * 16 + digit)))
      | none => .error .escape
  | .property negated =>
    if c = '\x7b' then goOn (.propertyName negated [])
    else if c = '\\' then .error .escape
    else reader.takeProperty negated ((property? [c]).map (PropertyClass.mk false))
  | .propertyName negated name =>
    if c = '\x7d' then reader.takeProperty negated (PropertyClass.ofText? name.reverse)
    else goOn (.propertyName negated (c :: name))
  | .wordSide =>
    if isWordSideChar c then goOn (.wordSideName [c])
    else do
      let reader ← reader.takeWordSide .boundary
      reader.stepCount {} c
  | .wordSideName name =>
    if isWordSideChar c then goOn (.wordSideName (c :: name))
    else if c = '\x7d' then
      match wordSide? name.reverse with
      | some side => reader.takeWordSide side
      | none => .error .escape
    else .error .escape

/-! ### Classes -/

/-- The next character after a hyphen in a class. In verbose mode white space is passed over, and
the first number sign with the white space after it. -/
def afterHyphen (flags : Flags) (rest : List Char) : Option Char :=
  if flags.verbose then
    let text := rest.dropWhile Unicode.whiteSpace.contains
    let text := match text with
      | '#' :: more => more.dropWhile Unicode.whiteSpace.contains
      | text => text
    text.head?.or rest.head?
  else rest.head?

/-- Closes the innermost class, which becomes a member of the class around it. -/
def closeBracket (reader : Reader) (bracket : Bracket) (outer : List Bracket) :
    Except SyntaxError Reader := do
  let (set, depth) ← bracket.close reader.flags
  match outer with
  | [] => pure ({ reader with brackets := [] }.addPart { expr := .oneOf set, depth })
  | enclosing :: others =>
    pure { reader with brackets := enclosing.addSet set depth :: others }

/-- Reads a character of a class where a member, an operation or the end may come. -/
def stepMember (reader : Reader) (bracket : Bracket) (outer : List Bracket) (c : Char)
    (rest : List Char) : Except SyntaxError Reader :=
  let goOn (bracket : Bracket) (skip : Nat := 0) : Except SyntaxError Reader :=
    .ok { reader with brackets := bracket :: outer, skip }
  if c = '[' then
    match AsciiClass.ofText? rest with
    | some named => do
      let set ← negateUnder reader.flags named.negated (foldUnder reader.flags named.set)
      goOn (bracket.addSet set 0) named.length
    | none => .ok { reader with brackets := {} :: bracket :: outer }
  else if c = ']' then reader.closeBracket bracket outer
  else if c = '\\' then .ok { reader with mode := .escape .opened, brackets := bracket :: outer }
  else
    match SetOperation.ofChar? c with
    | some operation =>
      if rest.head? == some c then goOn (bracket.takeOperation reader.flags operation) 1
      else { reader with brackets := bracket :: outer }.takeChar c
    | none => { reader with brackets := bracket :: outer }.takeChar c

/-- Reads a character of a class. -/
def stepBracket (reader : Reader) (bracket : Bracket) (outer : List Bracket) (c : Char)
    (rest : List Char) : Except SyntaxError Reader :=
  let leading (bracket : Bracket) : Except SyntaxError Reader :=
    let taken := { bracket.addMember (.char c) with place := .leading }
    if c = '-' then .ok { reader with brackets := taken :: outer }
    else if c = ']' ∧ bracket.operand.count = 0 then
      .ok { reader with brackets := { taken with place := .members } :: outer }
    else reader.stepMember { bracket with place := .members } outer c rest
  match bracket.place with
  | .opened =>
    if c = '^' then
      .ok { reader with brackets := { bracket with negated := true, place := .leading } :: outer }
    else leading bracket
  | .leading => leading bracket
  | .members => reader.stepMember bracket outer c rest
  | .afterMember member =>
    let next := afterHyphen reader.flags rest
    if c = '-' ∧ next ≠ some ']' ∧ next ≠ some '-' then
      .ok { reader with brackets := { bracket with place := .inRange member } :: outer }
    else reader.stepMember (bracket.addMember member) outer c rest
  | .inRange _ =>
    if c = '\\' then .ok { reader with mode := .escape .opened } else reader.takeChar c

/-! ### Steps -/

def dotSet (flags : Flags) : CharSet :=
  if flags.dotMatchesLineEnd then CharSet.all
  else if flags.anyLineEnd then ((CharSet.singleton '\n').union (CharSet.singleton '\r')).complement
  else (CharSet.singleton '\n').complement

/-- The condition that a caret stands for. -/
def startLook (flags : Flags) : Look :=
  if flags.multiLine then if flags.anyLineEnd then .anyLineStart else .lineStart else .textStart

/-- The condition that a dollar sign stands for. -/
def endLook (flags : Flags) : Look :=
  if flags.multiLine then if flags.anyLineEnd then .anyLineEnd else .lineEnd else .textEnd

/-- Reads a character that begins a construct outside of classes. -/
def stepPlain (reader : Reader) (c : Char) (rest : List Char) : Except SyntaxError Reader :=
  match c with
  | '(' => .ok { reader with mode := .opening }
  | ')' => reader.closeGroup
  | '|' => .ok reader.nextAlternative
  | '[' => .ok { reader with brackets := [{}] }
  | '?' => reader.repeatSign 0 (some 1) rest
  | '*' => reader.repeatSign 0 none rest
  | '+' => reader.repeatSign 1 none rest
  | '\x7b' =>
    if reader.canRepeat then .ok { reader with mode := .counting {} } else .error .nothingToRepeat
  | '\\' => .ok { reader with mode := .escape .opened }
  | '.' =>
    if reader.flags.unicode then .ok (reader.addExpr (.oneOf (dotSet reader.flags)))
    else .error .notText
  | '^' => reader.takeLook (startLook reader.flags)
  | '$' => reader.takeLook (endLook reader.flags)
  | _ => reader.takeChar c

/-- Reads a character between two constructs or in a class. -/
def stepBetween (reader : Reader) (c : Char) (rest : List Char) : Except SyntaxError Reader :=
  match reader.brackets with
  | [] => reader.stepPlain c rest
  | bracket :: outer => reader.stepBracket bracket outer c rest

/-- Reads a character that is no gap, in the mode of the reader. -/
def stepMode (reader : Reader) (c : Char) (rest : List Char) : Except SyntaxError Reader :=
  match reader.mode with
  | .plain => reader.stepBetween c rest
  | .opening => if c = '?' then reader.stepQuestion rest else reader.openCapture.stepPlain c rest
  | .naming name => reader.stepName name c
  | .setting list => reader.stepFlags list c
  | .escape escape => reader.stepEscape escape c rest
  | .counting count => reader.stepCount count c
  | .counted least most =>
    if c = '?' then reader.repeatLast least most true
    else do
      let reader ← reader.repeatLast least most false
      reader.stepPlain c rest

/-- Reads one character, given the text that follows it. -/
def step (reader : Reader) (c : Char) (rest : List Char) : Except SyntaxError Reader :=
  match reader.skip with
  | skip + 1 => .ok { reader with skip }
  | 0 =>
    if reader.inComment then .ok { reader with inComment := c != '\n' }
    else if reader.flags.verbose && reader.mode.allowsGaps && Unicode.whiteSpace.contains c then
      .ok reader
    else if reader.flags.verbose && reader.mode.allowsGaps && c == '#' then
      .ok { reader with inComment := true }
    else reader.stepMode c rest

/-- Reads a text. -/
def read (reader : Reader) : List Char → Except SyntaxError Reader
  | [] => .ok reader
  | c :: rest => do read (← reader.step c rest) rest

def greatestDepth : Nat := 250

/-- The reader after its last construct, if that is finished. -/
def settle (reader : Reader) : Except SyntaxError Reader :=
  match reader.mode with
  | .plain => .ok reader
  | .counted least most => reader.repeatLast least most false
  | .opening => .error .unclosedGroup
  | .naming _ => .error .groupName
  | .setting _ => .error .flags
  | .escape _ => .error .escape
  | .counting _ => .error .repetitionCount

/-- The expression that has been read, if every construct is finished. -/
def finish (reader : Reader) : Except SyntaxError Expr := do
  let reader ← reader.settle
  if !reader.brackets.isEmpty then .error .unclosedClass
  else if !reader.outer.isEmpty then .error .unclosedGroup
  else
    let whole : Part := reader.layer.contents
    if greatestDepth < whole.depth then .error .nesting else .ok whole.expr

end Reader

def Expr.ofText (text : List Char) : Except SyntaxError Expr := do
  let reader ← ({} : Reader).read text
  reader.finish

end Stencil.Regex
