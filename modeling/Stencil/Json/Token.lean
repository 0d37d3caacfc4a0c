import Stencil.CharSet
import Stencil.Document

/-!
Tokens of JSON texts.

Owns `Token` and `tokens?`, which divides a text into its tokens, one character after another. A
string without a text is one whose escapes do not make up characters; a number without a value is
one that is not a natural number, or is too large for a machine word.
-/

namespace Stencil.Json

inductive Token where
  | leftBracket
  | rightBracket
  | leftBrace
  | rightBrace
  | comma
  | colon
  | null
  | bool (value : Bool)
  | number (natural : Option Nat)
  | string (text : Option String)
deriving Repr, DecidableEq

inductive NumberPart where
  | sign
  | zero
  | integer
  | point
  | fraction
  | exponentMark
  | exponentSign
  | exponent
deriving Repr, DecidableEq

/-- A number that is being read: its last part, and its value as long as it is a natural number. -/
structure Number where
  part : NumberPart
  natural : Option Nat
deriving Repr, DecidableEq

/-- A string that is being read: its characters, latest first, a high surrogate that waits for its
other half, and whether all escapes so far make up characters. -/
structure Text where
  characters : List Char := []
  high : Option Nat := none
  isValid : Bool := true
deriving Repr, DecidableEq

inductive Place where
  | between
  /-- Within a word that stands for the token; these letters are to come. -/
  | word (letters : List Char) (token : Token)
  | number (number : Number)
  | string (text : Text)
  /-- After a backslash in a string. -/
  | escape (text : Text)
  | digits (text : Text) (left value : Nat)
deriving Repr, DecidableEq

/-- What has been read: the place, and the finished tokens, latest first. -/
structure Lexer where
  place : Place := .between
  tokens : List Token := []
deriving Repr

namespace Number

/-- The token of a number, if it may end where it was read to. -/
def token? (number : Number) : Option Token :=
  match number.part with
  | .zero => some (.number number.natural)
  | .integer => some (.number (number.natural.filter fun value => value < wordLimit))
  | .fraction => some (.number none)
  | .exponent => some (.number none)
  | _ => none

/-- The number after one more character, if it belongs to the number. -/
def extend? (number : Number) (c : Char) : Option Number :=
  if c.isDigit then
    match number.part with
    | .sign => some ⟨if c = '0' then .zero else .integer, none⟩
    | .zero => none
    | .integer => some ⟨.integer, number.natural.map fun value => value * 10 + (c.toNat - 48)⟩
    | .point => some ⟨.fraction, none⟩
    | .fraction => some ⟨.fraction, none⟩
    | .exponentMark => some ⟨.exponent, none⟩
    | .exponentSign => some ⟨.exponent, none⟩
    | .exponent => some ⟨.exponent, none⟩
  else if c = '.' then
    match number.part with
    | .zero => some ⟨.point, none⟩
    | .integer => some ⟨.point, none⟩
    | _ => none
  else if c = 'e' ∨ c = 'E' then
    match number.part with
    | .zero => some ⟨.exponentMark, none⟩
    | .integer => some ⟨.exponentMark, none⟩
    | .fraction => some ⟨.exponentMark, none⟩
    | _ => none
  else if c = '+' ∨ c = '-' then
    match number.part with
    | .exponentMark => some ⟨.exponentSign, none⟩
    | _ => none
  else none

end Number

namespace Text

/-- The text with a character added. A surrogate that waits for its other half waits in vain. -/
def push (text : Text) (c : Char) : Text :=
  { characters := c :: text.characters, isValid := text.isValid && text.high.isNone }

/-- The text with a code unit added: two surrogates in their order make up one character. -/
def pushUnit (text : Text) (unit : Nat) : Text :=
  match text.high with
  | some high =>
    if 0xDC00 ≤ unit ∧ unit ≤ 0xDFFF then
      { characters :=
          Char.ofNat (0x10000 + (high - 0xD800) * 0x400 + (unit - 0xDC00)) :: text.characters
        isValid := text.isValid }
    else { text with high := none, isValid := false }
  | none =>
    if 0xD800 ≤ unit ∧ unit ≤ 0xDBFF then { text with high := some unit }
    else if 0xDC00 ≤ unit ∧ unit ≤ 0xDFFF then { text with isValid := false }
    else text.push (Char.ofNat unit)

def token (text : Text) : Token :=
  .string (if text.isValid && text.high.isNone
    then some (String.ofList text.characters.reverse) else none)

end Text

/-- The character that an escape of one letter stands for. -/
def escapedChar? : Char → Option Char
  | '"' => some '"'
  | '\\' => some '\\'
  | '/' => some '/'
  | 'b' => some '\x08'
  | 'f' => some '\x0c'
  | 'n' => some '\n'
  | 'r' => some '\r'
  | 't' => some '\t'
  | _ => none

namespace Lexer

def push (lexer : Lexer) (token : Token) : Lexer := ⟨.between, token :: lexer.tokens⟩

def goTo (lexer : Lexer) (place : Place) : Lexer := { lexer with place }

/-- Reads a character between two tokens. -/
def stepBetween (lexer : Lexer) (c : Char) : Option Lexer :=
  match c with
  | ' ' => some (lexer.goTo .between)
  | '\t' => some (lexer.goTo .between)
  | '\n' => some (lexer.goTo .between)
  | '\r' => some (lexer.goTo .between)
  | '[' => some (lexer.push .leftBracket)
  | ']' => some (lexer.push .rightBracket)
  | '\x7b' => some (lexer.push .leftBrace)
  | '\x7d' => some (lexer.push .rightBrace)
  | ',' => some (lexer.push .comma)
  | ':' => some (lexer.push .colon)
  | '"' => some (lexer.goTo (.string {}))
  | 'n' => some (lexer.goTo (.word ['u', 'l', 'l'] .null))
  | 't' => some (lexer.goTo (.word ['r', 'u', 'e'] (.bool true)))
  | 'f' => some (lexer.goTo (.word ['a', 'l', 's', 'e'] (.bool false)))
  | '-' => some (lexer.goTo (.number ⟨.sign, none⟩))
  | '0' => some (lexer.goTo (.number ⟨.zero, some 0⟩))
  | _ =>
    if c.isDigit then some (lexer.goTo (.number ⟨.integer, some (c.toNat - 48)⟩)) else none

def stepString (lexer : Lexer) (text : Text) (c : Char) : Option Lexer :=
  if c = '"' then some (lexer.push text.token)
  else if c = '\\' then some (lexer.goTo (.escape text))
  else if c.toNat < 0x20 then none
  else some (lexer.goTo (.string (text.push c)))

/-- Reads one character. -/
def step (lexer : Lexer) (c : Char) : Option Lexer :=
  match lexer.place with
  | .between => lexer.stepBetween c
  | .word [] _ => none
  | .word [last] token => if c = last then some (lexer.push token) else none
  | .word (letter :: letters) token =>
    if c = letter then some (lexer.goTo (.word letters token)) else none
  | .number number =>
    match number.extend? c with
    | some number => some (lexer.goTo (.number number))
    | none => number.token?.bind fun token => (lexer.push token).stepBetween c
  | .string text => lexer.stepString text c
  | .escape text =>
    if c = 'u' then some (lexer.goTo (.digits text 4 0))
    else (escapedChar? c).map fun escaped => lexer.goTo (.string (text.push escaped))
  | .digits text left value =>
    (CharSet.hexDigitValue? c).map fun digit =>
      if left ≤ 1 then lexer.goTo (.string (text.pushUnit (value * 16 + digit)))
      else lexer.goTo (.digits text (left - 1) (value * 16 + digit))

/-- The tokens at the end of the text, first to last. -/
def finish (lexer : Lexer) : Option (List Token) :=
  match lexer.place with
  | .between => some lexer.tokens.reverse
  | .number number => number.token?.map fun token => (token :: lexer.tokens).reverse
  | _ => none

end Lexer

def tokens? (text : List Char) : Option (List Token) := do
  let lexer ← text.foldlM Lexer.step {}
  lexer.finish

end Stencil.Json
