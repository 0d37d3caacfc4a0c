import Stencil.Pattern

/-!
A scan of a pattern by byte offsets.

Owns:
- `Checked`, computations with offsets that stop where a sum of two offsets is too large for a
  machine word, or where a text is cut at a place that is not between two of its characters;
- `Cursor`, a scan under way, which goes on from bracket to bracket, one in each `Cursor.round`;
- `Cursor.assembleWithin`, which puts the expression of a pattern together while it is scanned.

The pattern is not divided into characters: the cursor looks at single bytes and cuts parts out at
the offsets that it has counted. No bound on the number of rounds is built in; what takes more than
a given number has no result.
-/

namespace Stencil

/-- A misuse of offsets. -/
inductive OffsetFault where
  /-- The sum of two offsets is too large. -/
  | overflow (first second : Nat)
  /-- A text cannot be cut at these offsets. -/
  | cut (start stop : Nat)
deriving Repr, DecidableEq

abbrev Checked (α : Type) := Except OffsetFault α

namespace Offset

/-- The sum of two offsets, where `limit` is the greatest one. -/
def add (limit first second : Nat) : Checked Nat :=
  if first + second ≤ limit then .ok (first + second) else .error (.overflow first second)

/-- Whether a place is between two characters of a text, or at one of its ends: no byte that
continues a character is there. -/
def isBoundary (text : String) (offset : Nat) : Bool :=
  match (bytes text)[offset]? with
  | some byte => byte < 0x80 || 0xc0 ≤ byte
  | none => offset == text.utf8ByteSize

/-- The part of a text from one place up to but not including another. -/
def cut (text : String) (start stop : Nat) : Checked String :=
  if start ≤ stop ∧ stop ≤ text.utf8ByteSize ∧ isBoundary text start ∧ isBoundary text stop then
    .ok (String.Pos.Raw.extract text ⟨start⟩ ⟨stop⟩)
  else .error (.cut start stop)

end Offset

open Offset (add cut)

/-- Whether a byte is an ASCII letter or digit, or the underscore. -/
def isWordByte (byte : UInt8) : Bool :=
  (0x30 ≤ byte && byte ≤ 0x39) || (0x41 ≤ byte && byte ≤ 0x5a) || (0x61 ≤ byte && byte ≤ 0x7a) ||
    byte == 0x5f

/-- The number of bytes before the first opening bracket of a text. -/
def bracket? (text : String) : Option Nat :=
  if '[' ∈ text.toList then some (byteLength (text.toList.takeWhile fun c => c != '[')) else none

/-- A scan under way: the pattern, its grammar, and the offset from which the scan goes on. -/
structure Cursor where
  text : String
  grammar : Grammar
  position : Nat := 0

/-- A scan of a pattern from its beginning. -/
def Grammar.cursor (grammar : Grammar) (text : String) : Cursor := { text, grammar }

namespace Cursor

def moveTo (cursor : Cursor) (position : Nat) : Cursor := { cursor with position }

/-- The end of the word bytes from an offset on, as far as the bound on identifiers allows. -/
def wordEnd (limit : Nat) (cursor : Cursor) (start : Nat) : Checked Nat :=
  let bytes := ((bytes cursor.text).drop start).take cursor.grammar.maxIdentifierLength
  add limit (bytes.takeWhile isWordByte).length start

/-- The placeholder whose opening bracket is at an offset. -/
def located? (limit : Nat) (cursor : Cursor) (start : Nat) : Checked (Option Located) := do
  let filterStart ← add limit start 1
  let filterStop ← cursor.wordEnd limit filterStart
  -- A colon must follow the filter, and a closing bracket the property.
  if filterStop = filterStart ∨ (bytes cursor.text)[filterStop]? ≠ some 0x3a then pure none
  else
    let propStart ← add limit filterStop 1
    let propStop ← cursor.wordEnd limit propStart
    if (bytes cursor.text)[propStop]? ≠ some 0x5d then pure none
    else
      let prop ← cut cursor.text propStart propStop
      let filter ← cut cursor.text filterStart filterStop
      let stop ← add limit propStop 1
      pure (some ⟨⟨filter, if prop.isEmpty then none else some prop⟩, start, stop⟩)

/-- What comes of the look at one bracket. -/
inductive Round where
  /-- There is no further bracket. -/
  | exhausted
  | found (located : Located)
  /-- The bracket is literal text. -/
  | passed
deriving Repr, DecidableEq

/-- Looks at the next bracket, and goes on behind it or behind its placeholder. -/
def round (limit : Nat) (cursor : Cursor) : Checked (Round × Cursor) := do
  let rest ← cut cursor.text cursor.position cursor.text.utf8ByteSize
  match bracket? rest with
  | none => pure (.exhausted, cursor.moveTo cursor.text.utf8ByteSize)
  | some offset =>
    let start ← add limit cursor.position offset
    match ← cursor.located? limit start with
    | some located => pure (.found located, cursor.moveTo located.stop)
    | none =>
      let next ← add limit start 1
      pure (.passed, cursor.moveTo next)

/-- The next placeholder, if there is one, and the cursor after it. -/
def nextWithin (limit : Nat) : (rounds : Nat) → Cursor → Checked (Option (Option Located × Cursor))
  | 0, _ => pure none
  | rounds + 1, cursor => do
    match ← cursor.round limit with
    | (.exhausted, last) => pure (some (none, last))
    | (.found located, next) => pure (some (some located, next))
    | (.passed, next) => nextWithin limit rounds next

/-- All placeholders from the cursor on, and the cursor after them. -/
def scanWithin (limit : Nat) : (rounds : Nat) → Cursor → Checked (Option (List Located × Cursor))
  | 0, _ => pure none
  | rounds + 1, cursor => do
    match ← cursor.round limit with
    | (.exhausted, last) => pure (some ([], last))
    | (.found located, next) =>
      let others ← scanWithin limit rounds next
      pure (others.map fun (found, last) => (located :: found, last))
    | (.passed, next) => scanWithin limit rounds next

/-- Puts the expression of a pattern together. `last` is the end of the last placeholder and
`source` what is put together up to there. The first filter that is not registered ends the scan. -/
def assembleWithin (limit : Nat) (registry : Registry) :
    (rounds last : Nat) → (source : List Char) → Cursor → Checked (Option (Except Error String))
  | 0, _, _, _ => pure none
  | rounds + 1, last, source, cursor => do
    match ← cursor.round limit with
    | (.exhausted, _) =>
      let literal ← cut cursor.text last cursor.text.utf8ByteSize
      pure (some (.ok (String.ofList (source ++ Pattern.escape literal.toList ++ ['$']))))
    | (.found located, next) =>
      match registry.get? located.placeholder.filter with
      | none => pure (some (.error (.unknownFilter located.placeholder.filter)))
      | some fragment =>
        let literal ← cut cursor.text last located.start
        assembleWithin limit registry rounds located.stop
          (source ++ Pattern.escape literal.toList ++ Pattern.enclose fragment) next
    | (.passed, next) => assembleWithin limit registry rounds last source next

end Cursor

end Stencil
