import Stencil.Regex.Flags
import Stencil.Unicode.Property
import Stencil.Unicode.Script
import Stencil.Unicode.Age
import Stencil.Unicode.Folding
import Stencil.Unicode.Segmentation

/-!
Character classes that an expression names.

Owns the classes written `[:alpha:]`, the classes written `\d`, `\s` and `\w`, and those written
`\p` with a property, together with the comparison of property names: case, spaces, hyphens,
underscores and a leading `is` do not count in them.
-/

namespace Stencil.Regex

/-! ### Bracketed names -/

/-- The classes written between `[:` and `:]`, which are ASCII under all flags. -/
def asciiClasses : List (String × CharSet) := [
  ("alnum", ⟨[(0x30, 0x39), (0x41, 0x5A), (0x61, 0x7A)]⟩),
  ("alpha", ⟨[(0x41, 0x5A), (0x61, 0x7A)]⟩),
  ("ascii", ⟨[(0, 0x7F)]⟩),
  ("blank", ⟨[(0x9, 0x9), (0x20, 0x20)]⟩),
  ("cntrl", ⟨[(0, 0x1F), (0x7F, 0x7F)]⟩),
  ("digit", ⟨[(0x30, 0x39)]⟩),
  ("graph", ⟨[(0x21, 0x7E)]⟩),
  ("lower", ⟨[(0x61, 0x7A)]⟩),
  ("print", ⟨[(0x20, 0x7E)]⟩),
  ("punct", ⟨[(0x21, 0x2F), (0x3A, 0x40), (0x5B, 0x60), (0x7B, 0x7E)]⟩),
  ("space", ⟨[(0x9, 0xD), (0x20, 0x20)]⟩),
  ("upper", ⟨[(0x41, 0x5A)]⟩),
  ("word", ⟨[(0x30, 0x39), (0x41, 0x5A), (0x5F, 0x5F), (0x61, 0x7A)]⟩),
  ("xdigit", ⟨[(0x30, 0x39), (0x41, 0x46), (0x61, 0x66)]⟩)
]

/-- A class name that stands where the text after an opening bracket begins. -/
structure AsciiClass where
  negated : Bool
  set : CharSet
  /-- The number of characters of the name with its colons and the closing bracket. -/
  length : Nat
deriving Repr

/-- The class whose name the text begins with: a colon, perhaps a caret, the name, and a colon with
a closing bracket. -/
def AsciiClass.ofText? (text : List Char) : Option AsciiClass :=
  asciiClasses.findSome? fun entry =>
    let name := entry.1.toList ++ [':', ']']
    if (':' :: name).isPrefixOf text then some ⟨false, entry.2, name.length + 1⟩
    else if (':' :: '^' :: name).isPrefixOf text then some ⟨true, entry.2, name.length + 2⟩
    else none

/-! ### Letters -/

/-- The decimal digits, the white space, or the characters of words, in ASCII. -/
def asciiLetterClass (letter : Char) : CharSet :=
  match letter with
  | 'd' => ⟨[(0x30, 0x39)]⟩
  | 's' => ⟨[(0x9, 0xD), (0x20, 0x20)]⟩
  | _ => ⟨[(0x30, 0x39), (0x41, 0x5A), (0x5F, 0x5F), (0x61, 0x7A)]⟩

/-- The decimal digits, the white space, or the characters of words, of all scripts. -/
def unicodeLetterClass (letter : Char) : CharSet :=
  match letter with
  | 'd' => Unicode.decimalDigits
  | 's' => Unicode.whiteSpace
  | _ => Unicode.wordCharacters

/-- The characters of which words consist for the word conditions. -/
def wordClass (flags : Flags) : CharSet :=
  if flags.unicode then unicodeLetterClass 'w' else asciiLetterClass 'w'

/-! ### Properties -/

/-- A property name without what does not count in it. A single `c` that is left of `isc` keeps the
letters before it, for it abbreviates another name. -/
def looseName (name : List Char) : List Char :=
  let significant (text : List Char) : List Char :=
    (text.filter fun c => c != ' ' && c != '_' && c != '-' && c.toNat < 0x80).map Char.toLower
  match name with
  | i :: s :: rest =>
    if i.toLower = 'i' ∧ s.toLower = 's' then
      if significant rest = ['c'] then ['i', 's', 'c'] else significant rest
    else significant name
  | _ => significant name

/-- A property by its bare name: a binary property, a general category, or a script. Three short
names of properties give way to the categories of that name. -/
def property? (name : List Char) : Option CharSet :=
  let name := String.ofList (looseName name)
  let binary := if ["cf", "sc", "lc"].contains name then none else Unicode.property? name
  (binary.or (Unicode.category? name)).or (Unicode.script? name)

def propertyValue? (name value : List Char) : Option CharSet :=
  let name := String.ofList (looseName name)
  let value := String.ofList (looseName value)
  if name = "gc" ∨ name = "generalcategory" then Unicode.category? value
  else if name = "sc" ∨ name = "script" then Unicode.script? value
  else if name = "scx" ∨ name = "scriptextensions" then Unicode.scriptExtension? value
  else if name = "age" then Unicode.age? value
  else if name = "gcb" ∨ name = "graphemeclusterbreak" then Unicode.graphemeClasses.find? value
  else if name = "wb" ∨ name = "wordbreak" then Unicode.wordClasses.find? value
  else if name = "sb" ∨ name = "sentencebreak" then Unicode.sentenceClasses.find? value
  else none

def cutAt? (separator : List Char) : List Char → Option (List Char × List Char)
  | [] => none
  | c :: rest =>
    if separator.isPrefixOf (c :: rest) then some ([], (c :: rest).drop separator.length)
    else (cutAt? separator rest).map fun parts => (c :: parts.1, parts.2)

/-- A class of characters, or what it leaves over. -/
structure PropertyClass where
  negated : Bool
  set : CharSet
deriving Repr

/-- The class of a property as it is written between braces: a name and a value, divided by `!=`,
a colon or an equals sign, or a bare name. The sign `!=` negates the class. -/
def PropertyClass.ofText? (text : List Char) : Option PropertyClass :=
  match cutAt? ['!', '='] text with
  | some (name, value) => (propertyValue? name value).map (PropertyClass.mk true)
  | none =>
    match cutAt? [':'] text with
    | some (name, value) => (propertyValue? name value).map (PropertyClass.mk false)
    | none =>
      match cutAt? ['='] text with
      | some (name, value) => (propertyValue? name value).map (PropertyClass.mk false)
      | none => (property? text).map (PropertyClass.mk false)

end Stencil.Regex
