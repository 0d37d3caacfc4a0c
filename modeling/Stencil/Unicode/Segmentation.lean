import Stencil.Unicode.Property
import Stencil.Unicode.Script

/-!
Classes of characters for the division of text, by the Unicode Character Database, version 16.0.

Owns the classes by which text is divided into graphemes, into words and into sentences, each by its
rule over categories, properties and scripts, and their look-up by name. No two classes of one
division share a character; a character of no class is of the class `other`, which has no entry.
-/

namespace Stencil.Unicode

/-! ### Characters that several divisions know -/

/-- Characters that are joined to the character before them. -/
def joined : CharSet := graphemeExtend.diff (CharSet.interval 0x200D 0x200D)

def signJoiner : CharSet := CharSet.interval 0x200D 0x200D

def emojiModifier : CharSet := listed "emojimodifier"

/-- The signs of numbers, which stand before the digits that they span. -/
def numberSigns : CharSet :=
  (listed "prependedconcatenationmark").diff (CharSet.interval 0x70F 0x70F)

/-- The digits and the signs that stand within or before numbers. -/
def numericSigns : CharSet :=
  CharSet.unions [decimalDigits, CharSet.interval 0x66B 0x66C, numberSigns]

/-- Line separator, paragraph separator and next line. -/
def separators : CharSet := CharSet.ofTable "85 2028-2029"

/-! ### Graphemes -/

/-- Formats and controls, unassigned code points that are not shown among them. -/
def graphemeControl : CharSet :=
  ((categories ["cc", "cf", "zl", "zp"]).union
    (((assigned.complement).inter defaultIgnorable))).diff
    (CharSet.unions [CharSet.ofTable "A D 200C-200D", listed "prependedconcatenationmark",
      joined])

/-- Characters that are joined to the character after them. -/
def graphemePrepend : CharSet :=
  (listed "prependedconcatenationmark").union
    (CharSet.ofTable "D4E 111C2-111C3 113D1 1193F 11941 11A3A 11A84-11A89 11D46 11F02")

/-- Spacing marks that are joined to the character before them: all but those that are written apart
from it. -/
def graphemeSpacing : CharSet :=
  ((category "mc").union (CharSet.ofTable "E33 EB3")).diff
    ((CharSet.ofTable
      "102B-102C 1038 1062-1064 1067-106D 1083 1087-108C 108F 109A-109C 1A61 1A63-1A64 AA7B AA7D
        11720-11721").union joined)

/-- The first syllable of the syllables of Hangul, and the last one. -/
def hangulSyllables : Nat × Nat := (0xAC00, 0xD7A3)

/-- How many syllables share a leading consonant and a vowel. -/
def hangulFinals : Nat := 28

/-- The syllables of Hangul without a final consonant: the first of those that share a leading
consonant and a vowel. -/
def hangulOpen : CharSet :=
  let count := (hangulSyllables.2 - hangulSyllables.1) / hangulFinals + 1
  ⟨(List.range count).map fun index =>
    (hangulSyllables.1 + index * hangulFinals, hangulSyllables.1 + index * hangulFinals)⟩

/-- The classes of graphemes under their long and short names. -/
def graphemeClasses : ClassTable := [
  (["cr"], CharSet.interval 0xD 0xD),
  (["lf"], CharSet.interval 0xA 0xA),
  (["control", "cn"], graphemeControl),
  (["extend", "ex"], joined.union emojiModifier),
  (["zwj"], signJoiner),
  (["regionalindicator", "ri"], listed "regionalindicator"),
  (["prepend", "pp"], graphemePrepend),
  (["spacingmark", "sm"], graphemeSpacing),
  (["l"], CharSet.ofTable "1100-115F A960-A97C"),
  (["v"], CharSet.ofTable "1160-11A7 D7B0-D7C6 16D63 16D67-16D6A"),
  (["t"], CharSet.ofTable "11A8-11FF D7CB-D7FB"),
  (["lv"], hangulOpen),
  (["lvt"], (CharSet.interval hangulSyllables.1 hangulSyllables.2).diff hangulOpen)
]

/-! ### Words -/

/-- Marks of all kinds and what else is joined to the character before it. -/
def wordExtend : CharSet := CharSet.unions [joined, category "mc", emojiModifier]

def wordFormat : CharSet :=
  (category "cf").diff
    (CharSet.unions [CharSet.interval 0x200B 0x200D, listed "prependedconcatenationmark",
      wordExtend])

def scriptNamed (name : String) : CharSet := scriptTable.get name

/-- The characters of Katakana and the marks that are used with them. -/
def katakana : CharSet :=
  (scriptNamed "katakana").union (CharSet.ofTable "3031-3035 309B-309C 30A0 30FC FF70")

def hebrewLetter : CharSet := (scriptNamed "hebrew").inter (category "lo")

def dictionaryScripts : List String :=
  ["ahom", "khmer", "lao", "myanmar", "newtailue", "taile", "taitham", "taiviet", "thai"]

/-- Letters of words, and the marks that count as letters within them. Letters of the scripts that
are written without spaces are none. -/
def wordLetter : CharSet :=
  (alphabetic.union (CharSet.ofTable
    "2C2-2C5 2D2-2D7 2DE-2DF 2E5-2EB 2ED 2EF-2FF 55A-55C 55E 58A 5F3 70F A708-A716 A720-A721
      A789-A78A AB5B")).diff
    (CharSet.unions ([listed "ideographic", katakana, hebrewLetter, wordExtend,
      scriptNamed "hiragana"] ++ dictionaryScripts.map scriptNamed))

def wordClasses : ClassTable := [
  (["cr"], CharSet.interval 0xD 0xD),
  (["lf"], CharSet.interval 0xA 0xA),
  (["newline", "nl"], (CharSet.interval 0xB 0xC).union separators),
  (["extend"], wordExtend),
  (["zwj"], signJoiner),
  (["regionalindicator", "ri"], listed "regionalindicator"),
  (["format", "fo"], wordFormat),
  (["katakana", "ka"], katakana),
  (["hebrewletter", "hl"], hebrewLetter),
  (["aletter", "le"], wordLetter),
  (["singlequote", "sq"], CharSet.interval 0x27 0x27),
  (["doublequote", "dq"], CharSet.interval 0x22 0x22),
  (["midnumlet", "mb"], CharSet.ofTable "2E 2018-2019 2024 FE52 FF07 FF0E"),
  (["midletter", "ml"], CharSet.ofTable "3A B7 387 55F 5F4 2027 FE13 FE55 FF1A"),
  (["midnum", "mn"],
    CharSet.ofTable "2C 3B 37E 589 60C-60D 66C 7F8 2044 FE10 FE14 FE50 FE54 FF0C FF1B"),
  (["numeric", "nu"], numericSigns.diff (CharSet.interval 0x66C 0x66C)),
  (["extendnumlet", "ex"], (category "pc").union (CharSet.interval 0x202F 0x202F)),
  (["wsegspace"], (category "zs").diff (CharSet.ofTable "A0 2007 202F"))
]

/-! ### Sentences -/

/-- Full stops, which end a sentence or stand within it. -/
def fullStop : CharSet := CharSet.ofTable "2E 2024 FE52 FF0E"

def sentenceEnd : CharSet := (listed "sentenceterminal").diff fullStop

/-- Marks of all kinds and the joiners. -/
def sentenceExtend : CharSet := graphemeExtend.union ((category "mc").union signJoiner)

/-- Formats that are passed over within sentences. -/
def sentenceFormat : CharSet :=
  (category "cf").diff
    (CharSet.unions [CharSet.interval 0x200C 0x200D, numberSigns, sentenceExtend])

/-- Lowercase characters but the Georgian letters, which begin sentences as well. -/
def sentenceLower : CharSet :=
  lowercase.diff ((CharSet.ofTable "10D0-10FA 10FD-10FF").union graphemeExtend)

/-- Uppercase and titlecase characters but the Georgian capitals. -/
def sentenceUpper : CharSet :=
  (uppercase.union (category "lt")).diff (CharSet.ofTable "1C90-1CBA 1CBD-1CBF")

def sentenceLetter : CharSet :=
  (alphabetic.union (CharSet.interval 0x5F3 0x5F3)).diff
    (CharSet.unions [sentenceLower, sentenceUpper, sentenceExtend])

/-- Brackets and quotation marks. -/
def sentenceClose : CharSet :=
  ((categories ["ps", "pe", "pi", "pf"]).union
    (CharSet.ofTable "22 27 275B-2760 2E00-2E01 2E06-2E08 2E0B 1F676-1F678")).diff
    (fullStop.union sentenceEnd)

/-- The classes of sentences under their long and short names. -/
def sentenceClasses : ClassTable := [
  (["cr"], CharSet.interval 0xD 0xD),
  (["lf"], CharSet.interval 0xA 0xA),
  (["sep", "se"], separators),
  (["extend", "ex"], sentenceExtend),
  (["format", "fo"], sentenceFormat),
  (["sp"], whiteSpace.diff (separators.union (CharSet.ofTable "A D"))),
  (["lower", "lo"], sentenceLower),
  (["upper", "up"], sentenceUpper),
  (["oletter", "le"], sentenceLetter),
  (["numeric", "nu"], numericSigns),
  (["aterm", "at"], fullStop),
  (["sterm", "st"], sentenceEnd),
  (["close", "cl"], sentenceClose),
  (["scontinue", "sc"], CharSet.ofTable
    "2C-2D 3A-3B 37E 55D 60C-60D 7F8 1802 1808 2013-2014 3001 FE10-FE11 FE13-FE14 FE31-FE32
      FE50-FE51 FE54-FE55 FE58 FE63 FF0C-FF0D FF1A-FF1B FF64")
]

end Stencil.Unicode
