import Stencil.Unicode.Property

/-!
Characters of names.

Owns the characters with which a name may start or go on: the alphabetic and the numeric characters.
They follow version 17.0 of the Unicode Character Database, which added some to those of version 16.0
and took none away.
-/

namespace Stencil.Unicode

/-- The alphabetic characters that version 17.0 added. -/
def addedAlphabetic : CharSet := CharSet.ofTable
  "88F C5C CDC A7CE-A7CF A7D2 A7D4 A7F1 10940-10959 10EC5-10EC7 10EFA-10EFB 11B60-11B67
    11DB0-11DDB 16EA0-16EB8 16EBB-16ED3 16FF2-16FF6 187F8-187FF 18D09-18D1E 18D80-18DF2
    1E6C0-1E6DE 1E6E0-1E6F5 1E6FE-1E6FF 2B73A-2B73F 2CEA2-2CEAD 323B0-33479"

/-- The numeric characters that version 17.0 added. -/
def addedNumeric : CharSet := CharSet.ofTable "11DE0-11DE9 16FF4-16FF6"

/-- Characters that start a name: the alphabetic ones. -/
def nameStart : CharSet := alphabetic.union addedAlphabetic

/-- Characters that continue a name: the alphabetic and the numeric ones. -/
def nameContinue : CharSet :=
  CharSet.unions [nameStart, categories ["nd", "nl", "no"], addedNumeric]

end Stencil.Unicode
