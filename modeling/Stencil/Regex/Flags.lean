/-!
The flags of regular expressions.

Owns the flags with their letters, the settings of all of them at a place of an expression, and the
reading of a list of flags such as `im-sx`, in which a hyphen divides the flags that are switched on
from those that are switched off.
-/

namespace Stencil.Regex

/-- The causes for which a text is no regular expression. -/
inductive SyntaxError where
  | unclosedGroup
  | unopenedGroup
  | lookAround
  | groupName
  | flags
  | nothingToRepeat
  | repetitionCount
  | escape
  | unknownClass
  | unclosedClass
  | classItem
  | classRange
  | notText
  | nesting
deriving Repr, DecidableEq

inductive Flag where
  | ignoreCase
  | multiLine
  | dotMatchesLineEnd
  | swapGreed
  | unicode
  | anyLineEnd
  | verbose
deriving Repr, DecidableEq

def Flag.ofChar? : Char → Option Flag
  | 'i' => some .ignoreCase
  | 'm' => some .multiLine
  | 's' => some .dotMatchesLineEnd
  | 'U' => some .swapGreed
  | 'u' => some .unicode
  | 'R' => some .anyLineEnd
  | 'x' => some .verbose
  | _ => none

structure Flags where
  ignoreCase : Bool := false
  multiLine : Bool := false
  dotMatchesLineEnd : Bool := false
  swapGreed : Bool := false
  unicode : Bool := true
  anyLineEnd : Bool := false
  verbose : Bool := false
deriving Repr, DecidableEq

def Flags.switch (flags : Flags) (flag : Flag) (value : Bool) : Flags :=
  match flag with
  | .ignoreCase => { flags with ignoreCase := value }
  | .multiLine => { flags with multiLine := value }
  | .dotMatchesLineEnd => { flags with dotMatchesLineEnd := value }
  | .swapGreed => { flags with swapGreed := value }
  | .unicode => { flags with unicode := value }
  | .anyLineEnd => { flags with anyLineEnd := value }
  | .verbose => { flags with verbose := value }

/-- What has been read of a list of flags: the flags with their values, whether the hyphen has come,
and whether it came last. -/
structure FlagList where
  switches : List (Flag × Bool)
  hyphen : Bool
  hyphenLast : Bool
deriving Repr, DecidableEq

namespace FlagList

def start : FlagList := ⟨[], false, false⟩

/-- Whether nothing has been read. -/
def isEmpty (list : FlagList) : Bool := list.switches.isEmpty && !list.hyphen

/-- Reads a letter or the hyphen. Neither a flag nor the hyphen may come twice. -/
def read (list : FlagList) (c : Char) : Except SyntaxError FlagList :=
  if c = '-' then
    if list.hyphen then .error .flags else .ok ⟨list.switches, true, true⟩
  else
    match Flag.ofChar? c with
    | none => .error .flags
    | some flag =>
      if list.switches.any (fun switch => switch.1 == flag) then .error .flags
      else .ok ⟨(flag, !list.hyphen) :: list.switches, list.hyphen, false⟩

def apply (list : FlagList) (flags : Flags) : Flags :=
  list.switches.foldr (fun switch flags => flags.switch switch.1 switch.2) flags

end FlagList

end Stencil.Regex
