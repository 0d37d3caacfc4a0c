import Stencil.Cache

/-!
The settings of a matcher.

Owns `Config` with its presets and changes, and `Config.validate`, which tells whether the bounds
are usable.
-/

namespace Stencil

/-- The settings of a matcher. -/
structure Config where
  /-- The greatest length of an input in bytes; a longer one does not match. -/
  maxInputLength : Nat := 65536
  maxIdentifierLength : Nat := 64
  /-- The greatest size of a compiled expression in bytes. -/
  regexSizeLimit : Nat := defaultSizeLimit
  /-- The least number of inputs for which a batch is worth dividing. -/
  parallelThreshold : Nat := 64
  cache : CacheConfig := {}
  /-- Filters that are registered with validation when a matcher is made. -/
  filters : Std.ExtTreeMap String String := ∅

namespace Config

/-- Tight bounds, for inputs that are not trusted. -/
def strict : Config :=
  { maxInputLength := 4096
    maxIdentifierLength := 32
    regexSizeLimit := 1048576
    cache := { enabled := true, maxSize := 64 } }

/-- Loose bounds, for large inputs that are trusted. -/
def permissive : Config :=
  { maxInputLength := 16777216
    maxIdentifierLength := 255
    regexSizeLimit := 67108864
    parallelThreshold := 16
    cache := { enabled := true, maxSize := 4096 } }

/-- The settings with another size of the cache. A cache of size zero is switched off. -/
def withCacheSize (config : Config) (maxSize : Nat) : Config :=
  { config with cache := { enabled := 0 < maxSize, maxSize } }

def withFilter (config : Config) (name fragment : String) : Config :=
  { config with filters := config.filters.insert name fragment }

/-- The greatest usable bound on identifiers. -/
def identifierLengthLimit : Nat := 1000

/-- The causes for which settings are not usable. -/
inductive Fault where
  | noIdentifiers
  | longIdentifiers (bound : Nat)
  | noSize
deriving Repr, DecidableEq

/-- The wording of a cause. -/
def Fault.message : Fault → String
  | .noIdentifiers => "max_identifier_len must be at least 1"
  | .longIdentifiers bound => s!"max_identifier_len {bound} exceeds {identifierLengthLimit}"
  | .noSize => "regex_size_limit must be non-zero"

/-- The first thing that is wrong with settings. -/
def fault? (config : Config) : Option Fault :=
  if config.maxIdentifierLength = 0 then some .noIdentifiers
  else if identifierLengthLimit < config.maxIdentifierLength then
    some (.longIdentifiers config.maxIdentifierLength)
  else if config.regexSizeLimit = 0 then some .noSize
  else none

/-- Whether the settings are usable. -/
def validate (config : Config) : Except Error Unit :=
  match config.fault? with
  | some fault => .error (.invalidConfig fault.message)
  | none => .ok ()

end Config

end Stencil
