import Stencil.PatternMap

/-!
The cache of compiled patterns.

Owns `Cache`, which keeps the patterns that were used last together with the order of their uses,
and drops the pattern whose use is longest ago when there are too many, and `CacheStats`, the
account of what it did. `Cache.run` applies a sequence of operations.
-/

namespace Stencil

structure CacheConfig where
  enabled : Bool := true
  /-- The greatest number of patterns that are kept. -/
  maxSize : Nat := 256
deriving Repr, DecidableEq

structure CacheStats where
  lookups : Nat := 0
  hits : Nat := 0
  misses : Nat := 0
  insertions : Nat := 0
  evictions : Nat := 0
  invalidations : Nat := 0
deriving Repr, DecidableEq

/-- The quotient of two numbers, rounded to the nearest natural number and to the even one of two
that are equally near. -/
def roundedQuotient (numerator denominator : Nat) : Nat :=
  let floor := numerator / denominator
  let rest := 2 * (numerator % denominator)
  if rest < denominator then floor
  else if denominator < rest then floor + 1
  else floor + floor % 2

/-- The digits of a number, with zeros before them to make up the given number of digits. -/
def paddedDigits (width value : Nat) : String :=
  let digits := toString value
  String.ofList (List.replicate (width - digits.length) '0') ++ digits

/-- The share of lookups that found a pattern, with six decimals; zero if there were none. -/
def CacheStats.hitRatio (stats : CacheStats) : String :=
  let millionths :=
    if stats.lookups = 0 then 0 else roundedQuotient (1000000 * stats.hits) stats.lookups
  toString (millionths / 1000000) ++ "." ++ paddedDigits 6 (millionths % 1000000)

/-- A cache of patterns. The order of their uses is kept beside them. -/
structure Cache where
  config : CacheConfig
  patterns : PatternMap := ∅
  /-- The texts of the patterns in the order of their last uses, the latest last. -/
  order : List String := []
  stats : CacheStats := {}

namespace Cache

def ofConfig (config : CacheConfig) : Cache := { config }

/-- Whether patterns are kept at all. -/
def isEnabled (cache : Cache) : Bool := cache.config.enabled && 0 < cache.config.maxSize

def find? (cache : Cache) (text : String) : Option Pattern := cache.patterns.find? text

/-- The patterns that are kept. -/
def entries (cache : Cache) : List Pattern := cache.patterns.toList

/-- The number of patterns that are kept. -/
def size (cache : Cache) : Nat := cache.patterns.size

/-- Looks a pattern up. One that is found counts as used last. -/
def get (cache : Cache) (text : String) : Option Pattern × Cache :=
  if cache.isEnabled then
    match cache.find? text with
    | some found =>
      (some found,
        { cache with
          order := if text ∈ cache.order then cache.order.erase text ++ [text] else cache.order
          stats := { cache.stats with
            lookups := cache.stats.lookups + 1, hits := cache.stats.hits + 1 } })
    | none =>
      (none,
        { cache with
          stats := { cache.stats with
            lookups := cache.stats.lookups + 1, misses := cache.stats.misses + 1 } })
  else (none, cache)

/-- A look-up leaves the patterns as they are. -/
theorem patterns_get (cache : Cache) (text : String) :
    (cache.get text).2.patterns = cache.patterns := by
  unfold get
  repeat' split
  all_goals rfl

/-- The cache with the given order, of which patterns are dropped from the first on until no more
are kept than the settings allow or the order names no more. -/
def evict (cache : Cache) : List String → Cache
  | [] => { cache with order := [] }
  | oldest :: later =>
    if cache.config.maxSize < cache.size then
      { cache with
        patterns := cache.patterns.erase oldest
        stats := { cache.stats with evictions := cache.stats.evictions + 1 } }.evict later
    else { cache with order := oldest :: later }

/-- Keeps a pattern as the one used last, in place of one with the same text. The patterns beyond
the greatest number are dropped, those first whose use is longest ago. -/
def insert (cache : Cache) (pattern : Pattern) : Cache :=
  if cache.isEnabled then
    let known := cache.patterns.contains pattern.text
    let others := if known then cache.order.filter (· != pattern.text) else cache.order
    { cache with
      patterns := cache.patterns.insert pattern
      stats := { cache.stats with
        insertions := cache.stats.insertions + (if known then 0 else 1) } }.evict
      (others ++ [pattern.text])
  else cache

/-- Drops all patterns. It is counted if there were any. -/
def invalidate (cache : Cache) : Cache :=
  if cache.size = 0 then cache
  else
    { cache with
      patterns := ∅
      order := []
      stats := { cache.stats with invalidations := cache.stats.invalidations + 1 } }

/-- Drops all patterns and the account. -/
def clear (cache : Cache) : Cache := { cache with patterns := ∅, order := [], stats := {} }

/-- An operation on a cache. -/
inductive Op where
  | get (text : String)
  | insert (pattern : Pattern)
  | invalidate
  | clear

def apply (cache : Cache) : Op → Cache
  | .get text => (cache.get text).2
  | .insert pattern => cache.insert pattern
  | .invalidate => cache.invalidate
  | .clear => cache.clear

def run (cache : Cache) (ops : List Op) : Cache := ops.foldl apply cache

end Cache

end Stencil
