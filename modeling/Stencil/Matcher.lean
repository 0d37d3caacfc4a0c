import Stencil.Config

/-!
Matchers.

Owns `Matcher`: filters, a cache of compiled patterns, and the settings under which patterns are
compiled and inputs matched. The cache is emptied whenever a filter is registered, so what it holds
was compiled from the filters as they are.

Every operation that may look into the cache gives its answer together with the matcher as it is
afterwards.
-/

namespace Stencil

/-- Filters, a cache and settings. -/
structure Matcher where
  registry : Registry
  cache : Cache
  grammar : Grammar
  config : Config

namespace Matcher

/-- A matcher with an empty cache, without the filters of the settings. -/
def build (registry : Registry) (config : Config) : Matcher :=
  ⟨registry, Cache.ofConfig config.cache, Grammar.ofBound config.maxIdentifierLength, config⟩

/-- The matcher with the built-in filters and the default settings. -/
def standard : Matcher := build Registry.builtin {}

variable [Regex.Measure]

/-- A matcher with the filters of a registry and those of the settings, which are validated in
ascending order of their names. -/
def withRegistry (registry : Registry) (config : Config) : Except Error Matcher := do
  config.validate
  let matcher := build registry config
  let registry ← config.filters.toList.foldlM
    (fun registry filter => registry.tryRegister matcher.grammar filter.1 filter.2) registry
  pure { matcher with registry }

/-- A matcher with the built-in filters and those of the settings. -/
def withConfig (config : Config) : Except Error Matcher := withRegistry Registry.builtin config

/-! ### Compilation -/

/-- Compiles a pattern, or takes it from the cache. -/
def compile (matcher : Matcher) (text : String) : Pattern × Matcher :=
  match matcher.cache.get text with
  | (some pattern, cache) => (pattern, { matcher with cache })
  | (none, cache) =>
    let pattern :=
      Pattern.compile text matcher.registry matcher.grammar matcher.config.regexSizeLimit
    (pattern, { matcher with cache := cache.insert pattern })

/-- Compiles a pattern without the help of the cache and keeps it if that succeeds. -/
def tryCompileAfresh (matcher : Matcher) (text : String) : Except Error Pattern × Matcher :=
  match Pattern.tryCompile text matcher.registry matcher.grammar matcher.config.regexSizeLimit with
  | .ok pattern => (.ok pattern, { matcher with cache := matcher.cache.insert pattern })
  | .error error => (.error error, matcher)

/-- Compiles a pattern or takes it from the cache, and tells why it cannot be compiled. A pattern in
the cache that never matches does not tell that. -/
def tryCompile (matcher : Matcher) (text : String) : Except Error Pattern × Matcher :=
  match matcher.cache.get text with
  | (some pattern, cache) =>
    if pattern.isNever then { matcher with cache }.tryCompileAfresh text
    else (.ok pattern, { matcher with cache })
  | (none, cache) => { matcher with cache }.tryCompileAfresh text

/-! ### Matching -/

/-- Whether the settings allow an input of this length. -/
def admits (matcher : Matcher) (input : String) : Bool :=
  input.utf8ByteSize ≤ matcher.config.maxInputLength

/-- The values of a pattern's placeholders in an input, if it matches. -/
def test (matcher : Matcher) (input text : String) : Option Params × Matcher :=
  if matcher.admits input then
    let (pattern, matcher) := matcher.compile text
    (pattern.extract input, matcher)
  else (none, matcher)

/-- The values of a pattern's placeholders in an input, or why the pattern or the input is not
acceptable. -/
def tryTest (matcher : Matcher) (input text : String) : Except Error (Option Params) × Matcher :=
  if matcher.admits input then
    match matcher.tryCompile text with
    | (.ok pattern, matcher) => (.ok (pattern.extract input), matcher)
    | (.error error, matcher) => (.error error, matcher)
  else (.error (.inputTooLong input.utf8ByteSize matcher.config.maxInputLength), matcher)

def isMatch (matcher : Matcher) (input text : String) : Bool × Matcher :=
  if matcher.admits input then
    let (pattern, matcher) := matcher.compile text
    (pattern.isMatch input, matcher)
  else (false, matcher)

/-- The values of a pattern's placeholders in several inputs. The pattern is compiled once. A batch
that is large enough is worked on by `collect`, which may divide it. -/
def testBatchBy (collect : (String → Option Params) → List String → List (Option Params))
    (matcher : Matcher) (inputs : List String) (text : String) : List (Option Params) × Matcher :=
  let (pattern, matcher) := matcher.compile text
  let extract (input : String) : Option Params :=
    if matcher.admits input then pattern.extract input else none
  if matcher.config.parallelThreshold ≤ inputs.length then (collect extract inputs, matcher)
  else (inputs.map extract, matcher)

/-- The values of a pattern's placeholders in several inputs, one input after another. -/
def testBatch (matcher : Matcher) (inputs : List String) (text : String) :
    List (Option Params) × Matcher :=
  matcher.testBatchBy List.map inputs text

/-- The size of a batch has no say in what it gives. -/
theorem testBatch_eq (matcher : Matcher) (inputs : List String) (text : String) :
    matcher.testBatch inputs text =
      (inputs.map fun input =>
        if (matcher.compile text).2.admits input then (matcher.compile text).1.extract input
        else none, (matcher.compile text).2) :=
  ite_self _

/-- The keys of a pattern's placeholders. -/
def keys (matcher : Matcher) (text : String) : List String := matcher.grammar.keys text

/-! ### Filters and the cache -/

/-- Adds a filter or replaces its fragment, without validation. -/
def register (matcher : Matcher) (name fragment : String) : Matcher :=
  { matcher with
    registry := matcher.registry.register name fragment
    cache := matcher.cache.invalidate }

/-- Adds a filter or replaces its fragment, if its name and its fragment are valid. -/
def tryRegister (matcher : Matcher) (name fragment : String) : Except Error Unit × Matcher :=
  match matcher.registry.tryRegister matcher.grammar name fragment with
  | .ok registry => (.ok (), { matcher with registry, cache := matcher.cache.invalidate })
  | .error error => (.error error, matcher)

def clearCache (matcher : Matcher) : Matcher := { matcher with cache := matcher.cache.clear }

end Matcher

end Stencil
