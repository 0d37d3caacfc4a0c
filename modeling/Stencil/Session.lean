import Stencil.Matcher
import Stencil.Regex.Estimate

/-!
Sequences of steps on a matcher.

Owns `Step`, the operations of a matcher as data, `Answer`, what they answer, and `Matcher.perform`,
which joins the two. `Shared` is a matcher that is made at its first use, or before it from settings
of one's own.

Compiled expressions may have any size here; a program that performs steps has them measured by
`Regex.estimated`.
-/

namespace Stencil

variable [Regex.Measure]

/-- An operation of a matcher. -/
inductive Step where
  | test (input pattern : String)
  | tryTest (input pattern : String)
  | isMatch (input pattern : String)
  | testBatch (inputs : List String) (pattern : String)
  | compile (pattern : String)
  | tryCompile (pattern : String)
  | keys (pattern : String)
  | register (name fragment : String)
  | tryRegister (name fragment : String)
  | hasFilter (name : String)
  | filter (name : String)
  | filterNames
  | config
  | stats
  | clearCache
  | snapshot

inductive Answer where
  | nothing
  | flag (value : Bool)
  | text (value : Option String)
  | texts (values : List String)
  | params (value : Option Params)
  | paramsList (values : List (Option Params))
  | pattern (value : Pattern)
  | config (value : Config)
  | stats (value : CacheStats)
  | registry (value : Registry)
  | failure (error : Error)

def Answer.ofExcept {α : Type} (answer : α → Answer) : Except Error α → Answer
  | .ok value => answer value
  | .error error => .failure error

namespace Matcher

/-- Performs a step: its answer, and the matcher afterwards. -/
def perform (matcher : Matcher) : Step → Answer × Matcher
  | .test input pattern =>
    let (value, matcher) := matcher.test input pattern
    (.params value, matcher)
  | .tryTest input pattern =>
    let (value, matcher) := matcher.tryTest input pattern
    (Answer.ofExcept .params value, matcher)
  | .isMatch input pattern =>
    let (value, matcher) := matcher.isMatch input pattern
    (.flag value, matcher)
  | .testBatch inputs pattern =>
    let (values, matcher) := matcher.testBatch inputs pattern
    (.paramsList values, matcher)
  | .compile pattern =>
    let (value, matcher) := matcher.compile pattern
    (.pattern value, matcher)
  | .tryCompile pattern =>
    let (value, matcher) := matcher.tryCompile pattern
    (Answer.ofExcept .pattern value, matcher)
  | .keys pattern => (.texts (matcher.keys pattern), matcher)
  | .register name fragment => (.nothing, matcher.register name fragment)
  | .tryRegister name fragment =>
    let (value, matcher) := matcher.tryRegister name fragment
    (Answer.ofExcept (fun _ => .nothing) value, matcher)
  | .hasFilter name => (.flag (matcher.registry.contains name), matcher)
  | .filter name => (.text (matcher.registry.get? name), matcher)
  | .filterNames => (.texts matcher.registry.names, matcher)
  | .config => (.config matcher.config, matcher)
  | .stats => (.stats matcher.cache.stats, matcher)
  | .clearCache => (.nothing, matcher.clearCache)
  | .snapshot => (.registry matcher.registry, matcher)

/-- Performs steps in order: their answers, and the matcher afterwards. -/
def performAll (matcher : Matcher) : List Step → List Answer × Matcher
  | [] => ([], matcher)
  | step :: rest =>
    let (answer, matcher) := matcher.perform step
    let (answers, matcher) := matcher.performAll rest
    (answer :: answers, matcher)

end Matcher

/-! ### A shared matcher -/

/-- A matcher that may not have been made yet. -/
structure Shared where
  matcher? : Option Matcher := none

namespace Shared

inductive Step where
  /-- Makes the matcher from settings, unless it was made before. -/
  | init (config : Config)
  /-- Performs a step on the matcher, which is made with the default settings at its first use. -/
  | use (step : Stencil.Step)

/-- Makes the matcher from settings. The answer tells whether this is the matcher from now on; the
settings must be usable even if it is not. -/
def init (shared : Shared) (config : Config) : Except Error Bool × Shared :=
  match Matcher.withConfig config with
  | .error error => (.error error, shared)
  | .ok matcher =>
    match shared.matcher? with
    | some _ => (.ok false, shared)
    | none => (.ok true, ⟨some matcher⟩)

/-- The matcher, which is made with the default settings if it was not made before. -/
def matcher (shared : Shared) : Matcher := shared.matcher?.getD Matcher.standard

/-- Performs a step: its answer, and the shared matcher afterwards. -/
def perform (shared : Shared) : Step → Answer × Shared
  | .init config =>
    let (value, shared) := shared.init config
    (Answer.ofExcept .flag value, shared)
  | .use step =>
    let (answer, matcher) := shared.matcher.perform step
    (answer, ⟨some matcher⟩)

/-- Performs steps in order: their answers, and the shared matcher afterwards. -/
def performAll (shared : Shared) : List Step → List Answer × Shared
  | [] => ([], shared)
  | step :: rest =>
    let (answer, shared) := shared.perform step
    let (answers, shared) := shared.performAll rest
    (answer :: answers, shared)

end Shared

end Stencil
