import Stencil.Proofs.Pattern.Compilation
import Stencil.Proofs.Pattern.Literals
import Stencil.Regex.Estimate

/-!
The expression that is put together for a pattern.

Owns:
- `Registry.unknown?`, the first filter that placeholders name and that is not registered;
- `assembledSource`, the text in which fragments stand between the literal text of a pattern.

The main statement is `tryCompile_assembles`: a pattern is refused because of the first filter that
is not registered; if there is none, exactly the assembled text is compiled, and what becomes of it
decides what becomes of the pattern. Whether the text means what its parts mean alone is not told
here.
-/

namespace Stencil

/-- The first filter that placeholders name and that is not registered. -/
def Registry.unknown? (registry : Registry) (placeholders : List Placeholder) : Option String :=
  (placeholders.find? fun placeholder => (registry.get? placeholder.filter).isNone).map
    Placeholder.filter

/-- The fragments are those of the filters that the placeholders name. -/
def AreFragments (registry : Registry) (placeholders : List Placeholder) (fragments : List String) :
    Prop :=
  List.Forall₂ (fun placeholder fragment => registry.get? placeholder.filter = some fragment)
    placeholders fragments

/-- The expression of a pattern: anchored at both ends, the parts of its literal text escaped, and a
fragment after each part but the last, in a group that captures nothing. -/
def assembledSource (literals : List (List Char)) (fragments : List String) : String :=
  String.ofList
    ('^' :: (weave (literals.map Pattern.escape) (fragments.map Pattern.enclose) ++ ['$']))

/-! ### Filters that are not registered -/

namespace Registry

variable {registry : Registry} {placeholder : Placeholder} {rest : List Placeholder}

theorem unknown?_of_none (unknown : registry.get? placeholder.filter = none) :
    registry.unknown? (placeholder :: rest) = some placeholder.filter := by
  simp [unknown?, unknown]

theorem unknown?_of_some {fragment : String}
    (registered : registry.get? placeholder.filter = some fragment) :
    registry.unknown? (placeholder :: rest) = registry.unknown? rest := by
  simp [unknown?, registered]

/-- All filters that placeholders name are registered, or there is a first one that is not. -/
theorem unknown?_eq_none_iff {placeholders : List Placeholder} :
    registry.unknown? placeholders = none ↔
      ∃ fragments, AreFragments registry placeholders fragments := by
  induction placeholders with
  | nil => exact iff_of_true rfl ⟨[], .nil⟩
  | cons placeholder rest inductionHypothesis =>
      cases registered : registry.get? placeholder.filter with
      | none =>
          rw [unknown?_of_none registered]
          refine iff_of_false (by simp) ?_
          rintro ⟨fragments, areFragments⟩
          cases areFragments with
          | cons found _ => simp [registered] at found
      | some fragment =>
          rw [unknown?_of_some registered, inductionHypothesis]
          constructor
          · rintro ⟨fragments, areFragments⟩
            exact ⟨fragment :: fragments, .cons registered areFragments⟩
          · rintro ⟨fragments, areFragments⟩
            cases areFragments with
            | cons _ others => exact ⟨_, others⟩

end Registry

/-! ### Parts -/

namespace Pattern

variable {text : String} {registry : Registry} {grammar : Grammar} {sizeLimit : Nat}

theorem mapM_pieceSource_char (c : Char) (rest : List Piece) :
    (Piece.char c :: rest).mapM (pieceSource registry) =
      (rest.mapM (pieceSource registry)).map (escapeChar c :: ·) := by
  rw [List.mapM_cons]
  cases rest.mapM (pieceSource registry) <;> rfl

theorem mapM_pieceSource_registered {placeholder : Placeholder} {fragment : String}
    (registered : registry.get? placeholder.filter = some fragment) (rest : List Piece) :
    (Piece.hole placeholder :: rest).mapM (pieceSource registry) =
      (rest.mapM (pieceSource registry)).map (enclose fragment :: ·) := by
  rw [List.mapM_cons, pieceSource, registered]
  cases rest.mapM (pieceSource registry) <;> rfl

theorem mapM_pieceSource_unknown {placeholder : Placeholder}
    (unknown : registry.get? placeholder.filter = none) (rest : List Piece) :
    (Piece.hole placeholder :: rest).mapM (pieceSource registry) =
      .error (.unknownFilter placeholder.filter) := by
  rw [List.mapM_cons, pieceSource, unknown]
  rfl

/-- The parts of a pattern cannot be put together because of the first filter that is unknown. -/
theorem mapM_pieceSource_of_unknown {pieces : List Piece} {name : String}
    (unknown : registry.unknown? (holesOf pieces) = some name) :
    pieces.mapM (pieceSource registry) = .error (.unknownFilter name) := by
  induction pieces with
  | nil => simp [Registry.unknown?] at unknown
  | cons piece rest inductionHypothesis =>
      cases piece with
      | char c =>
          rw [mapM_pieceSource_char, inductionHypothesis unknown]
          rfl
      | hole placeholder =>
          rw [holesOf_hole] at unknown
          cases registered : registry.get? placeholder.filter with
          | none =>
              rw [Registry.unknown?_of_none registered] at unknown
              rw [mapM_pieceSource_unknown registered, Option.some.inj unknown]
          | some fragment =>
              rw [Registry.unknown?_of_some registered] at unknown
              rw [mapM_pieceSource_registered registered, inductionHypothesis unknown]
              rfl

/-- The parts of pieces are the runs of their characters, escaped, with the fragments between. -/
theorem exists_sources_of_areFragments {pieces : List Piece} {fragments : List String}
    (areFragments : AreFragments registry (holesOf pieces) fragments) (run : List Char) :
    ∃ sources, pieces.mapM (pieceSource registry) = .ok sources ∧
      weave ((runsAfter run pieces).map escape) (fragments.map enclose) =
        escape run ++ sources.flatten := by
  induction pieces generalizing fragments run with
  | nil =>
      cases areFragments
      exact ⟨[], rfl, rfl⟩
  | cons piece rest inductionHypothesis =>
      cases piece with
      | char c =>
          obtain ⟨sources, found, woven⟩ := inductionHypothesis areFragments (run ++ [c])
          refine ⟨escapeChar c :: sources, ?_, ?_⟩
          · rw [mapM_pieceSource_char, found]
            rfl
          · rw [runsAfter, woven, List.flatten_cons]
            simp [escape]
      | hole placeholder =>
          rw [holesOf_hole] at areFragments
          cases areFragments with
          | @cons _ fragment _ fragments registered others =>
              obtain ⟨sources, found, woven⟩ := inductionHypothesis others []
              refine ⟨enclose fragment :: sources, ?_, ?_⟩
              · rw [mapM_pieceSource_registered registered, found]
                rfl
              · rw [runsAfter, List.map_cons, List.map_cons, weave, woven, List.flatten_cons]
                rfl

/-! ### What becomes of a pattern -/

section Outcomes

variable [Regex.Measure]

theorem tryCompile_of_unknown {name : String}
    (unknown : registry.unknown? ((grammar.scan text).map Located.placeholder) = some name) :
    tryCompile text registry grammar sizeLimit = .error (.unknownFilter name) := by
  rw [grammar.scan_placeholders] at unknown
  unfold tryCompile source bodySource
  simp only [mapM_pieceSource_of_unknown unknown]
  rfl

/-- If all filters of a pattern are registered, the text that is compiled for it is the assembled
one. -/
theorem tryCompile_of_areFragments {fragments : List String}
    (areFragments :
      AreFragments registry ((grammar.scan text).map Located.placeholder) fragments) :
    tryCompile text registry grammar sizeLimit =
      match Regex.compile (assembledSource (grammar.literals text) fragments) sizeLimit with
      | .ok regex => .ok ⟨text, grammar.keys text, some regex⟩
      | .error cause => .error (.invalidPattern text cause.message) := by
  rw [grammar.scan_placeholders] at areFragments
  obtain ⟨sources, found, woven⟩ := exists_sources_of_areFragments areFragments []
  have assembles : source registry (grammar.pieces text.toList) =
      .ok (assembledSource (grammar.literals text) fragments) := by
    unfold source bodySource assembledSource
    rw [found, grammar.literals_eq_runs, woven]
    rfl
  unfold tryCompile
  simp only [assembles]
  rfl

/-- A compiled expression keeps the text that it was compiled from. -/
theorem source_of_compile {source : String} {regex : Regex}
    (compiles : Regex.compile source sizeLimit = .ok regex) : regex.source = source := by
  unfold Regex.compile at compiles
  split at compiles
  next => simp at compiles
  next =>
    split at compiles
    next => simp at compiles
    next => rw [← Except.ok.inj compiles]

theorem tryCompile_eq_unknownFilter_iff {name : String} :
    tryCompile text registry grammar sizeLimit = .error (.unknownFilter name) ↔
      registry.unknown? ((grammar.scan text).map Located.placeholder) = some name := by
  refine ⟨fun refused => ?_, tryCompile_of_unknown⟩
  cases unknown : registry.unknown? ((grammar.scan text).map Located.placeholder) with
  | none =>
      obtain ⟨fragments, areFragments⟩ := Registry.unknown?_eq_none_iff.mp unknown
      rw [tryCompile_of_areFragments areFragments] at refused
      split at refused <;> simp at refused
  | some other =>
      rw [tryCompile_of_unknown unknown] at refused
      simpa using refused

section Assembled

variable {fragments : List String}
  (areFragments : AreFragments registry ((grammar.scan text).map Located.placeholder) fragments)
include areFragments

theorem tryCompile_eq_invalidPattern_iff {reason : String} :
    tryCompile text registry grammar sizeLimit = .error (.invalidPattern text reason) ↔
      ∃ cause, Regex.compile (assembledSource (grammar.literals text) fragments) sizeLimit =
        .error cause ∧ reason = cause.message := by
  rw [tryCompile_of_areFragments areFragments]
  cases Regex.compile (assembledSource (grammar.literals text) fragments) sizeLimit with
  | ok regex => simp
  | error cause => simp [eq_comm]

theorem tryCompile_eq_ok_iff {pattern : Pattern} :
    tryCompile text registry grammar sizeLimit = .ok pattern ↔
      ∃ regex, Regex.compile (assembledSource (grammar.literals text) fragments) sizeLimit =
        .ok regex ∧ regex.source = assembledSource (grammar.literals text) fragments ∧
          pattern = ⟨text, grammar.keys text, some regex⟩ := by
  rw [tryCompile_of_areFragments areFragments]
  cases compiles : Regex.compile (assembledSource (grammar.literals text) fragments) sizeLimit with
  | ok regex => simp [source_of_compile compiles, eq_comm]
  | error cause => simp

end Assembled

/-- A pattern is its literal text and its placeholders in turn. It is refused with the name of its
first filter that is not registered; if there is none, exactly the assembled text is compiled, and
the pattern is refused if the text is, and has this text as its expression otherwise. Whatever
becomes of it, what it is compiled to has its text and its keys, and never matches exactly if the
pattern is refused. -/
theorem tryCompile_assembles (text : String) (registry : Registry) (grammar : Grammar)
    (sizeLimit : Nat) :
    let placeholders := (grammar.scan text).map Located.placeholder
    let outcome := tryCompile text registry grammar sizeLimit
    let compiled := compile text registry grammar sizeLimit
    weave (grammar.literals text) (placeholders.map Placeholder.text) = text.toList ∧
      (∀ name, outcome = .error (.unknownFilter name) ↔
        registry.unknown? placeholders = some name) ∧
      (registry.unknown? placeholders = none ↔
        ∃ fragments, AreFragments registry placeholders fragments) ∧
      (∀ fragments, AreFragments registry placeholders fragments →
        let source := assembledSource (grammar.literals text) fragments
        (∀ reason, outcome = .error (.invalidPattern text reason) ↔
          ∃ cause, Regex.compile source sizeLimit = .error cause ∧ reason = cause.message) ∧
        (∀ pattern, outcome = .ok pattern ↔
          ∃ regex, Regex.compile source sizeLimit = .ok regex ∧ regex.source = source ∧
            pattern = ⟨text, grammar.keys text, some regex⟩)) ∧
      compiled.text = text ∧ compiled.keys = grammar.keys text ∧
      (compiled.isNever = true ↔ ∃ cause, outcome = .error cause) := by
  intro placeholders outcome compiled
  refine ⟨grammar.weave_placeholders text, fun name => tryCompile_eq_unknownFilter_iff,
    Registry.unknown?_eq_none_iff,
    fun fragments areFragments => ⟨fun reason => ?_, fun pattern => ?_⟩,
    compile_text text registry grammar sizeLimit, keys_compile, isNever_compile_iff⟩
  · exact tryCompile_eq_invalidPattern_iff areFragments
  · exact tryCompile_eq_ok_iff areFragments

end Outcomes

/-- The literal text around a number is escaped, and a fragment with an alternative is enclosed; a
filter that is not registered is the cause of a refusal if it is the first such filter. -/
theorem tryCompile_assembles_alternative :
    let registry := Registry.builtin.register "yn" "(y)|(n)"
    (∃ pattern, tryCompile "a.[digit:n][yn:]é" registry (Grammar.ofBound 8) 10000 = .ok pattern ∧
      pattern.source? = some "^a\\.(?:([0-9]+))(?:(y)|(n))é$" ∧ pattern.keys = ["n", "0"]) ∧
    tryCompile "[digit:][no:][nor:]" registry (Grammar.ofBound 8) 10000 =
      .error (.unknownFilter "no") := by
  intro registry
  obtain ⟨_, _, _, assembles, _⟩ :=
    tryCompile_assembles "a.[digit:n][yn:]é" registry (Grammar.ofBound 8) 10000
  have placeholders : ((Grammar.ofBound 8).scan "a.[digit:n][yn:]é").map Located.placeholder =
      [⟨"digit", some "n"⟩, ⟨"yn", none⟩] := by decide +kernel
  have source : assembledSource ((Grammar.ofBound 8).literals "a.[digit:n][yn:]é")
      ["([0-9]+)", "(y)|(n)"] = "^a\\.(?:([0-9]+))(?:(y)|(n))é$" := by decide +kernel
  have keys : (Grammar.ofBound 8).keys "a.[digit:n][yn:]é" = ["n", "0"] := by decide +kernel
  have compiles : (Regex.compile "^a\\.(?:([0-9]+))(?:(y)|(n))é$" 10000).toOption.isSome = true := by
    decide +kernel
  rw [placeholders] at assembles
  have registered : AreFragments registry [⟨"digit", some "n"⟩, ⟨"yn", none⟩]
      ["([0-9]+)", "(y)|(n)"] :=
    .cons (by decide +kernel) (.cons (by decide +kernel) .nil)
  obtain ⟨_, accepted⟩ := assembles _ registered
  rw [source] at accepted
  refine ⟨?_, ?_⟩
  · cases compiled : Regex.compile "^a\\.(?:([0-9]+))(?:(y)|(n))é$" 10000 with
    | error cause => simp [compiled, Except.toOption] at compiles
    | ok regex =>
        have same := source_of_compile compiled
        refine ⟨_, (accepted _).mpr ⟨regex, compiled, same, rfl⟩, congrArg some same, keys⟩
  · obtain ⟨_, refused, _⟩ :=
      tryCompile_assembles "[digit:][no:][nor:]" registry (Grammar.ofBound 8) 10000
    exact (refused "no").mpr (by decide +kernel)

end Pattern

end Stencil
