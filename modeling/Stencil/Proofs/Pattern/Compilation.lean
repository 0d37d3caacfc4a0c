import Stencil.Pattern

/-!
What a pattern is compiled to.

Owns the view of `Pattern.tryCompile` in its steps: the parts of the assembled expression, the
expression that they are read as, and the size limit (`tryCompile_of_sources`). Pieces that follow
one another have parts that do (`mapM_pieceSource_append`). A pattern that compiles has such parts
(`tryCompile_ok`), and one that does not keeps its keys and extracts nothing; its filters or its
expression are the cause (`tryCompile_error`).
-/

namespace Stencil.Pattern

open Regex

variable {text : String} {registry : Registry} {grammar : Grammar} {sizeLimit : Nat}

/-! ### Parts -/

theorem pieceSource_congr {extended : Registry} {piece : Piece}
    (agree : ∀ placeholder, piece = .hole placeholder →
      extended.get? placeholder.filter = registry.get? placeholder.filter) :
    pieceSource extended piece = pieceSource registry piece := by
  cases piece with
  | char c => rfl
  | hole placeholder => rw [pieceSource, pieceSource, agree placeholder rfl]

/-- Only the filters that the pieces name matter. -/
theorem mapM_pieceSource_congr {extended : Registry} {pieces : List Piece}
    (agree : ∀ piece ∈ pieces, pieceSource extended piece = pieceSource registry piece) :
    pieces.mapM (pieceSource extended) = pieces.mapM (pieceSource registry) := by
  induction pieces with
  | nil => rfl
  | cons piece rest inductionHypothesis =>
      rw [List.forall_mem_cons] at agree
      rw [List.mapM_cons, List.mapM_cons, agree.1, inductionHypothesis agree.2]

theorem mapM_pieceSource_append {left right : List Piece}
    {leftSources rightSources : List (List Char)}
    (leftFound : left.mapM (pieceSource registry) = .ok leftSources)
    (rightFound : right.mapM (pieceSource registry) = .ok rightSources) :
    (left ++ right).mapM (pieceSource registry) = .ok (leftSources ++ rightSources) := by
  rw [List.mapM_append, leftFound, rightFound]
  rfl

theorem mapM_pieceSource_append_ok {left right : List Piece} {sources : List (List Char)}
    (found : (left ++ right).mapM (pieceSource registry) = .ok sources) :
    ∃ leftSources rightSources, left.mapM (pieceSource registry) = .ok leftSources ∧
      right.mapM (pieceSource registry) = .ok rightSources ∧
      sources = leftSources ++ rightSources := by
  rw [List.mapM_append] at found
  cases leftFound : left.mapM (pieceSource registry) with
  | error cause => simp [leftFound, bind, Except.bind] at found
  | ok leftSources =>
      cases rightFound : right.mapM (pieceSource registry) with
      | error cause => simp [leftFound, rightFound, bind, Except.bind] at found
      | ok rightSources =>
          simp only [leftFound, rightFound] at found
          exact ⟨leftSources, rightSources, rfl, rfl, (Except.ok.inj found).symm⟩

theorem mapM_pieceSource_cons_ok {piece : Piece} {rest : List Piece} {sources : List (List Char)}
    (found : (piece :: rest).mapM (pieceSource registry) = .ok sources) :
    ∃ source others, pieceSource registry piece = .ok source ∧
      rest.mapM (pieceSource registry) = .ok others ∧ sources = source :: others := by
  rw [List.mapM_cons] at found
  cases first : pieceSource registry piece with
  | error cause => simp [first, bind, Except.bind] at found
  | ok source =>
      cases foundRest : rest.mapM (pieceSource registry) with
      | error cause => simp [first, foundRest, bind, Except.bind] at found
      | ok others =>
          simp only [first, foundRest] at found
          exact ⟨source, others, rfl, rfl, (Except.ok.inj found).symm⟩

theorem mapM_pieceSource_chars (line : List Char) :
    (line.map Piece.char).mapM (pieceSource registry) = .ok (line.map escapeChar) := by
  induction line with
  | nil => rfl
  | cons c line inductionHypothesis =>
      rw [List.map_cons, List.mapM_cons, inductionHypothesis]
      rfl

theorem mapM_pieceSource_hole {placeholder : Placeholder} {fragment : String}
    (registered : registry.get? placeholder.filter = some fragment) :
    [Piece.hole placeholder].mapM (pieceSource registry) = .ok [enclose fragment] := by
  rw [List.mapM_cons, pieceSource, registered]
  rfl

theorem pieceSource_hole_ok {placeholder : Placeholder} {source : List Char}
    (found : pieceSource registry (.hole placeholder) = .ok source) :
    ∃ fragment, registry.get? placeholder.filter = some fragment ∧ source = enclose fragment := by
  simp only [pieceSource] at found
  cases registered : registry.get? placeholder.filter with
  | none => simp [registered] at found
  | some fragment =>
      rw [registered] at found
      exact ⟨fragment, rfl, (Except.ok.inj found).symm⟩

/-- The parts of a pattern cannot be put together only because a filter is unknown. -/
theorem mapM_pieceSource_error {pieces : List Piece} {cause : Error}
    (fails : pieces.mapM (pieceSource registry) = .error cause) :
    ∃ name, cause = .unknownFilter name := by
  induction pieces with
  | nil => simp [pure, Except.pure] at fails
  | cons piece rest inductionHypothesis =>
      rw [List.mapM_cons] at fails
      cases found : pieceSource registry piece with
      | error first =>
          have same : first = cause := by simpa [found, bind, Except.bind] using fails
          cases piece with
          | char c => simp [pieceSource] at found
          | hole placeholder =>
              simp only [pieceSource] at found
              split at found
              next => simp at found
              next => exact ⟨_, same ▸ (Except.error.inj found).symm⟩
      | ok part =>
          cases others : rest.mapM (pieceSource registry) with
          | error later =>
              have same : later = cause := by simpa [found, others, bind, Except.bind] using fails
              exact inductionHypothesis (same ▸ others)
          | ok parts => simp [found, others, bind, Except.bind, pure, Except.pure] at fails

/-! ### Outcomes -/

/-- The text of the expression that is put together from parts. -/
def assembled (sources : List (List Char)) : List Char := '^' :: (sources.flatten ++ ['$'])

theorem ofList_enclose (fragment : String) :
    String.ofList (enclose fragment) = "(?:" ++ fragment ++ ")" := by
  rw [enclose, String.ofList_append, String.ofList_append, String.ofList_toList,
    String.ofList_toList]

theorem ofList_assembled (sources : List (List Char)) :
    String.ofList (assembled sources) = "^" ++ String.ofList sources.flatten ++ "$" := by
  rw [assembled, ← List.singleton_append, String.ofList_append, String.ofList_append,
    String.append_assoc]

theorem source_of_sources {pieces : List Piece} {sources : List (List Char)}
    (found : pieces.mapM (pieceSource registry) = .ok sources) :
    source registry pieces = .ok (String.ofList (assembled sources)) := by
  rw [source, bodySource, found]
  rfl

/-- What is seen of the pattern that comes out is seen of a pattern. -/
theorem exists_ok_of_map {View : Type} {result : Except Error Pattern} {view : Pattern → View}
    {seen : View} (found : result.toOption.map view = some seen) :
    ∃ pattern, result = .ok pattern ∧ view pattern = seen := by
  cases result with
  | error cause => simp [Except.toOption] at found
  | ok pattern => exact ⟨pattern, rfl, Option.some.inj found⟩

variable [Measure]

/-- The outcome for parts that are read as an expression, or are not. -/
def outcome (text : String) (keys : List String) (sizeLimit : Nat) (source : List Char) :
    Except SyntaxError Expr → Except Error Pattern
  | .error cause => .error (.invalidPattern text (CompileError.malformed cause).message)
  | .ok expr =>
    if sizeLimit < Measure.bytes expr then
      .error (.invalidPattern text (CompileError.tooLarge sizeLimit).message)
    else .ok ⟨text, keys, some ⟨String.ofList source, expr, searchProgram expr⟩⟩

theorem tryCompile_of_sources {sources : List (List Char)}
    (found : (grammar.pieces text.toList).mapM (pieceSource registry) = .ok sources) :
    tryCompile text registry grammar sizeLimit =
      outcome text (keysOf (grammar.pieces text.toList)) sizeLimit (assembled sources)
        (Expr.ofText (assembled sources)) := by
  unfold tryCompile Regex.compile
  simp only [source_of_sources found, bind, Except.bind, String.toList_ofList]
  cases Expr.ofText (assembled sources) with
  | error cause => rfl
  | ok expr =>
      simp only [outcome]
      by_cases tooSmall : sizeLimit < Measure.bytes expr
      · simp only [if_pos tooSmall]
        rfl
      · simp only [if_neg tooSmall]
        rfl

theorem tryCompile_ok_sources {pattern : Pattern}
    (compiles : tryCompile text registry grammar sizeLimit = .ok pattern) :
    ∃ sources, (grammar.pieces text.toList).mapM (pieceSource registry) = .ok sources := by
  unfold tryCompile source bodySource at compiles
  cases found : (grammar.pieces text.toList).mapM (pieceSource registry) with
  | ok sources => exact ⟨sources, rfl⟩
  | error cause =>
      simp only [found, bind, Except.bind] at compiles
      simp at compiles

/-- A pattern that compiles is that of the expression that its parts are read as. -/
theorem tryCompile_ok {pattern : Pattern}
    (compiles : tryCompile text registry grammar sizeLimit = .ok pattern) :
    ∃ sources expr, (grammar.pieces text.toList).mapM (pieceSource registry) = .ok sources ∧
      Expr.ofText (assembled sources) = .ok expr ∧
      ¬ sizeLimit < Measure.bytes expr ∧
      pattern = ⟨text, keysOf (grammar.pieces text.toList),
        some ⟨String.ofList (assembled sources), expr, searchProgram expr⟩⟩ := by
  obtain ⟨sources, found⟩ := tryCompile_ok_sources compiles
  rw [tryCompile_of_sources found] at compiles
  cases parsed : Expr.ofText (assembled sources) with
  | error cause =>
      rw [parsed] at compiles
      simp [outcome] at compiles
  | ok expr =>
      rw [parsed, outcome] at compiles
      split at compiles
      next => simp at compiles
      next fits => exact ⟨sources, expr, found, parsed, fits, (Except.ok.inj compiles).symm⟩

/-! ### Causes of failure -/

/-- A pattern cannot be compiled because of its filters or its expression, and for no other cause. -/
theorem tryCompile_error {cause : Error}
    (fails : tryCompile text registry grammar sizeLimit = .error cause) :
    (∃ name, cause = .unknownFilter name) ∨ ∃ reason, cause = .invalidPattern text reason := by
  cases found : (grammar.pieces text.toList).mapM (pieceSource registry) with
  | error first =>
      left
      have same : first = cause := by
        simpa [tryCompile, source, bodySource, found, bind, Except.bind] using fails
      exact same ▸ mapM_pieceSource_error found
  | ok sources =>
      right
      rw [tryCompile_of_sources found] at fails
      cases parsed : Expr.ofText (assembled sources) with
      | error syntaxError =>
          rw [parsed, outcome] at fails
          exact ⟨_, (Except.error.inj fails).symm⟩
      | ok expr =>
          rw [parsed, outcome] at fails
          split at fails
          · exact ⟨_, (Except.error.inj fails).symm⟩
          · simp at fails

/-! ### Patterns that may never match -/

theorem compile_of_tryCompile {pattern : Pattern}
    (compiles : tryCompile text registry grammar sizeLimit = .ok pattern) :
    compile text registry grammar sizeLimit = pattern := by
  unfold compile
  rw [compiles]

/-- A pattern that compiles has an expression, and it is kept under its own text. -/
theorem text_of_tryCompile {pattern : Pattern}
    (compiles : tryCompile text registry grammar sizeLimit = .ok pattern) :
    pattern.text = text ∧ pattern.isNever = false := by
  obtain ⟨_, _, _, _, _, rfl⟩ := tryCompile_ok compiles
  exact ⟨rfl, rfl⟩

theorem compile_text (text : String) (registry : Registry) (grammar : Grammar) (sizeLimit : Nat) :
    (compile text registry grammar sizeLimit).text = text := by
  unfold compile
  split
  next compiles => exact (text_of_tryCompile compiles).1
  next => rfl

/-- A pattern that has an expression after compilation is one that compiles. -/
theorem tryCompile_of_not_never
    (usable : (compile text registry grammar sizeLimit).isNever = false) :
    tryCompile text registry grammar sizeLimit =
      .ok (compile text registry grammar sizeLimit) := by
  cases compiles : tryCompile text registry grammar sizeLimit with
  | ok pattern => rw [compile_of_tryCompile compiles]
  | error cause =>
      unfold compile at usable
      rw [compiles] at usable
      simp [never, isNever] at usable

/-- A pattern has no expression after compilation exactly if it cannot be compiled. -/
theorem isNever_compile_iff :
    (compile text registry grammar sizeLimit).isNever = true ↔
      ∃ cause, tryCompile text registry grammar sizeLimit = .error cause := by
  cases compiles : tryCompile text registry grammar sizeLimit with
  | error cause =>
      have never : compile text registry grammar sizeLimit = Pattern.never text (grammar.keys text) := by
        unfold compile
        rw [compiles]
      rw [never]
      exact ⟨fun _ => ⟨cause, rfl⟩, fun _ => rfl⟩
  | ok pattern =>
      have usable := (text_of_tryCompile compiles).2
      rw [compile_of_tryCompile compiles, usable]
      simp

/-- A pattern keeps its keys, whether or not it can be compiled. -/
theorem keys_compile : (compile text registry grammar sizeLimit).keys = grammar.keys text := by
  unfold compile
  cases compiles : tryCompile text registry grammar sizeLimit with
  | error cause => rfl
  | ok pattern =>
      obtain ⟨_, _, _, _, _, rfl⟩ := tryCompile_ok compiles
      rfl

/-- Values are extracted only by a pattern that can be compiled. -/
theorem tryCompile_of_extract {input : String} {params : Params}
    (extracts : (compile text registry grammar sizeLimit).extract input = some params) :
    ∃ pattern, tryCompile text registry grammar sizeLimit = .ok pattern ∧
      pattern.extract input = some params := by
  unfold compile at extracts
  cases compiles : tryCompile text registry grammar sizeLimit with
  | error cause => simp [compiles, never, extract] at extracts
  | ok pattern => exact ⟨pattern, rfl, by simpa [compiles] using extracts⟩

end Stencil.Pattern
