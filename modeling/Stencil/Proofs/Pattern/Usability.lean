import Stencil.Proofs.Pattern.Swallowing
import Stencil.Regex.Estimate

/-!
Whether patterns over validated fragments compile.

Owns `CompilesWithin`, which says that nothing but the size limit keeps a pattern from compiling. A
fragment that was validated alone may fail in a pattern for three reasons: it ends within a comment,
a name of its groups is taken, or the group around it nests it too deep. The main statement is
`compilesWithin_iff`: there is no other reason, for a pattern and for all patterns of a registry.
-/

namespace Stencil

open Regex Regex.Reader

/-- Every filter that the pieces name is registered. -/
def Known (registry : Registry) (pieces : List Piece) : Prop :=
  ∀ placeholder ∈ holesOf pieces, ∃ fragment, registry.get? placeholder.filter = some fragment

instance (registry : Registry) (pieces : List Piece) : Decidable (Known registry pieces) :=
  decidable_of_iff
    (∀ placeholder ∈ holesOf pieces, (registry.get? placeholder.filter).isSome = true)
    (forall₂_congr fun _ _ => Option.isSome_iff_exists)

/-- Nothing but the size limit keeps a pattern from compiling, and if it compiles it is no pattern
that never matches. -/
def CompilesWithin [Measure] (registry : Registry) (grammar : Grammar) (text : String) : Prop :=
  ∃ needed, ∀ sizeLimit,
    (sizeLimit < needed → Pattern.tryCompile text registry grammar sizeLimit =
      .error (.invalidPattern text (Regex.CompileError.tooLarge sizeLimit).message)) ∧
    (needed ≤ sizeLimit → ∃ pattern,
      Pattern.tryCompile text registry grammar sizeLimit = .ok pattern ∧
        Pattern.compile text registry grammar sizeLimit = pattern ∧ pattern.isNever = false)

variable {registry : Registry} {grammar : Grammar}

theorem Known.exists_sources {pieces : List Piece} (known : Known registry pieces) :
    ∃ sources, pieces.mapM (Pattern.pieceSource registry) = .ok sources := by
  induction pieces with
  | nil => exact ⟨[], rfl⟩
  | cons piece rest inductionHypothesis =>
      cases piece with
      | char c =>
          obtain ⟨sources, found⟩ := inductionHypothesis known
          refine ⟨Pattern.escapeChar c :: sources, ?_⟩
          rw [List.mapM_cons, found]
          rfl
      | hole placeholder =>
          rw [Known, holesOf_hole, List.forall_mem_cons] at known
          obtain ⟨⟨fragment, registered⟩, knownRest⟩ := known
          obtain ⟨sources, found⟩ := inductionHypothesis knownRest
          refine ⟨Pattern.enclose fragment :: sources, ?_⟩
          rw [List.mapM_cons, found, Pattern.pieceSource, registered]
          rfl

/-- A pattern compiles within some limit exactly if its parts are read as an expression. -/
theorem compilesWithin_iff_ofText [Measure] {text : String} {sources : List (List Char)}
    (found : (grammar.pieces text.toList).mapM (Pattern.pieceSource registry) = .ok sources) :
    CompilesWithin registry grammar text ↔
      ∃ expr, Expr.ofText (Pattern.assembled sources) = .ok expr := by
  constructor
  · rintro ⟨needed, compiles⟩
    obtain ⟨pattern, compiled, _⟩ := (compiles needed).2 (Nat.le_refl needed)
    obtain ⟨same, expr, foundSame, parsed, _⟩ := Pattern.tryCompile_ok compiled
    obtain rfl : sources = same := Except.ok.inj (found.symm.trans foundSame)
    exact ⟨expr, parsed⟩
  · rintro ⟨expr, parsed⟩
    refine ⟨Measure.bytes expr, fun sizeLimit => ⟨fun tooSmall => ?_, fun enough => ?_⟩⟩
    · rw [Pattern.tryCompile_of_sources found, parsed]
      exact if_pos tooSmall
    · have compiles : ∃ pattern, Pattern.tryCompile text registry grammar sizeLimit = .ok pattern ∧
          pattern.isNever = false := by
        rw [Pattern.tryCompile_of_sources found, parsed, Pattern.outcome,
          if_neg (Nat.not_lt.mpr enough)]
        exact ⟨_, rfl, rfl⟩
      obtain ⟨pattern, compiled, notNever⟩ := compiles
      exact ⟨pattern, compiled, by rw [Pattern.compile, compiled], notNever⟩

/-! ### Patterns whose fragments end their comments -/

/-- Fragments that end their comments keep a pattern from compiling only by their names and their
nesting. -/
theorem compilesWithin_iff_of_ends [Measure] (validated : registry.Validated) {text : String}
    (known : Known registry (grammar.pieces text.toList))
    (ends : EndsItsComments registry (grammar.pieces text.toList)) :
    CompilesWithin registry grammar text ↔
      ((fragmentsOf registry (grammar.pieces text.toList)).flatMap groupNames).Nodup ∧
        ∀ fragment ∈ fragmentsOf registry (grammar.pieces text.toList),
          nesting fragment + 1 < greatestDepth := by
  obtain ⟨sources, found⟩ := known.exists_sources
  rw [compilesWithin_iff_ofText found, ofText_assembled validated ends found]
  by_cases distinct : ((fragmentsOf registry (grammar.pieces text.toList)).flatMap groupNames).Nodup
  · by_cases shallow : ∀ fragment ∈ fragmentsOf registry (grammar.pieces text.toList),
        nesting fragment + 1 < greatestDepth
    · rw [if_pos distinct, if_pos shallow]
      exact iff_of_true ⟨_, rfl⟩ ⟨distinct, shallow⟩
    · rw [if_pos distinct, if_neg shallow]
      exact iff_of_false (by simp) fun both => shallow both.2
  · rw [if_neg distinct]
    exact iff_of_false (by simp) fun both => distinct both.1

/-! ### Patterns of one filter -/

/-- A pattern that names a filter a number of times and holds no other text. -/
def timesPattern (count : Nat) (name : String) : String :=
  String.ofList (List.replicate count (Placeholder.text ⟨name, none⟩)).flatten

section Times

variable {name fragment : String} (isIdentifier : grammar.isIdentifier name = true)
  (registered : registry.get? name = some fragment) (count : Nat)

include isIdentifier in
theorem pieces_timesPattern :
    grammar.pieces (timesPattern count name).toList = List.replicate count (.hole ⟨name, none⟩) := by
  rw [timesPattern, String.toList_ofList]
  induction count with
  | zero => simp [Grammar.pieces]
  | succ count inductionHypothesis =>
      rw [List.replicate_succ, List.flatten_cons,
        Grammar.pieces_placeholder (Grammar.admits_of_isIdentifier isIdentifier),
        inductionHypothesis, List.replicate_succ]

include isIdentifier registered

theorem known_timesPattern :
    Known registry (grammar.pieces (timesPattern count name).toList) := by
  rw [pieces_timesPattern isIdentifier]
  intro placeholder present
  obtain ⟨_, same⟩ := List.mem_replicate.mp (mem_holesOf.mp present)
  obtain rfl := Piece.hole.inj same
  exact ⟨fragment, registered⟩

theorem fragmentsOf_timesPattern :
    fragmentsOf registry (grammar.pieces (timesPattern count name).toList) =
      List.replicate count fragment := by
  rw [pieces_timesPattern isIdentifier]
  induction count with
  | zero => rfl
  | succ count inductionHypothesis =>
      rw [List.replicate_succ, fragmentsOf_hole, inductionHypothesis, fragmentOf, registered,
        Option.getD_some, List.replicate_succ]

/-- A fragment that ends within a comment leaves its group open at the end of its pattern. -/
theorem endsInComment_of_compilesWithin [Measure] (validated : registry.Validated)
    (compiles : CompilesWithin registry grammar (timesPattern 1 name)) :
    endsInComment fragment = false := by
  have found : (grammar.pieces (timesPattern 1 name).toList).mapM (Pattern.pieceSource registry) =
      .ok [Pattern.enclose fragment] := by
    rw [pieces_timesPattern isIdentifier]
    exact Pattern.mapM_pieceSource_hole registered
  obtain ⟨expr, parsed⟩ := (compilesWithin_iff_ofText found).mp compiles
  rw [Bool.eq_false_iff]
  intro ends
  have nothing : EndsItsComments registry [] := by simp [EndsItsComments]
  have noLine : '\n' ∉ ['$'] := by decide
  obtain ⟨cause, fails⟩ := ofText_unended validated nothing rfl ends noLine
  have whole : Expr.ofText (Pattern.assembled [Pattern.enclose fragment]) = .error cause := by
    simpa [Pattern.assembled] using fails
  rw [parsed] at whole
  simp at whole

end Times

/-! ### Patterns of a registry -/

/-- A fragment that can be used once and twice ends its comments, names no group and may be nested
one deeper. -/
theorem usable_of_compilesWithin [Measure] (validated : registry.Validated) {name fragment : String}
    (isIdentifier : grammar.isIdentifier name = true)
    (registered : registry.get? name = some fragment)
    (once : CompilesWithin registry grammar (timesPattern 1 name))
    (twice : CompilesWithin registry grammar (timesPattern 2 name)) :
    endsInComment fragment = false ∧ groupNames fragment = [] ∧
      nesting fragment + 1 < greatestDepth := by
  have ends := endsInComment_of_compilesWithin isIdentifier registered validated once
  have fragments := fragmentsOf_timesPattern isIdentifier registered 2
  have endsTwice : EndsItsComments registry (grammar.pieces (timesPattern 2 name).toList) := by
    rw [endsItsComments_iff, fragments]
    intro other present
    rw [List.eq_of_mem_replicate present]
    exact ends
  obtain ⟨distinct, shallow⟩ := (compilesWithin_iff_of_ends validated
    (known_timesPattern isIdentifier registered 2) endsTwice).mp twice
  rw [fragments] at distinct shallow
  refine ⟨ends, ?_, shallow fragment (List.mem_replicate.mpr ⟨by decide, rfl⟩)⟩
  -- Named twice, the filter brings each of its names twice.
  rw [List.eq_nil_iff_forall_not_mem]
  intro name present
  have both : (groupNames fragment ++ groupNames fragment).Nodup := by
    simpa [List.replicate_succ] using distinct
  exact (List.nodup_append'.mp both).2.2 present present

/-- What holds of all fragments under identifiers holds of those of a pattern. -/
theorem forall_fragmentsOf {property : String → Prop}
    (holds : ∀ name fragment, grammar.isIdentifier name = true →
      registry.get? name = some fragment → property fragment)
    {text : List Char} (known : Known registry (grammar.pieces text)) :
    ∀ fragment ∈ fragmentsOf registry (grammar.pieces text), property fragment := by
  intro fragment present
  obtain ⟨placeholder, hole, rfl⟩ := List.mem_map.mp present
  obtain ⟨fragment, registered⟩ := known placeholder hole
  have isIdentifier := (Grammar.admits_of_mem_pieces (mem_holesOf.mp hole)).isIdentifier
  rw [fragmentOf, registered]
  exact holds placeholder.filter fragment isIdentifier registered

/-- Between validated fragments that end their comments only their names and their nesting keep a
pattern from compiling, whatever the size limit. All patterns over the filters of a registry compile
within some limit exactly if every fragment ends its comments, has no named groups and may be nested
one deeper. -/
theorem compilesWithin_iff [Measure] (validated : registry.Validated) (grammar : Grammar) :
    (∀ text : String, Known registry (grammar.pieces text.toList) →
      EndsItsComments registry (grammar.pieces text.toList) →
      (CompilesWithin registry grammar text ↔
        ((fragmentsOf registry (grammar.pieces text.toList)).flatMap groupNames).Nodup ∧
          ∀ fragment ∈ fragmentsOf registry (grammar.pieces text.toList),
            nesting fragment + 1 < greatestDepth)) ∧
    ((∀ text : String, Known registry (grammar.pieces text.toList) →
        CompilesWithin registry grammar text) ↔
      ∀ name fragment, grammar.isIdentifier name = true → registry.get? name = some fragment →
        endsInComment fragment = false ∧ groupNames fragment = [] ∧
          nesting fragment + 1 < greatestDepth) := by
  refine ⟨fun text => compilesWithin_iff_of_ends validated, ?_⟩
  constructor
  · intro compiles name fragment isIdentifier registered
    exact usable_of_compilesWithin validated isIdentifier registered
      (compiles _ (known_timesPattern isIdentifier registered 1))
      (compiles _ (known_timesPattern isIdentifier registered 2))
  · intro usable text known
    have fine := forall_fragmentsOf usable known
    have ends : EndsItsComments registry (grammar.pieces text.toList) :=
      endsItsComments_iff.mpr fun fragment present => (fine fragment present).1
    refine (compilesWithin_iff_of_ends validated known ends).mpr
      ⟨?_, fun fragment present => (fine fragment present).2.2⟩
    have unnamed : (fragmentsOf registry (grammar.pieces text.toList)).flatMap groupNames = [] :=
      List.flatMap_eq_nil_iff.mpr fun fragment present => (fine fragment present).2.1
    rw [unnamed]
    exact .nil

/-- A valid fragment whose group has a name. -/
def naming : Registry := Registry.builtin.register "f" "(?P<n>a)"

theorem validated_naming : naming.Validated :=
  Registry.validated_builtin.register (Registry.tryRegister_of_valid Registry.builtin
    (Grammar.ofBound 64) (by decide +kernel) (by decide +kernel))

/-- A name that comes once does no harm. -/
theorem compilesWithin_iff_namedOnce :
    naming.Validated ∧ CompilesWithin naming (Grammar.ofBound 64) "[f:]-[digit:][digit:]" := by
  refine ⟨validated_naming, ?_⟩
  have usable := (compilesWithin_iff validated_naming (Grammar.ofBound 64)).1
    "[f:]-[digit:][digit:]" (by decide +kernel) (by decide +kernel)
  exact usable.mpr (by decide +kernel)

/-- A filter that was accepted cannot be used twice in a pattern if its group has a name. -/
theorem not_compilesWithin_naming :
    naming.Validated ∧ Known naming ((Grammar.ofBound 64).pieces "[f:][f:]".toList) ∧
      Pattern.tryCompile "[f:][f:]" naming (Grammar.ofBound 64) defaultSizeLimit =
        .error (.invalidPattern "[f:][f:]" "regex parse error") ∧
      (Pattern.compile "[f:][f:]" naming (Grammar.ofBound 64) defaultSizeLimit).isNever = true := by
  refine ⟨validated_naming, by decide +kernel, ?_, by decide +kernel⟩
  have known : Known naming ((Grammar.ofBound 64).pieces "[f:][f:]".toList) := by decide +kernel
  obtain ⟨sources, found⟩ := known.exists_sources
  rw [Pattern.tryCompile_of_sources found,
    ofText_assembled validated_naming (by decide +kernel) found, if_neg (by decide +kernel)]
  rfl

end Stencil
