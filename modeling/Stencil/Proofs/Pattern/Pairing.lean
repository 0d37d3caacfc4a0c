import Stencil.Proofs.Pattern.Captures
import Stencil.Proofs.Pattern.Swallowing

/-!
Whether the keys of a pattern and the groups of its expression keep in step.

Owns `PairsInTurn`, which says that the captures are paired with the keys of the placeholders whose
fragments wrote the groups, and `OpensInTurn`, which says from the fragments alone when this is so.
The main statement is `inStep_iff`: if validated fragments end their comments, the groups that a
fragment opens and drops again are reported beside its own, unless it is the last one, and make the
groups after them miss their keys; and a fragment that ends within a comment swallows the group of a
fragment after it.
-/

namespace Stencil

open Regex Regex.Reader

/-! ### Keys and captures -/

/-- Whether an expression is that of a piece: the character itself, or what the fragment of the
placeholder denotes by itself, with its groups numbered further on. -/
def IsExprOf (registry : Registry) : Piece → Expr → Prop
  | .char c, expr => expr = .literal [c]
  | .hole placeholder, expr => ∃ fragment own offset,
      registry.get? placeholder.filter = some fragment ∧
        Expr.ofText fragment.toList = .ok own ∧ expr = own.shift offset

/-- The groups in the expressions of the placeholders, from left to right. -/
def holeGroups : List Piece → List Expr → List (List Nat)
  | .char _ :: pieces, _ :: exprs => holeGroups pieces exprs
  | .hole _ :: pieces, expr :: exprs => expr.groups :: holeGroups pieces exprs
  | _, _ => []

/-- The expression of the pattern is made of those of its pieces, the fragment of each placeholder
writes the group whose number is that of the placeholder and no other, and a match captures as many
groups as there are keys. So each key is paired with what the fragment of its placeholder
captured. -/
def PairsInTurn (registry : Registry) (pieces : List Piece) (pattern : Pattern) : Prop :=
  ∃ regex exprs, pattern.regex = some regex ∧ regex.expr = anchored exprs ∧
    List.Forall₂ (IsExprOf registry) pieces exprs ∧
    holeGroups pieces exprs = (List.range' 1 pattern.keys.length).map ([·]) ∧
    ∀ input params, pattern.extract input = some params →
      ∃ captures, regex.captures? input = some captures ∧
        captures.length = pattern.keys.length ∧ params = Pattern.paramsOf captures pattern.keys

/-! ### Groups of fragments -/

/-- The groups that are left in the expression of a fragment. -/
def ownGroups (fragment : String) : List Nat := (endOf fragment).layer.contents.expr.groups

/-- No fragment but the last one opens a group beside its own. -/
def OpensInTurn (fragments : List String) : Prop :=
  ∀ fragment ∈ fragments.dropLast, openedGroups fragment = 1

instance : DecidablePred OpensInTurn := fun fragments =>
  inferInstanceAs (Decidable (∀ fragment ∈ fragments.dropLast, openedGroups fragment = 1))

/-- The number of groups that fragments in turn report: those that are opened before the last
fragment, and its own. -/
def reportedGroups : List String → Nat
  | [] => 0
  | [_] => 1
  | fragment :: next :: rest => openedGroups fragment + reportedGroups (next :: rest)

/-- A fragment that keeps the first group that it opens, and no other. -/
structure KeepsFirstGroup (fragment : String) : Prop where
  own : ownGroups fragment = [1]
  opens : 1 ≤ openedGroups fragment

theorem Registry.Validated.keepsFirstGroup [Measure] {registry : Registry}
    (validated : registry.Validated) {name fragment : String}
    (registered : registry.get? name = some fragment) : KeepsFirstGroup fragment := by
  obtain ⟨expr, alone, one⟩ := validated.ofText registered
  have within := groups_within_openedGroups alone
  have own : expr.groups = [1] := Expr.groups_of_lastGroup_one (groups_nodup_of_ofText alone)
    (fun index member => (within index member).1) one
  obtain ⟨_, _, _, _, _, isEnd⟩ := read_of_ofText alone
  refine ⟨?_, (within 1 (by simp [own])).2⟩
  rw [ownGroups, ← isEnd, own]

/-- The groups of fragments before which there are the given number of groups. -/
def writtenGroups (groups : Nat) : List String → List Nat
  | [] => []
  | fragment :: rest =>
    (ownGroups fragment).map (· + groups) ++ writtenGroups (openedGroups fragment + groups) rest

section Fragments

variable {fragments : List String}

theorem opensInTurn_cons {fragment next : String} {rest : List String} :
    OpensInTurn (fragment :: next :: rest) ↔
      openedGroups fragment = 1 ∧ OpensInTurn (next :: rest) := by
  simp [OpensInTurn]

/-- Each fragment writes its own group, and the next one counts on from the groups that it opened. -/
theorem writtenGroups_cons {fragment : String} (single : KeepsFirstGroup fragment) (groups : Nat)
    (rest : List String) : writtenGroups groups (fragment :: rest) =
      (groups + 1) :: writtenGroups (openedGroups fragment + groups) rest := by
  rw [writtenGroups, single.own, List.map_singleton, List.singleton_append, Nat.add_comm 1 groups]

variable (single : ∀ fragment ∈ fragments, KeepsFirstGroup fragment)
include single

theorem le_of_mem_writtenGroups {groups index : Nat}
    (member : index ∈ writtenGroups groups fragments) :
    index ≤ reportedGroups fragments + groups := by
  induction fragments generalizing groups with
  | nil => simp [writtenGroups] at member
  | cons fragment rest inductionHypothesis =>
      rw [List.forall_mem_cons] at single
      rw [writtenGroups_cons single.1, List.mem_cons] at member
      have opens := single.1.opens
      cases rest with
      | nil =>
          simp only [writtenGroups, List.not_mem_nil, or_false] at member
          rw [reportedGroups]
          omega
      | cons next others =>
          rw [reportedGroups]
          rcases member with rfl | later
          · omega
          · have within := inductionHypothesis single.2 later
            omega

/-- The last group is the own one of the last fragment. -/
theorem reportedGroups_mem_writtenGroups (some : fragments ≠ []) (groups : Nat) :
    reportedGroups fragments + groups ∈ writtenGroups groups fragments := by
  induction fragments generalizing groups with
  | nil => exact absurd rfl some
  | cons fragment rest inductionHypothesis =>
      rw [List.forall_mem_cons] at single
      rw [writtenGroups_cons single.1]
      cases rest with
      | nil => simp [reportedGroups, Nat.add_comm]
      | cons next others =>
          have last := inductionHypothesis single.2 (by simp) (openedGroups fragment + groups)
          rw [← Nat.add_assoc, Nat.add_comm _ (openedGroups fragment)] at last
          exact List.mem_cons_of_mem _ last

theorem length_le_reportedGroups : fragments.length ≤ reportedGroups fragments := by
  induction fragments with
  | nil => exact Nat.le_refl 0
  | cons fragment rest inductionHypothesis =>
      rw [List.forall_mem_cons] at single
      have opens := single.1.opens
      cases rest with
      | nil => exact Nat.le_refl 1
      | cons next others =>
          have later := inductionHypothesis single.2
          rw [List.length_cons, reportedGroups]
          omega

/-- As many groups are reported as there are fragments exactly if none before the last one opens more
than its own. -/
theorem reportedGroups_eq_length_iff :
    reportedGroups fragments = fragments.length ↔ OpensInTurn fragments := by
  induction fragments with
  | nil => simp [reportedGroups, OpensInTurn]
  | cons fragment rest inductionHypothesis =>
      rw [List.forall_mem_cons] at single
      have opens := single.1.opens
      cases rest with
      | nil => simp [reportedGroups, OpensInTurn]
      | cons next others =>
          have enough := length_le_reportedGroups single.2
          rw [opensInTurn_cons, ← inductionHypothesis single.2, List.length_cons, reportedGroups]
          omega

/-- Groups are numbered as the fragments are exactly if none before the last one opens more than its
own. -/
theorem writtenGroups_eq_range'_iff (groups : Nat) :
    writtenGroups groups fragments = List.range' (groups + 1) fragments.length ↔
      OpensInTurn fragments := by
  constructor
  · intro inTurn
    rw [← reportedGroups_eq_length_iff single]
    apply Nat.le_antisymm _ (length_le_reportedGroups single)
    by_cases none : fragments = []
    · simp [none, reportedGroups]
    · have last := reportedGroups_mem_writtenGroups single none groups
      rw [inTurn, List.mem_range'_1] at last
      omega
  · intro inTurn
    induction fragments generalizing groups with
    | nil => rfl
    | cons fragment rest inductionHypothesis =>
        rw [List.forall_mem_cons] at single
        rw [writtenGroups_cons single.1, List.length_cons, List.range'_succ]
        cases rest with
        | nil => rfl
        | cons next others =>
            obtain ⟨one, others⟩ := opensInTurn_cons.mp inTurn
            rw [one, Nat.add_comm 1 groups, inductionHypothesis single.2 _ others]

end Fragments

/-! ### Groups of patterns -/

variable {registry : Registry} {grammar : Grammar} {pieces : List Piece}

theorem groups_partsOf (registry : Registry) (groups : Nat) (pieces : List Piece) :
    ((partsOf registry groups pieces).map Part.expr).flatMap Expr.groups =
      writtenGroups groups (fragmentsOf registry pieces) := by
  induction pieces generalizing groups with
  | nil => rfl
  | cons piece rest inductionHypothesis =>
      cases piece with
      | char c => exact inductionHypothesis groups
      | hole placeholder =>
          rw [partsOf, List.map_cons, List.flatMap_cons, inductionHypothesis, fragmentsOf_hole,
            writtenGroups]
          exact congrArg (· ++ _) (Expr.groups_shift groups _)

theorem holeGroups_partsOf (registry : Registry) (groups : Nat) {pieces : List Piece}
    (single : ∀ fragment ∈ fragmentsOf registry pieces, KeepsFirstGroup fragment) :
    holeGroups pieces ((partsOf registry groups pieces).map Part.expr) =
      (writtenGroups groups (fragmentsOf registry pieces)).map ([·]) := by
  induction pieces generalizing groups with
  | nil => rfl
  | cons piece rest inductionHypothesis =>
      cases piece with
      | char c => exact inductionHypothesis groups single
      | hole placeholder =>
          rw [fragmentsOf_hole, List.forall_mem_cons] at single
          have written := Expr.groups_shift groups
            (endOf (fragmentOf registry placeholder)).layer.contents.expr
          rw [← ownGroups, single.1.own] at written
          rw [partsOf, List.map_cons, holeGroups, inductionHypothesis _ single.2, fragmentsOf_hole,
            writtenGroups, single.1.own]
          exact congrArg (· :: _) written

/-- Literal characters write no groups. -/
theorem flatten_holeGroups {exprs : List Expr}
    (areExprs : List.Forall₂ (IsExprOf registry) pieces exprs) :
    (holeGroups pieces exprs).flatten = exprs.flatMap Expr.groups := by
  induction areExprs with
  | nil => rfl
  | @cons piece expr pieces exprs isExpr _ inductionHypothesis =>
      cases piece with
      | char c =>
          obtain rfl : expr = .literal [c] := isExpr
          exact inductionHypothesis
      | hole placeholder =>
          rw [holeGroups, List.flatten_cons, inductionHypothesis, List.flatMap_cons]

theorem isExprOf_partsOf [Measure] (validated : registry.Validated) {sources : List (List Char)}
    (found : pieces.mapM (Pattern.pieceSource registry) = .ok sources) (groups : Nat) :
    List.Forall₂ (IsExprOf registry) pieces ((partsOf registry groups pieces).map Part.expr) := by
  induction pieces generalizing sources groups with
  | nil => exact .nil
  | cons piece rest inductionHypothesis =>
      obtain ⟨source, others, foundSource, foundOthers, rfl⟩ :=
        Pattern.mapM_pieceSource_cons_ok found
      cases piece with
      | char c => exact .cons rfl (inductionHypothesis foundOthers groups)
      | hole placeholder =>
          refine .cons ?_ (inductionHypothesis foundOthers _)
          obtain ⟨fragment, registered, rfl⟩ := Pattern.pieceSource_hole_ok foundSource
          obtain ⟨expr, alone, _⟩ := validated.ofText registered
          obtain ⟨_, _, _, _, _, isEnd⟩ := read_of_ofText alone
          refine ⟨fragment, expr, groups, registered, alone, ?_⟩
          rw [fragmentOf, registered, isEnd]
          rfl

/-- Each placeholder of a pattern that compiles has a fragment that keeps its first group alone. -/
theorem keepsFirstGroup_fragmentsOf [Measure] (validated : registry.Validated)
    {sources : List (List Char)} (found : pieces.mapM (Pattern.pieceSource registry) = .ok sources) :
    ∀ fragment ∈ fragmentsOf registry pieces, KeepsFirstGroup fragment := by
  induction pieces generalizing sources with
  | nil => simp
  | cons piece rest inductionHypothesis =>
      obtain ⟨source, others, foundSource, foundOthers, rfl⟩ :=
        Pattern.mapM_pieceSource_cons_ok found
      cases piece with
      | char c => exact inductionHypothesis foundOthers
      | hole placeholder =>
          obtain ⟨fragment, registered, rfl⟩ := Pattern.pieceSource_hole_ok foundSource
          rw [fragmentsOf_hole, List.forall_mem_cons, fragmentOf, registered]
          exact ⟨validated.keepsFirstGroup registered, inductionHypothesis foundOthers⟩

section Compiled

variable [Measure] {text : String} {sizeLimit : Nat} {pattern : Pattern}

theorem length_keys_of_tryCompile
    (compiles : Pattern.tryCompile text registry grammar sizeLimit = .ok pattern) :
    pattern.keys.length = (holesOf (grammar.pieces text.toList)).length := by
  obtain ⟨sources, expr, found, parsed, fits, rfl⟩ := Pattern.tryCompile_ok compiles
  exact length_keysOf _

variable (validated : registry.Validated)
  (compiles : Pattern.tryCompile text registry grammar sizeLimit = .ok pattern)
  (ends : EndsItsComments registry (grammar.pieces text.toList))

include validated compiles ends

/-- A pattern whose fragments end their comments is compiled to their expressions. -/
theorem exists_regex_of_tryCompile :
    ∃ sources regex, (grammar.pieces text.toList).mapM (Pattern.pieceSource registry) = .ok sources ∧
      pattern.regex = some regex ∧
      regex.expr = anchored ((partsOf registry 0 (grammar.pieces text.toList)).map Part.expr) := by
  obtain ⟨sources, expr, found, parsed, fits, rfl⟩ := Pattern.tryCompile_ok compiles
  have whole := ofText_assembled validated ends found
  rw [parsed] at whole
  split at whole
  next =>
    split at whole
    next => exact ⟨sources, _, found, rfl, Except.ok.inj whole⟩
    next => simp at whole
  next => simp at whole

/-- The groups that a match reports are those of the fragments. -/
theorem groupCount_of_tryCompile : pattern.groupCount =
    reportedGroups (fragmentsOf registry (grammar.pieces text.toList)) := by
  obtain ⟨sources, regex, found, hasRegex, isExpr⟩ :=
    exists_regex_of_tryCompile validated compiles ends
  have single := keepsFirstGroup_fragmentsOf validated found
  rw [Pattern.groupCount_of_regex hasRegex]
  apply Expr.lastGroup_eq <;> rw [isExpr, groups_anchored, groups_partsOf]
  · exact fun index member => le_of_mem_writtenGroups single member
  · by_cases none : fragmentsOf registry (grammar.pieces text.toList) = []
    · exact .inl (by rw [none, reportedGroups])
    · exact .inr (reportedGroups_mem_writtenGroups single none 0)

theorem groupCount_eq_length_keys_iff : pattern.groupCount = pattern.keys.length ↔
    OpensInTurn (fragmentsOf registry (grammar.pieces text.toList)) := by
  obtain ⟨sources, _, found, _⟩ := exists_regex_of_tryCompile validated compiles ends
  rw [← reportedGroups_eq_length_iff (keepsFirstGroup_fragmentsOf validated found),
    groupCount_of_tryCompile validated compiles ends, length_keys_of_tryCompile compiles,
    fragmentsOf, List.length_map]

/-- The captures of a match are those of the placeholders in their order exactly if no fragment but
the last opens a group beside its own. -/
theorem pairsInTurn_iff :
    PairsInTurn registry (grammar.pieces text.toList) pattern ↔
      OpensInTurn (fragmentsOf registry (grammar.pieces text.toList)) := by
  obtain ⟨sources, regex, found, hasRegex, isExpr⟩ :=
    exists_regex_of_tryCompile validated compiles ends
  have single := keepsFirstGroup_fragmentsOf validated found
  have groups : regex.expr.groups =
      writtenGroups 0 (fragmentsOf registry (grammar.pieces text.toList)) := by
    rw [isExpr, groups_anchored, groups_partsOf]
  have length : (fragmentsOf registry (grammar.pieces text.toList)).length =
      pattern.keys.length := by
    rw [length_keys_of_tryCompile compiles, fragmentsOf, List.length_map]
  rw [← writtenGroups_eq_range'_iff single 0, Nat.zero_add, length]
  constructor
  · rintro ⟨same, exprs, sameRegex, areExprs, isExprs, inTurn, _⟩
    obtain rfl : regex = same := Option.some.inj (hasRegex.symm.trans sameRegex)
    rw [← groups, areExprs, groups_anchored, ← flatten_holeGroups isExprs, inTurn]
    rw [← List.flatMap_def, List.flatMap_singleton']
  · intro inTurn
    refine ⟨regex, _, hasRegex, isExpr, isExprOf_partsOf validated found 0, ?_, ?_⟩
    · rw [holeGroups_partsOf registry 0 single, inTurn]
    · intro input params extracted
      have last : regex.groupCount = pattern.keys.length :=
        Expr.lastGroup_of_groups (groups.trans inTurn)
      rw [Pattern.extract_of_regex hasRegex, Option.map_eq_some_iff] at extracted
      obtain ⟨captures, captured, rfl⟩ := extracted
      exact ⟨captures, captured, (Regex.length_captures captured).trans last, rfl⟩

end Compiled

/-! ### Keys in step -/

/-- After a fragment that ends within a comment, the group of another fragment is swallowed if no
line ends in it. -/
theorem groupCount_ne_of_comment [Measure] (validated : registry.Validated) {text : String}
    {sizeLimit : Nat} {pattern : Pattern}
    (compiles : Pattern.tryCompile text registry grammar sizeLimit = .ok pattern)
    (unended : ¬ EndsItsComments registry (grammar.pieces text.toList)) {name fragment : String}
    (isIdentifier : grammar.isIdentifier name = true)
    (registered : registry.get? name = some fragment) (oneLine : '\n' ∉ fragment.toList) :
    ∃ text pattern, Pattern.tryCompile text registry grammar sizeLimit = .ok pattern ∧
      pattern.groupCount ≠ pattern.keys.length := by
  obtain ⟨before, after, regex, whole, hasRegex, swallows⟩ :=
    tryCompile_swallowing validated compiles unended
  have pieces := Grammar.pieces_placeholder (Grammar.admits_of_isIdentifier isIdentifier) after
  rw [← List.singleton_append] at pieces
  have endsNoLine : '\n' ∉ [Pattern.enclose fragment].flatten := by
    simpa [Pattern.enclose] using oneLine
  obtain ⟨longer, source, compilesLonger⟩ :=
    swallows _ _ _ pieces (Pattern.mapM_pieceSource_hole registered) endsNoLine
  by_cases differ : pattern.groupCount ≠ pattern.keys.length
  · exact ⟨text, pattern, compiles, differ⟩
  · refine ⟨_, _, compilesLonger, fun inStep => ?_⟩
    have keys := length_keys_of_tryCompile compiles
    have keysLonger := length_keys_of_tryCompile compilesLonger
    simp only [whole, longer, holesOf_append, List.length_append, holesOf_hole, holesOf_nil,
      List.length_cons, List.length_nil] at keys keysLonger
    have sameGroups := Pattern.groupCount_of_regex hasRegex
    have longerGroups : regex.groupCount = _ := inStep
    simp only [longer, keysLonger] at longerGroups
    omega

/-- A pattern of validated fragments that end their comments reports the groups that are opened before
the last fragment, dropped ones included, and the own one of the last fragment. These are as many as
its keys exactly if no fragment but the last one opens a group beside its own, and exactly then each
key is paired with the group of its fragment. A registry that has a fragment of one line keeps the
two numbers the same in all patterns exactly if this holds of every pattern that compiles and no
fragment of one ends within a comment. -/
theorem inStep_iff [Measure] (validated : registry.Validated) (grammar : Grammar)
    (sizeLimit : Nat) :
    (∀ text pattern, Pattern.tryCompile text registry grammar sizeLimit = .ok pattern →
      pattern.keys.length = (grammar.scan text).length ∧
        (EndsItsComments registry (grammar.pieces text.toList) →
          pattern.groupCount = reportedGroups (fragmentsOf registry (grammar.pieces text.toList)) ∧
            (pattern.groupCount = pattern.keys.length ↔
              OpensInTurn (fragmentsOf registry (grammar.pieces text.toList))) ∧
            (PairsInTurn registry (grammar.pieces text.toList) pattern ↔
              OpensInTurn (fragmentsOf registry (grammar.pieces text.toList))))) ∧
    ∀ name fragment, grammar.isIdentifier name = true → registry.get? name = some fragment →
      '\n' ∉ fragment.toList →
      ((∀ text pattern, Pattern.tryCompile text registry grammar sizeLimit = .ok pattern →
          pattern.groupCount = pattern.keys.length) ↔
        ∀ text pattern, Pattern.tryCompile text registry grammar sizeLimit = .ok pattern →
          EndsItsComments registry (grammar.pieces text.toList) ∧
            OpensInTurn (fragmentsOf registry (grammar.pieces text.toList))) := by
  refine ⟨fun text pattern compiles => ⟨?_, fun ends => ⟨?_, ?_, ?_⟩⟩, ?_⟩
  · rw [length_keys_of_tryCompile compiles, ← grammar.scan_placeholders, List.length_map]
  · exact groupCount_of_tryCompile validated compiles ends
  · exact groupCount_eq_length_keys_iff validated compiles ends
  · exact pairsInTurn_iff validated compiles ends
  · intro name fragment isIdentifier registered oneLine
    constructor
    · intro inStep text pattern compiles
      have ends : EndsItsComments registry (grammar.pieces text.toList) := by
        by_contra unended
        obtain ⟨longer, other, compilesLonger, differ⟩ :=
          groupCount_ne_of_comment validated compiles unended isIdentifier registered oneLine
        exact differ (inStep longer other compilesLonger)
      have same := inStep text pattern compiles
      exact ⟨ends, (groupCount_eq_length_keys_iff validated compiles ends).mp same⟩
    · intro inTurn text pattern compiles
      obtain ⟨ends, opens⟩ := inTurn text pattern compiles
      exact (groupCount_eq_length_keys_iff validated compiles ends).mpr opens

/-- A valid fragment that opens a group and drops it again. -/
def dropping : Registry := Registry.builtin.register "f" "(b)(a)\x7b0\x7d"

theorem validated_dropping : dropping.Validated :=
  Registry.validated_builtin.register (Registry.tryRegister_of_valid Registry.builtin
    (Grammar.ofBound 64) (by decide +kernel) (by decide +kernel))

/-- The last fragment may drop a group. -/
theorem inStep_iff_droppedLast :
    dropping.Validated ∧ ∃ pattern,
      Pattern.tryCompile "[digit:][f:]" dropping (Grammar.ofBound 64) defaultSizeLimit =
        .ok pattern ∧
      pattern.groupCount = 2 ∧
      PairsInTurn dropping ((Grammar.ofBound 64).pieces "[digit:][f:]".toList) pattern := by
  refine ⟨validated_dropping, ?_⟩
  have compiled : (Pattern.tryCompile "[digit:][f:]" dropping (Grammar.ofBound 64)
      defaultSizeLimit).toOption.isSome = true := by
    decide +kernel
  cases compiles : Pattern.tryCompile "[digit:][f:]" dropping (Grammar.ofBound 64)
      defaultSizeLimit with
  | error cause => simp [compiles, Except.toOption] at compiled
  | ok pattern =>
      obtain ⟨_, inStep⟩ := (inStep_iff validated_dropping _ _).1 _ pattern compiles
      obtain ⟨groups, _, pairs⟩ := inStep (by decide +kernel)
      refine ⟨pattern, rfl, ?_, pairs.mpr (by decide +kernel)⟩
      rw [groups]
      decide +kernel

/-- Two valid fragments, of which the first ends within a comment and the second ends a line after
its group. -/
def swallowingGroup : Registry :=
  (Registry.builtin.register "f" "(a)(?x)#").register "g" "(b)\n"

/-- A comment swallows the group of the fragment after it. Apart from comments, a group that was
dropped is reported beside two others and stands in the place of the one that the second key is for:
what the digits capture is lost. -/
theorem not_inStep :
    swallowingGroup.Validated ∧
      (∃ pattern, Pattern.tryCompile "[f:][g:]" swallowingGroup (Grammar.ofBound 64)
          defaultSizeLimit = .ok pattern ∧
        pattern.keys.length = 2 ∧ pattern.groupCount = 1) ∧
    dropping.Validated ∧
      ∃ pattern params, Pattern.tryCompile "[f:][digit:]" dropping (Grammar.ofBound 64)
          defaultSizeLimit = .ok pattern ∧
        pattern.keys.length = 2 ∧ pattern.groupCount = 3 ∧
        pattern.extract "b7" = some params ∧ params["0"]? = some "b" ∧ params["1"]? = some "" := by
  have first : (Registry.builtin.register "f" "(a)(?x)#").Validated :=
    Registry.validated_builtin.register (Registry.tryRegister_of_valid Registry.builtin
      (Grammar.ofBound 64) (by decide +kernel) (by decide +kernel))
  refine ⟨first.register (Registry.tryRegister_of_valid Registry.builtin (Grammar.ofBound 64)
    (by decide +kernel) (by decide +kernel)), ?_, validated_dropping, ?_⟩
  · have seen : (Pattern.tryCompile "[f:][g:]" swallowingGroup (Grammar.ofBound 64)
        defaultSizeLimit).toOption.map (fun pattern => (pattern.keys.length, pattern.groupCount)) =
          some (2, 1) := by
      decide +kernel
    obtain ⟨pattern, compiles, counts⟩ := Pattern.exists_ok_of_map seen
    simp only [Prod.mk.injEq] at counts
    exact ⟨pattern, compiles, counts⟩
  · have seen : (Pattern.tryCompile "[f:][digit:]" dropping (Grammar.ofBound 64)
        defaultSizeLimit).toOption.map (fun pattern => (pattern.keys.length, pattern.groupCount,
          (pattern.extract "b7").map fun params => (params["0"]?, params["1"]?))) =
            some (2, 3, some (some "b", some "")) := by
      decide +kernel
    obtain ⟨pattern, compiles, counts⟩ := Pattern.exists_ok_of_map seen
    simp only [Prod.mk.injEq, Option.map_eq_some_iff] at counts
    obtain ⟨keys, groups, params, extracts, zero, one⟩ := counts
    exact ⟨pattern, params, compiles, keys, groups, extracts, zero, one⟩

end Stencil
