import Stencil.Proofs.Pattern.Compilation
import Stencil.Proofs.Pattern.Filling
import Stencil.Proofs.Pattern.Validation
import Stencil.Proofs.Regex.Assembly

/-!
What fragments contribute to the expression of a pattern.

Owns:
- what there is to know of a fragment from reading it alone: whether it ends within a comment, the
  groups that it opens, their names, and how deep it is nested;
- `partsOf`, the parts that the pieces of a pattern become.

The main statement is `ofText_assembled`: if no fragment ends within a comment, the text that is put
together denotes the expressions of these parts between the anchors, unless two groups have one name
or a fragment is nested too deep. What follows a fragment that ends within a comment is not told
here.
-/

namespace Stencil

open Regex Regex.Reader

/-! ### Fragments read alone -/

/-- Whether a fragment that is read alone ends within a comment. -/
def endsInComment (fragment : String) : Bool :=
  match ({} : Reader).read fragment.toList with
  | .ok reader => reader.inComment
  | .error _ => false

/-- The reader after the last construct of a fragment that is read alone. Of a text that cannot be
read so there is nothing to know. -/
def endOf (fragment : String) : Reader :=
  match ({} : Reader).read fragment.toList >>= settle with
  | .ok settled => settled
  | .error _ => {}

/-- The number of groups that a fragment opens, those included that it drops again because they can
have no rounds. -/
def openedGroups (fragment : String) : Nat := (endOf fragment).groups

/-- The names of the groups that a fragment opens. -/
def groupNames (fragment : String) : List (List Char) := (endOf fragment).names

/-- How deep a fragment is nested. -/
def nesting (fragment : String) : Nat := (endOf fragment).layer.contents.depth

section Alone

variable {fragment : String} {expr : Expr}

/-- A fragment that is an expression by itself is read to its end, outside of groups and classes. -/
theorem read_of_ofText (alone : Expr.ofText fragment.toList = .ok expr) :
    ∃ reader, ({} : Reader).read fragment.toList = .ok reader ∧
      reader.settle = .ok (endOf fragment) ∧ (endOf fragment).brackets = [] ∧
      (endOf fragment).outer = [] ∧ expr = (endOf fragment).layer.contents.expr := by
  obtain ⟨reader, reads, finishes⟩ := exists_of_bind_ok alone
  obtain ⟨settled, settles, noBracket, noGroup, whole⟩ := finish_ok finishes
  have isEnd : endOf fragment = settled := by
    unfold endOf
    rw [reads]
    change (match reader.settle with | .ok settled => settled | .error _ => {}) = settled
    rw [settles]
  rw [isEnd]
  exact ⟨reader, reads, settles, noBracket, noGroup, whole⟩

private theorem moves_endOf (alone : Expr.ofText fragment.toList = .ok expr) :
    Frame.Moves ({} : Reader).frame (endOf fragment).frame := by
  obtain ⟨reader, reads, settles, _⟩ := read_of_ofText alone
  exact (read_keeps reads (Nat.zero_le _)).1.trans (settle_moves settles)

private theorem numbered_start : (({} : Reader).frame).Numbered := by
  intro layer innermost
  obtain rfl := List.mem_singleton.mp innermost
  exact .of_empty (by simp)

/-- A fragment has no groups but those that it opens. -/
theorem groups_within_openedGroups (alone : Expr.ofText fragment.toList = .ok expr) :
    ∀ index ∈ expr.groups, 1 ≤ index ∧ index ≤ openedGroups fragment := by
  have numbered := Frame.Moves.numbered (moves_endOf alone) numbered_start
  obtain ⟨_, _, _, _, _, rfl⟩ := read_of_ofText alone
  exact (numbered _ List.mem_cons_self).contents

/-- No two groups have one number. -/
theorem groups_nodup_of_ofText (alone : Expr.ofText fragment.toList = .ok expr) :
    expr.groups.Nodup := by
  have distinct := Frame.Moves.groupsInOrder_nodup (moves_endOf alone) numbered_start List.nodup_nil
  obtain ⟨_, _, _, _, outermost, rfl⟩ := read_of_ofText alone
  simp only [Frame.groupsInOrder, Reader.frame, outermost, List.reverse_singleton,
    List.flatMap_singleton, Layer.groups_close] at distinct
  exact distinct.sublist (List.sublist_append_right _ _)

variable (alone : Expr.ofText fragment.toList = .ok expr) (ends : endsInComment fragment = false)
  (parts : List Part) (groups : Nat) {names : List (List Char)}

include alone ends

/-- A fragment that ends its comments stays in its group, if none of its names is taken. -/
theorem read_enclose (distinct : (groupNames fragment ++ names).Nodup) (tail : List Char) :
    (between parts groups names).read (Pattern.enclose fragment ++ tail) =
      (between (enclosedPart (endOf fragment) groups :: parts) (openedGroups fragment + groups)
        (groupNames fragment ++ names)).read tail := by
  obtain ⟨reader, reads, settles, noBracket, noGroup, _⟩ := read_of_ofText alone
  have notInComment : reader.inComment = false := by simpa [endsInComment, reads] using ends
  simpa [Pattern.enclose, openedGroups, groupNames] using
    read_enclosed parts groups names tail reads settles noBracket noGroup notInComment distinct

theorem read_enclose_taken (distinct : names.Nodup)
    (taken : ¬ (groupNames fragment ++ names).Nodup) (tail : List Char) :
    (between parts groups names).read (Pattern.enclose fragment ++ tail) = .error .groupName := by
  obtain ⟨reader, reads, settles, noBracket, noGroup, _⟩ := read_of_ofText alone
  have notInComment : reader.inComment = false := by simpa [endsInComment, reads] using ends
  simpa [Pattern.enclose] using read_enclosed_taken parts groups names tail reads settles noBracket
    noGroup notInComment distinct taken

end Alone

/-! ### The parts of a pattern -/

/-- No filter that the pieces name has a fragment that ends within a comment. -/
def EndsItsComments (registry : Registry) (pieces : List Piece) : Prop :=
  ∀ placeholder ∈ holesOf pieces, ∀ fragment, registry.get? placeholder.filter = some fragment →
    endsInComment fragment = false

/-- The fragment of a placeholder's filter, empty if the filter is unknown. -/
def fragmentOf (registry : Registry) (placeholder : Placeholder) : String :=
  (registry.get? placeholder.filter).getD ""

/-- The fragments that the placeholders of a pattern give way to, from left to right. -/
def fragmentsOf (registry : Registry) (pieces : List Piece) : List String :=
  (holesOf pieces).map (fragmentOf registry)

@[simp] theorem fragmentsOf_nil (registry : Registry) : fragmentsOf registry [] = [] := rfl

@[simp] theorem fragmentsOf_char (registry : Registry) (c : Char) (pieces : List Piece) :
    fragmentsOf registry (.char c :: pieces) = fragmentsOf registry pieces :=
  rfl

@[simp] theorem fragmentsOf_hole (registry : Registry) (placeholder : Placeholder)
    (pieces : List Piece) :
    fragmentsOf registry (.hole placeholder :: pieces) =
      fragmentOf registry placeholder :: fragmentsOf registry pieces :=
  rfl

theorem endsItsComments_iff {registry : Registry} {pieces : List Piece} :
    EndsItsComments registry pieces ↔
      ∀ fragment ∈ fragmentsOf registry pieces, endsInComment fragment = false := by
  rw [fragmentsOf, List.forall_mem_map]
  refine forall₂_congr fun placeholder _ => ?_
  rw [fragmentOf]
  cases registry.get? placeholder.filter with
  | none => exact iff_of_true (by simp) rfl
  | some fragment => simp

instance (registry : Registry) (pieces : List Piece) :
    Decidable (EndsItsComments registry pieces) :=
  decidable_of_iff _ endsItsComments_iff.symm

/-- The parts that pieces become, before which there are the given number of groups. -/
def partsOf (registry : Registry) (groups : Nat) : List Piece → List Part
  | [] => []
  | .char c :: rest => { expr := .literal [c] } :: partsOf registry groups rest
  | .hole placeholder :: rest =>
    let fragment := fragmentOf registry placeholder
    enclosedPart (endOf fragment) groups ::
      partsOf registry (openedGroups fragment + groups) rest

/-- Parts are nested as deep as the fragments, and one deeper for the groups that enclose them. -/
theorem depth_partsOf (registry : Registry) (groups : Nat) (pieces : List Piece) :
    (∀ part ∈ partsOf registry groups pieces, part.depth < greatestDepth) ↔
      ∀ fragment ∈ fragmentsOf registry pieces, nesting fragment + 1 < greatestDepth := by
  induction pieces generalizing groups with
  | nil => simp [partsOf]
  | cons piece rest inductionHypothesis =>
      cases piece with
      | char c =>
          rw [partsOf, List.forall_mem_cons, inductionHypothesis, fragmentsOf_char]
          exact and_iff_right (show 0 < greatestDepth by decide)
      | hole placeholder =>
          rw [partsOf, List.forall_mem_cons, inductionHypothesis, fragmentsOf_hole,
            List.forall_mem_cons]
          rfl

variable [Measure] {registry : Registry} {pieces : List Piece} {sources : List (List Char)}

/-- Between other parts, the text that is put together is read as the parts of its pieces, if no two
groups have one name. -/
theorem read_sources (validated : registry.Validated) (ends : EndsItsComments registry pieces)
    (found : pieces.mapM (Pattern.pieceSource registry) = .ok sources) (parts : List Part)
    (groups : Nat) {names : List (List Char)}
    (distinct : ((fragmentsOf registry pieces).flatMap groupNames ++ names).Nodup) :
    ∃ groupsAfter namesAfter, ∀ tail,
      (between parts groups names).read (sources.flatten ++ tail) =
        (between ((partsOf registry groups pieces).reverse ++ parts) groupsAfter namesAfter).read
          tail := by
  induction pieces generalizing sources parts groups names with
  | nil =>
      obtain rfl := Except.ok.inj found
      exact ⟨groups, names, fun _ => rfl⟩
  | cons piece rest inductionHypothesis =>
      obtain ⟨source, others, foundSource, foundOthers, rfl⟩ :=
        Pattern.mapM_pieceSource_cons_ok found
      cases piece with
      | char c =>
          obtain rfl := Except.ok.inj foundSource
          obtain ⟨groupsAfter, namesAfter, reads⟩ := inductionHypothesis ends foundOthers
            ({ expr := .literal [c] } :: parts) groups distinct
          refine ⟨groupsAfter, namesAfter, fun tail => ?_⟩
          rw [List.flatten_cons, List.append_assoc, read_escapeChar, reads, partsOf,
            List.reverse_cons, List.append_assoc, List.singleton_append]
      | hole placeholder =>
          obtain ⟨fragment, registered, rfl⟩ := Pattern.pieceSource_hole_ok foundSource
          rw [EndsItsComments, holesOf_hole, List.forall_mem_cons] at ends
          obtain ⟨expr, alone, _⟩ := validated.ofText registered
          have isFragment : fragmentOf registry placeholder = fragment := by
            rw [fragmentOf, registered]
            rfl
          -- The rest is read where the names of this fragment are taken as well.
          rw [fragmentsOf_hole, isFragment, List.flatMap_cons, List.append_assoc,
            List.perm_append_comm_assoc _ _ _ |>.nodup_iff] at distinct
          have fresh := (List.nodup_append'.mp distinct).2.1
          obtain ⟨groupsAfter, namesAfter, reads⟩ := inductionHypothesis ends.2 foundOthers
            (enclosedPart (endOf fragment) groups :: parts) (openedGroups fragment + groups) distinct
          refine ⟨groupsAfter, namesAfter, fun tail => ?_⟩
          rw [List.flatten_cons, List.append_assoc,
            read_enclose alone (ends.1 fragment registered) parts groups fresh, reads, partsOf,
            isFragment, List.reverse_cons, List.append_assoc, List.singleton_append]

/-- The text that is put together cannot be read if two groups have one name. -/
theorem read_sources_taken (validated : registry.Validated) (ends : EndsItsComments registry pieces)
    (found : pieces.mapM (Pattern.pieceSource registry) = .ok sources) (parts : List Part)
    (groups : Nat) {names : List (List Char)} (distinct : names.Nodup)
    (taken : ¬ ((fragmentsOf registry pieces).flatMap groupNames ++ names).Nodup)
    (tail : List Char) :
    (between parts groups names).read (sources.flatten ++ tail) = .error .groupName := by
  induction pieces generalizing sources parts groups names with
  | nil => exact absurd distinct taken
  | cons piece rest inductionHypothesis =>
      obtain ⟨source, others, foundSource, foundOthers, rfl⟩ :=
        Pattern.mapM_pieceSource_cons_ok found
      rw [List.flatten_cons, List.append_assoc]
      cases piece with
      | char c =>
          obtain rfl := Except.ok.inj foundSource
          rw [read_escapeChar]
          exact inductionHypothesis ends foundOthers _ groups distinct taken
      | hole placeholder =>
          obtain ⟨fragment, registered, rfl⟩ := Pattern.pieceSource_hole_ok foundSource
          rw [EndsItsComments, holesOf_hole, List.forall_mem_cons] at ends
          obtain ⟨expr, alone, _⟩ := validated.ofText registered
          have isFragment : fragmentOf registry placeholder = fragment := by
            rw [fragmentOf, registered]
            rfl
          rw [fragmentsOf_hole, isFragment, List.flatMap_cons, List.append_assoc,
            List.perm_append_comm_assoc _ _ _ |>.nodup_iff] at taken
          -- The name that comes twice is one of this fragment or comes with the rest.
          by_cases fresh : (groupNames fragment ++ names).Nodup
          · rw [read_enclose alone (ends.1 fragment registered) parts groups fresh]
            exact inductionHypothesis ends.2 foundOthers _ _ fresh taken
          · exact read_enclose_taken alone (ends.1 fragment registered) parts groups distinct fresh _

/-- What the text denotes that is put together from fragments that end their comments. -/
theorem ofText_assembled (validated : registry.Validated) (ends : EndsItsComments registry pieces)
    (found : pieces.mapM (Pattern.pieceSource registry) = .ok sources) :
    Expr.ofText (Pattern.assembled sources) =
      if ((fragmentsOf registry pieces).flatMap groupNames).Nodup then
        if ∀ fragment ∈ fragmentsOf registry pieces, nesting fragment + 1 < greatestDepth then
          .ok (anchored ((partsOf registry 0 pieces).map Part.expr))
        else .error .nesting
      else .error .groupName := by
  split
  next distinct =>
    rw [← List.append_nil (List.flatMap _ _)] at distinct
    obtain ⟨groups, names, reads⟩ :=
      read_sources validated ends found [{ expr := .look .textStart }] 0 distinct
    refine (ofText_anchored reads).trans ?_
    simp only [depth_partsOf]
  next taken =>
    rw [← List.append_nil (List.flatMap _ _)] at taken
    have fails := read_sources_taken validated ends found [{ expr := .look .textStart }] 0 .nil taken
    unfold Expr.ofText Pattern.assembled
    change ((between [] 0 []).read _ >>= _) = _
    rw [read_caret, fails]
    rfl

end Stencil
