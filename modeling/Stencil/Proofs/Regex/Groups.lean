import Stencil.Proofs.Regex.Matching
import Stencil.Proofs.Regex.Numbering

/-!
The groups of an expression.

Owns `Expr.groups`, the indices of the groups in an expression in the order of their opening, of
which the greatest index is a function (`lastGroup_le_iff`). The builders of expressions keep the
groups of their parts in order, but for a repetition without rounds, which drops them all.
-/

namespace Stencil.Regex

namespace Expr

/-- The indices of the groups in an expression, in the order of their opening. -/
def groups : Expr → List Nat
  | .empty => []
  | .literal _ => []
  | .oneOf _ => []
  | .look _ => []
  | .group index body => index :: body.groups
  | .sequence first second => first.groups ++ second.groups
  | .choice first second => first.groups ++ second.groups
  | .rounds _ _ _ body => body.groups

theorem lastGroup_le_iff (expr : Expr) (bound : Nat) :
    expr.lastGroup ≤ bound ↔ ∀ index ∈ expr.groups, index ≤ bound := by
  induction expr with
  | group index body inductionHypothesis => simp [groups, lastGroup, inductionHypothesis]
  | sequence first second firstHypothesis secondHypothesis =>
      simp [groups, lastGroup, firstHypothesis, secondHypothesis, or_imp, forall_and]
  | choice first second firstHypothesis secondHypothesis =>
      simp [groups, lastGroup, firstHypothesis, secondHypothesis, or_imp, forall_and]
  | rounds least most greedy body inductionHypothesis => exact inductionHypothesis
  | _ => simp [groups, lastGroup]

/-- The greatest index is reached by a group, unless there is none. -/
theorem lastGroup_eq {expr : Expr} {last : Nat} (within : ∀ index ∈ expr.groups, index ≤ last)
    (reached : last = 0 ∨ last ∈ expr.groups) : expr.lastGroup = last := by
  apply Nat.le_antisymm ((expr.lastGroup_le_iff last).mpr within)
  rcases reached with rfl | present
  · exact Nat.zero_le _
  · exact (expr.lastGroup_le_iff _).mp (Nat.le_refl _) last present

/-- The greatest index of groups that are numbered in turn is their number. -/
theorem lastGroup_of_groups {expr : Expr} {count : Nat}
    (inTurn : expr.groups = List.range' 1 count) : expr.lastGroup = count := by
  apply lastGroup_eq <;> rw [inTurn]
  · intro index member
    have inRange := List.mem_range'_1.mp member
    omega
  · rw [List.mem_range'_1]
    omega

/-- If the greatest index is one, the expression has the group with this index and no other. -/
theorem groups_of_lastGroup_one {expr : Expr} (distinct : expr.groups.Nodup)
    (positive : ∀ index ∈ expr.groups, 1 ≤ index) (one : expr.lastGroup = 1) :
    expr.groups = [1] := by
  have within := (expr.lastGroup_le_iff 1).mp (Nat.le_of_eq one)
  have same : expr.groups = List.replicate expr.groups.length 1 :=
    List.eq_replicate_of_mem fun index member =>
      Nat.le_antisymm (within index member) (positive index member)
  have single : expr.groups.length ≤ 1 := by
    rw [same] at distinct
    exact List.nodup_replicate.mp distinct
  have present : expr.groups.length ≠ 0 := by
    intro none
    have zero := (expr.lastGroup_le_iff 0).mpr (by simp [List.length_eq_zero_iff.mp none])
    omega
  rw [same, Nat.le_antisymm single (Nat.pos_of_ne_zero present), List.replicate_one]

theorem groups_andThen (first second : Expr) :
    (first.andThen second).groups = first.groups ++ second.groups := by
  unfold andThen
  split <;> simp [groups]

theorem groups_inSequence (parts : List Expr) : (inSequence parts).groups = parts.flatMap groups := by
  induction parts with
  | nil => rfl
  | cons part rest inductionHypothesis =>
      change (part.andThen (inSequence rest)).groups = _
      rw [groups_andThen, inductionHypothesis, List.flatMap_cons]

theorem groups_alternatives (parts : List Expr) :
    (alternatives parts).groups = parts.flatMap groups := by
  induction parts with
  | nil => rfl
  | cons part rest inductionHypothesis =>
      cases rest with
      | nil => simp [alternatives]
      | cons next others =>
          rw [List.flatMap_cons, ← inductionHypothesis]
          rfl

/-- A repetition has the groups of its body, unless it can have no rounds. -/
theorem groups_repeated_sublist (least : Nat) (most : Option Nat) (greedy : Bool) (body : Expr) :
    (repeated least most greedy body).groups.Sublist body.groups := by
  unfold repeated
  extract_lets fewest greatest
  split
  · exact List.nil_sublist _
  · split <;> exact List.Sublist.refl _

theorem groups_shift (offset : Nat) (expr : Expr) :
    (expr.shift offset).groups = expr.groups.map (· + offset) := by
  induction expr <;> simp_all [groups, shift]

end Expr

theorem groups_anchored (parts : List Expr) : (anchored parts).groups = parts.flatMap Expr.groups := by
  simp [anchored, Expr.groups_inSequence, Expr.groups]

end Stencil.Regex
