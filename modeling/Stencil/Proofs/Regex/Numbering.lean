import Stencil.Regex.Reader

/-!
Expressions whose groups are numbered further on.

Owns `Expr.shift`, which adds a number to the number of every group, with its counterparts on the
parts and layers of a reader. The builders of expressions agree with it, and it does not change how a
part is nested.
-/

namespace Stencil.Regex

namespace Expr

/-- The expression with a number added to the numbers of its groups. -/
def shift (offset : Nat) : Expr → Expr
  | .empty => .empty
  | .literal text => .literal text
  | .oneOf set => .oneOf set
  | .look condition => .look condition
  | .group index body => .group (index + offset) (shift offset body)
  | .sequence first second => .sequence (shift offset first) (shift offset second)
  | .choice first second => .choice (shift offset first) (shift offset second)
  | .rounds least most greedy body => .rounds least most greedy (shift offset body)

variable (offset : Nat)

@[simp] theorem shift_isEmptyOnly (expr : Expr) :
    (expr.shift offset).isEmptyOnly = expr.isEmptyOnly := by
  induction expr <;> simp_all [shift, isEmptyOnly]

theorem shift_andThen (first second : Expr) :
    (first.andThen second).shift offset = (first.shift offset).andThen (second.shift offset) := by
  cases first with
  | empty => cases second <;> rfl
  | literal left =>
      cases second with
      | sequence middle rest => cases middle <;> rfl
      | _ => rfl
  | _ => cases second <;> rfl

theorem shift_inSequence (parts : List Expr) :
    (inSequence parts).shift offset = inSequence (parts.map (shift offset)) := by
  induction parts with
  | nil => rfl
  | cons part rest inductionHypothesis =>
      change (part.andThen (inSequence rest)).shift offset = _
      rw [shift_andThen, inductionHypothesis]
      rfl

theorem shift_alternatives (parts : List Expr) :
    (alternatives parts).shift offset = alternatives (parts.map (shift offset)) := by
  induction parts with
  | nil => rfl
  | cons part rest inductionHypothesis =>
      cases rest with
      | nil => rfl
      | cons next others =>
          simp only [alternatives, shift, inductionHypothesis, List.map_cons]

theorem shift_repeated (least : Nat) (most : Option Nat) (greedy : Bool) (body : Expr) :
    (repeated least most greedy body).shift offset =
      repeated least most greedy (body.shift offset) := by
  simp only [repeated, shift_isEmptyOnly, apply_ite (shift offset), shift]

end Expr

/-! ### Parts and layers -/

/-- The greatest of some depths. -/
theorem foldl_max_lt_iff (depths : List Nat) (initial bound : Nat) :
    depths.foldl max initial < bound ↔ initial < bound ∧ ∀ depth ∈ depths, depth < bound := by
  induction depths generalizing initial with
  | nil => simp
  | cons depth rest inductionHypothesis =>
      rw [List.foldl_cons, inductionHypothesis, Nat.max_lt, List.forall_mem_cons, and_assoc]

/-- The part with a number added to the numbers of its groups. -/
def Part.shift (offset : Nat) (part : Part) : Part := { part with expr := part.expr.shift offset }

/-- The layer with a number added to the numbers of its groups. -/
def Layer.shift (offset : Nat) (layer : Layer) : Layer where
  capture := layer.capture.map (· + offset)
  outerFlags := layer.outerFlags
  finished := layer.finished.map (Part.shift offset)
  parts := layer.parts.map (Part.shift offset)

variable (offset : Nat)

@[simp] theorem Part.shift_expr (part : Part) : (part.shift offset).expr = part.expr.shift offset :=
  rfl

@[simp] theorem Part.shift_depth (part : Part) : (part.shift offset).depth = part.depth := rfl

@[simp] theorem Part.shift_isSetting (part : Part) :
    (part.shift offset).isSetting = part.isSetting :=
  rfl

private theorem map_depth_shift (parts : List Part) :
    (parts.map (Part.shift offset)).map Part.depth = parts.map Part.depth := by
  simp

theorem Part.shift_inSequence (parts : List Part) :
    (Part.inSequence parts).shift offset = Part.inSequence (parts.map (Part.shift offset)) := by
  unfold Part.inSequence
  rw [map_depth_shift, List.length_map]
  simp only [Part.shift, Expr.shift_inSequence, List.map_map]
  rfl

theorem Part.shift_alternatives (parts : List Part) :
    (Part.alternatives parts).shift offset = Part.alternatives (parts.map (Part.shift offset)) := by
  unfold Part.alternatives
  rw [map_depth_shift, List.length_map]
  simp only [Part.shift, Expr.shift_alternatives, List.map_map]
  rfl

theorem Layer.shift_contents (layer : Layer) :
    (layer.shift offset).contents = layer.contents.shift offset := by
  unfold Layer.contents
  rw [Part.shift_alternatives, List.map_reverse, List.map_cons, Part.shift_inSequence,
    List.map_reverse]
  rfl

theorem Layer.shift_close (layer : Layer) :
    (layer.shift offset).close = layer.close.shift offset := by
  unfold Layer.close
  rw [Layer.shift_contents]
  simp only [Layer.shift]
  cases layer.capture <;> rfl

end Stencil.Regex
