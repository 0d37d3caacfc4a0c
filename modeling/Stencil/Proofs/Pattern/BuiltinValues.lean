import Stencil.Proofs.Regex.Assembly
import Stencil.Proofs.Regex.Span

/-!
The values of the built-in filters.

Owns `IsValue`, which says by name and character class which texts a built-in filter takes, and
`valueExpr`, the expression of these texts. The main statements are `spans_valueExpr`, by which the
expression passes over exactly the values, and `read_builtin`, by which the fragment of a built-in
filter, enclosed in an assembled expression, is read as the one capture of such an expression.
-/

namespace Stencil

open Regex Regex.Reader

/-- The characters of which the values of a built-in filter consist. -/
def builtinChars (name : String) : CharSet :=
  match name with
  | "digit" => ⟨[(0x30, 0x39)]⟩
  | "alnum" => ⟨[(0x30, 0x39), (0x41, 0x5A), (0x61, 0x7A)]⟩
  | "alpha" => ⟨[(0x41, 0x5A), (0x61, 0x7A)]⟩
  | "xdigit" => ⟨[(0x30, 0x39), (0x41, 0x46), (0x61, 0x66)]⟩
  | "upper" => ⟨[(0x41, 0x5A)]⟩
  | "lower" => ⟨[(0x61, 0x7A)]⟩
  | "word" => ⟨[(0x30, 0x39), (0x41, 0x5A), (0x5F, 0x5F), (0x61, 0x7A)]⟩
  | "space" => ⟨[(0x9, 0xD), (0x20, 0x20)]⟩
  | "blank" => ⟨[(0x9, 0x9), (0x20, 0x20)]⟩
  | "graph" => ⟨[(0x21, 0x7E)]⟩
  | "ascii" => ⟨[(0, 0x7F)]⟩
  | "cntrl" => ⟨[(0, 0x1F), (0x7F, 0x7F)]⟩
  | "print" => ⟨[(0x20, 0x7E)]⟩
  | "punct" => ⟨[(0x21, 0x2F), (0x3A, 0x40), (0x5B, 0x60), (0x7B, 0x7E)]⟩
  | "all" => CharSet.all
  | _ => CharSet.empty

/-- Whether a built-in filter takes values of any length and prefers short ones; the others take one
character or more and prefer long values. -/
def prefersShort (name : String) : Bool := name == "print" || name == "all"

/-- A text is a value of a built-in filter: it consists of characters of the filter's class, and it
is not empty unless the filter takes values of any length. -/
structure IsValue (name : String) (value : List Char) : Prop where
  chars : ∀ c ∈ value, (builtinChars name).contains c = true
  nonempty : prefersShort name = false → value ≠ []

/-- The values of a built-in filter as an expression. -/
def valueExpr (name : String) : Expr :=
  .rounds (if prefersShort name then 0 else 1) none (!prefersShort name)
    (.oneOf (builtinChars name))

theorem spans_valueExpr (name : String) (first last : Place) :
    (valueExpr name).Spans first last ↔
      ∃ value, IsValue name value ∧ first.pass? value = some last := by
  simp only [valueExpr, Expr.Spans, roundsAllowed]
  constructor
  · rintro ⟨count, allowed, iterated⟩
    obtain ⟨value, length, chars, passes⟩ := (Expr.iterated_oneOf _ _ _ _).mp iterated
    refine ⟨value, ⟨chars, fun long => ?_⟩, passes⟩
    rw [long, ← length] at allowed
    exact List.ne_nil_of_length_pos allowed
  · rintro ⟨value, isValue, passes⟩
    refine ⟨value.length, ?_, (Expr.iterated_oneOf _ _ _ _).mpr ⟨value, rfl, isValue.chars, passes⟩⟩
    split
    next => exact Nat.zero_le _
    next long => exact List.length_pos_of_ne_nil (isValue.nonempty (by simpa using long))

/-- The fragment of a built-in filter is read as a capture of its values. -/
theorem read_builtin {name fragment : String} (listed : (name, fragment) ∈ builtinFilters)
    (parts : List Part) (groups : Nat) (names : List (List Char)) :
    ∃ depth ≤ 5, ∀ tail, (between parts groups names).read (Pattern.enclose fragment ++ tail) =
      (between ({ expr := .group (groups + 1) (valueExpr name), depth } :: parts) (groups + 1)
        names).read tail := by
  simp only [builtinFilters, List.mem_cons, List.not_mem_nil, or_false, Prod.mk.injEq] at listed
  rcases listed with ⟨rfl, rfl⟩ | ⟨rfl, rfl⟩ | ⟨rfl, rfl⟩ | ⟨rfl, rfl⟩ | ⟨rfl, rfl⟩ | ⟨rfl, rfl⟩ |
    ⟨rfl, rfl⟩ | ⟨rfl, rfl⟩ | ⟨rfl, rfl⟩ | ⟨rfl, rfl⟩ | ⟨rfl, rfl⟩ | ⟨rfl, rfl⟩ | ⟨rfl, rfl⟩ |
    ⟨rfl, rfl⟩ | ⟨rfl, rfl⟩
  -- A class of several ranges is nested one deeper than a class of one.
  all_goals first
    | exact ⟨4, by decide, fun _ => rfl⟩
    | exact ⟨5, by decide, fun _ => rfl⟩

end Stencil
