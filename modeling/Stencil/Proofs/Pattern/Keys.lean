import Mathlib.Data.List.Nodup
import Stencil.Proofs.Numeral
import Stencil.Proofs.Pattern.Filling

/-!
The keys of placeholders.

Owns `KeysDiffer`, which says of placeholders apart from their keys that no two have the same one,
and `raisedKeys`, the keys of placeholders after others. A property that consists of digits and the
number of a placeholder without a property are the same key if they are the same text; the main
statement is `nodup_keysFrom_iff`, that keys are shared in no other way than this and by two equal
properties.
-/

namespace Stencil

/-- The placeholders of a pattern without their places, from left to right. -/
def Grammar.placeholders (grammar : Grammar) (text : String) : List Placeholder :=
  (grammar.scan text).map Located.placeholder

/-- How many placeholders have no property. -/
def unnamedCount (placeholders : List Placeholder) : Nat :=
  placeholders.countP fun placeholder => placeholder.prop.isNone

/-- The properties of placeholders, from left to right. -/
def propsOf (placeholders : List Placeholder) : List String :=
  placeholders.filterMap Placeholder.prop

/-- No two properties are equal, and none is the numeral of a placeholder without a property. -/
structure KeysDiffer (placeholders : List Placeholder) : Prop where
  props : (propsOf placeholders).Nodup
  numerals : ∀ prop ∈ propsOf placeholders, ∀ number < unnamedCount placeholders,
    ¬ IsNumeral prop number

/-- The key of a placeholder before which `unnamed` placeholders had no property. -/
def Placeholder.key (unnamed : Nat) (placeholder : Placeholder) : String :=
  placeholder.prop.getD (toString unnamed)

/-- The key of a placeholder after `count` more placeholders without a property: a number grows, and
a property stays. -/
def Placeholder.raiseKey (count : Nat) (placeholder : Placeholder) (key : String) : String :=
  if placeholder.prop.isNone then toString (decimalValue key + count) else key

/-- The keys of placeholders after `count` more placeholders without a property. -/
def raisedKeys (count : Nat) (placeholders : List Placeholder) (keys : List String) : List String :=
  List.zipWith (Placeholder.raiseKey count) placeholders keys

/-! ### One placeholder after another -/

@[simp] theorem unnamedCount_append (left right : List Placeholder) :
    unnamedCount (left ++ right) = unnamedCount left + unnamedCount right :=
  List.countP_append

theorem unnamedCount_cons (placeholder : Placeholder) (rest : List Placeholder) :
    unnamedCount (placeholder :: rest) = unnamedCount [placeholder] + unnamedCount rest :=
  unnamedCount_append [placeholder] rest

theorem keysFrom_cons (unnamed : Nat) (placeholder : Placeholder) (rest : List Placeholder) :
    keysFrom unnamed (placeholder :: rest) =
      placeholder.key unnamed :: keysFrom (unnamed + unnamedCount [placeholder]) rest := by
  obtain ⟨filter, prop⟩ := placeholder
  cases prop <;> rfl

theorem keysFrom_append (unnamed : Nat) (left right : List Placeholder) :
    keysFrom unnamed (left ++ right) =
      keysFrom unnamed left ++ keysFrom (unnamed + unnamedCount left) right := by
  induction left generalizing unnamed with
  | nil => rfl
  | cons placeholder rest inductionHypothesis =>
      rw [List.cons_append, keysFrom_cons, keysFrom_cons, inductionHypothesis, List.cons_append,
        unnamedCount_cons placeholder rest, Nat.add_assoc]

/-- The key at a place is told by the placeholder there and by the number of those before it that
have no property. -/
theorem getElem?_keysFrom (unnamed : Nat) (placeholders : List Placeholder) (index : Nat) :
    (keysFrom unnamed placeholders)[index]? = placeholders[index]?.map
      (Placeholder.key (unnamed + unnamedCount (placeholders.take index))) := by
  induction placeholders generalizing unnamed index with
  | nil => simp [keysFrom]
  | cons placeholder rest inductionHypothesis =>
      rw [keysFrom_cons]
      cases index with
      | zero => rfl
      | succ index =>
          rw [List.getElem?_cons_succ, List.getElem?_cons_succ, inductionHypothesis,
            List.take_succ_cons, unnamedCount_cons placeholder (rest.take index), Nat.add_assoc]

theorem raisedKeys_keysFrom (count unnamed : Nat) (placeholders : List Placeholder) :
    raisedKeys count placeholders (keysFrom unnamed placeholders) =
      keysFrom (unnamed + count) placeholders := by
  induction placeholders generalizing unnamed with
  | nil => rfl
  | cons placeholder rest inductionHypothesis =>
      have head : placeholder.raiseKey count (placeholder.key unnamed) =
          placeholder.key (unnamed + count) := by
        unfold Placeholder.raiseKey Placeholder.key
        cases placeholder.prop with
        | none =>
            exact congrArg (fun value => toString (value + count)) (isNumeral_toString unnamed).value
        | some prop => rfl
      rw [keysFrom_cons, keysFrom_cons, raisedKeys, List.zipWith_cons_cons, head]
      refine congrArg (_ :: ·) ?_
      rw [Nat.add_right_comm]
      exact inductionHypothesis _

namespace Grammar

variable (grammar : Grammar) (text : String)

theorem keys_eq_keysFrom : grammar.keys text = keysFrom 0 (grammar.placeholders text) := by
  rw [placeholders, scan_placeholders]
  rfl

theorem length_keys : (grammar.keys text).length = (grammar.placeholders text).length := by
  rw [keys, length_keysOf, placeholders, scan_placeholders]

end Grammar

/-! ### Shared keys -/

/-- The keys are the properties and the numbers of the placeholders that have none. -/
theorem keysFrom_perm (unnamed : Nat) (placeholders : List Placeholder) :
    (keysFrom unnamed placeholders).Perm (propsOf placeholders ++
      (List.range' unnamed (unnamedCount placeholders)).map toString) := by
  induction placeholders generalizing unnamed with
  | nil => exact List.Perm.nil
  | cons placeholder rest inductionHypothesis =>
      obtain ⟨filter, prop⟩ := placeholder
      cases prop with
      | some prop => exact (inductionHypothesis unnamed).cons prop
      | none =>
          have counted : unnamedCount (⟨filter, none⟩ :: rest) = unnamedCount rest + 1 := by
            simp [unnamedCount]
          rw [counted, List.range'_succ, List.map_cons]
          exact ((inductionHypothesis (unnamed + 1)).cons _).trans List.perm_middle.symm

theorem nodup_keysFrom_iff (placeholders : List Placeholder) :
    (keysFrom 0 placeholders).Nodup ↔ KeysDiffer placeholders := by
  have numbers : ((List.range' 0 (unnamedCount placeholders)).map toString).Nodup :=
    List.Nodup.map toString_injective List.nodup_range'
  rw [(keysFrom_perm 0 placeholders).nodup_iff, List.nodup_append]
  constructor
  · rintro ⟨props, _, apart⟩
    refine ⟨props, fun prop member number below isNumeral => ?_⟩
    refine apart prop member _ (List.mem_map_of_mem ?_) (isNumeral_iff.mp isNumeral)
    rw [List.mem_range'_1]
    omega
  · rintro ⟨props, numerals⟩
    refine ⟨props, numbers, ?_⟩
    rintro prop member _ numeral rfl
    obtain ⟨number, inRange, shown⟩ := List.mem_map.mp numeral
    rw [List.mem_range'_1] at inRange
    exact numerals prop member number (by omega) (isNumeral_iff.mpr shown.symm)

end Stencil
