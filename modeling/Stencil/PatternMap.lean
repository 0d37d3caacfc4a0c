import Stencil.Pattern

/-!
Compiled patterns by text.

Owns `PatternMap`, a map that holds every pattern under the pattern's own text, and the laws of its
operations: what is found after each of them.
-/

namespace Stencil

/-- Patterns under their own texts. -/
structure PatternMap where
  patterns : Std.ExtTreeMap String Pattern
  text_eq : ∀ {text : String} {pattern : Pattern}, patterns[text]? = some pattern →
    pattern.text = text

namespace PatternMap

instance : EmptyCollection PatternMap where
  emptyCollection := { patterns := ∅, text_eq := fun held => by simp at held }

/-- The pattern with the given text. -/
def find? (map : PatternMap) (text : String) : Option Pattern := map.patterns[text]?

def contains (map : PatternMap) (text : String) : Bool := map.patterns.contains text

/-- The number of patterns. -/
def size (map : PatternMap) : Nat := map.patterns.size

/-- The patterns in ascending order of their texts. -/
def toList (map : PatternMap) : List Pattern := map.patterns.toList.map Prod.snd

/-- Adds a pattern, in place of one with the same text. -/
def insert (map : PatternMap) (pattern : Pattern) : PatternMap where
  patterns := map.patterns.insert pattern.text pattern
  text_eq := by
    intro text found held
    rw [Std.ExtTreeMap.getElem?_insert] at held
    split at held
    next same =>
      obtain rfl := Option.some.inj held
      exact Std.LawfulEqCmp.eq_of_compare same
    next => exact map.text_eq held

/-- Removes the pattern with the given text. -/
def erase (map : PatternMap) (text : String) : PatternMap where
  patterns := map.patterns.erase text
  text_eq := by
    intro other found held
    rw [Std.ExtTreeMap.getElem?_erase] at held
    split at held
    next => simp at held
    next => exact map.text_eq held

variable (map : PatternMap) (pattern : Pattern) (text other : String)

@[simp] theorem find?_empty : (∅ : PatternMap).find? text = none :=
  Std.ExtTreeMap.getElem?_empty

@[simp] theorem size_empty : (∅ : PatternMap).size = 0 := rfl

@[simp] theorem toList_empty : (∅ : PatternMap).toList = [] := rfl

theorem find?_insert :
    (map.insert pattern).find? text =
      if pattern.text = text then some pattern else map.find? text := by
  unfold insert find?
  rw [Std.ExtTreeMap.getElem?_insert]
  simp

theorem find?_erase :
    (map.erase text).find? other = if text = other then none else map.find? other := by
  unfold erase find?
  rw [Std.ExtTreeMap.getElem?_erase]
  simp

theorem contains_eq_isSome : map.contains text = (map.find? text).isSome :=
  Std.ExtTreeMap.contains_eq_isSome_getElem?

variable {map pattern text}

/-- What is found is held under its own text. -/
theorem text_of_find? (found : map.find? text = some pattern) : pattern.text = text :=
  map.text_eq found

theorem mem_toList : pattern ∈ map.toList ↔ map.find? pattern.text = some pattern := by
  unfold toList
  constructor
  · intro listed
    obtain ⟨⟨text, _⟩, held, rfl⟩ := List.mem_map.mp listed
    have found : map.find? text = some _ := Std.ExtTreeMap.mem_toList_iff_getElem?_eq_some.mp held
    rwa [text_of_find? found]
  · intro found
    exact List.mem_map.mpr
      ⟨(pattern.text, pattern), Std.ExtTreeMap.mem_toList_iff_getElem?_eq_some.mpr found, rfl⟩

/-- A map that holds no pattern. -/
theorem toList_eq_nil_iff : map.toList = [] ↔ map.size = 0 := by
  unfold toList size
  rw [List.map_eq_nil_iff, ← Std.ExtTreeMap.length_toList, List.length_eq_zero_iff]

end PatternMap

end Stencil
