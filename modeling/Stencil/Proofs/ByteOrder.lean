import Mathlib.Tactic.SplitIfs
import Mathlib.Data.String.Basic
import Stencil.Text

/-!
The order of texts is the order of their bytes.

Owns `firstByte` and `laterBytes`, the parts of the encoding of a character. A character that comes
before another has an encoding that comes before the other's, whatever follows the two
(`utf8EncodeChar_lt`): the first byte of an encoding tells how many bytes follow, and longer
encodings have greater first bytes. The main
statement is `bytes_lt_iff`: texts compared byte by byte and character by character come in the same
order.
-/

namespace Stencil

theorem bytes_eq_flatMap (text : String) :
    bytes text = text.toList.flatMap String.utf8EncodeChar := by
  rw [bytes, ← String.utf8Encode_toList, List.utf8Encode, List.toList_data_toByteArray]

theorem bytes_inj {left right : String} : bytes left = bytes right ↔ left = right := by
  rw [bytes, bytes, Array.toList_inj, ← String.toByteArray_inj]
  exact ⟨ByteArray.ext, congrArg ByteArray.data⟩

/-! ### The encoding of a code point -/

/-- The first byte of an encoding: the highest bits of the code point, with a mark for the number of
bytes that follow. -/
def firstByte (code : Nat) : Nat :=
  if code ≤ 0x7f then code
  else if code ≤ 0x7ff then code / 64 ^ 1 + 0xc0
  else if code ≤ 0xffff then code / 64 ^ 2 + 0xe0
  else code / 64 ^ 3 + 0xf0

/-- The number of bytes after the first one. -/
def laterCount (code : Nat) : Nat :=
  if code ≤ 0x7f then 0 else if code ≤ 0x7ff then 1 else if code ≤ 0xffff then 2 else 3

/-- The last bytes of an encoding: six bits of the code point in each. -/
def laterBytes (code : Nat) : Nat → List UInt8
  | 0 => []
  | count + 1 => UInt8.ofNat (code / 64 ^ count % 64 + 0x80) :: laterBytes code count

theorem code_lt (c : Char) : c.val.toNat < 0x110000 := by
  rcases c.valid with low | high <;> omega

theorem utf8EncodeChar_eq (c : Char) :
    String.utf8EncodeChar c =
      UInt8.ofNat (firstByte c.val.toNat) :: laterBytes c.val.toNat (laterCount c.val.toNat) := by
  have bound := code_lt c
  unfold String.utf8EncodeChar firstByte laterCount
  generalize c.val.toNat = code at *
  simp only
  split_ifs
  all_goals simp only [laterBytes, Nat.reducePow, Nat.div_one]
  · rw [Nat.mod_eq_of_lt (a := code / 64) (by omega)]
  · rw [Nat.mod_eq_of_lt (a := code / 4096) (b := 16) (by omega)]
  · rw [Nat.mod_eq_of_lt (a := code / 262144) (by omega)]

/-! ### Order -/

theorem cons_byte_lt_iff {left right : Nat} (leftByte : left < 256) (rightByte : right < 256)
    (leftRest rightRest : List UInt8) :
    UInt8.ofNat left :: leftRest < UInt8.ofNat right :: rightRest ↔
      left < right ∨ left = right ∧ leftRest < rightRest := by
  rw [List.cons_lt_cons_iff, UInt8.lt_iff_toNat_lt, ← UInt8.toNat_inj, UInt8.toNat_ofNat',
    UInt8.toNat_ofNat', Nat.mod_eq_of_lt leftByte, Nat.mod_eq_of_lt rightByte]

theorem firstByte_lt_byte {code : Nat} (bound : code < 0x110000) : firstByte code < 256 := by
  unfold firstByte
  split_ifs <;> omega

/-- The smaller of two numbers is smaller in its digit at a place, or equal there and smaller
below. -/
theorem digit_lt {left right unit : Nat} (less : left % (unit * 64) < right % (unit * 64)) :
    left / unit % 64 < right / unit % 64 ∨
      left / unit % 64 = right / unit % 64 ∧ left % unit < right % unit := by
  rw [← Nat.mod_mul_right_div_self, ← Nat.mod_mul_right_div_self,
    ← Nat.mod_mul_right_mod left unit 64, ← Nat.mod_mul_right_mod right unit 64]
  generalize left % (unit * 64) = small at *
  generalize right % (unit * 64) = great at *
  cases Nat.lt_or_eq_of_le (Nat.div_le_div_right (c := unit) (Nat.le_of_lt less)) with
  | inl digit => exact .inl digit
  | inr same =>
      have smallParts := Nat.div_add_mod small unit
      have greatParts := Nat.div_add_mod great unit
      rw [same] at smallParts
      exact .inr ⟨same, by omega⟩

theorem laterBytes_lt {left right : Nat} {count : Nat}
    (less : left % 64 ^ count < right % 64 ^ count) (leftRest rightRest : List UInt8) :
    laterBytes left count ++ leftRest < laterBytes right count ++ rightRest := by
  induction count with
  | zero => simp [Nat.mod_one] at less
  | succ count inductionHypothesis =>
      rw [Nat.pow_succ] at less
      rw [laterBytes, laterBytes, List.cons_append, List.cons_append,
        cons_byte_lt_iff (by omega) (by omega)]
      cases digit_lt less with
      | inl digit => exact .inl (Nat.add_lt_add_right digit _)
      | inr same => exact .inr ⟨congrArg (· + 0x80) same.1, inductionHypothesis same.2⟩

theorem firstByte_le {left right : Nat} (less : left < right) :
    firstByte left ≤ firstByte right := by
  unfold firstByte
  split_ifs <;> omega

/-- Encodings that begin alike are equally long, and what follows tells them apart. -/
theorem later_of_firstByte_eq {left right : Nat} (less : left < right) (bound : right < 0x110000)
    (same : firstByte left = firstByte right) :
    laterCount left = laterCount right ∧
      left % 64 ^ laterCount left < right % 64 ^ laterCount left := by
  unfold firstByte at same
  unfold laterCount
  split_ifs at same ⊢ <;> omega

/-- A character that comes before another has an encoding that comes before the other's, whatever
follows them. -/
theorem utf8EncodeChar_lt {c d : Char} (less : c < d) (leftRest rightRest : List UInt8) :
    String.utf8EncodeChar c ++ leftRest < String.utf8EncodeChar d ++ rightRest := by
  have lessCode : c.val.toNat < d.val.toNat := less
  rw [utf8EncodeChar_eq, utf8EncodeChar_eq, List.cons_append, List.cons_append,
    cons_byte_lt_iff (firstByte_lt_byte (code_lt c)) (firstByte_lt_byte (code_lt d))]
  cases Nat.lt_or_eq_of_le (firstByte_le lessCode) with
  | inl first => exact .inl first
  | inr same =>
      obtain ⟨count, later⟩ := later_of_firstByte_eq lessCode (code_lt d) same
      rw [← count]
      exact .inr ⟨same, laterBytes_lt later leftRest rightRest⟩

theorem flatMap_utf8EncodeChar_lt {left right : List Char} (less : left < right) :
    left.flatMap String.utf8EncodeChar < right.flatMap String.utf8EncodeChar := by
  induction less with
  | @nil d rest =>
      rw [List.flatMap_nil, List.flatMap_cons, utf8EncodeChar_eq, List.cons_append]
      exact List.nil_lt_cons _ _
  | rel less =>
      rw [List.flatMap_cons, List.flatMap_cons]
      exact utf8EncodeChar_lt less _ _
  | cons rest inductionHypothesis =>
      rw [List.flatMap_cons, List.flatMap_cons]
      exact List.append_left_lt inductionHypothesis

/-- Texts come in the order of their bytes. -/
theorem bytes_lt_iff {left right : String} : bytes left < bytes right ↔ left < right := by
  have forward : ∀ {left right : String}, left < right → bytes left < bytes right := by
    intro left right less
    rw [bytes_eq_flatMap, bytes_eq_flatMap]
    exact flatMap_utf8EncodeChar_lt less
  refine ⟨fun less => ?_, forward⟩
  rcases lt_trichotomy left right with before | same | after
  · exact before
  · exact absurd (same ▸ less) (List.lt_irrefl _)
  · exact absurd (forward after) (List.lt_asymm less)

/-- A character of four bytes comes after one of three. -/
example : bytes "ﬁ" < bytes "𝔣" := by decide +kernel

end Stencil
