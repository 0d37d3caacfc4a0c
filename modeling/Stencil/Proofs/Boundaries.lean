import Stencil.Cursor
import Stencil.Proofs.ByteOrder
import Stencil.Proofs.Pattern.Literals

/-!
The places between the characters of a text.

An encoding is one byte of the ASCII range, or a greater first byte with later bytes between the two
ranges (`utf8EncodeChar_cases`). So the place after some characters is seen to be one by the byte
there (`isBoundary_of_divides`), the part from one such place to another can be cut out (`cut_eq`),
and an ASCII byte stands for its character wherever it is.
-/

namespace Stencil

open Offset (add cut isBoundary)

/-! ### The bytes of a character -/

theorem length_flatMap_utf8EncodeChar (text : List Char) :
    (text.flatMap String.utf8EncodeChar).length = byteLength text := by
  induction text with
  | nil => rfl
  | cons c rest inductionHypothesis =>
      rw [List.flatMap_cons, List.length_append, inductionHypothesis, String.length_utf8EncodeChar,
        byteLength_cons]

theorem mem_laterBytes {code count : Nat} {byte : UInt8} (member : byte ∈ laterBytes code count) :
    0x80 ≤ byte.toNat ∧ byte.toNat < 0xc0 := by
  induction count with
  | zero => simp [laterBytes] at member
  | succ count inductionHypothesis =>
      rw [laterBytes, List.mem_cons] at member
      cases member with
      | inl first =>
          rw [first, UInt8.toNat_ofNat']
          omega
      | inr later => exact inductionHypothesis later

/-- The encoding of a character of the ASCII range is its code point. Any other one has a first byte
that no such character and no later byte is equal to. -/
theorem utf8EncodeChar_cases (c : Char) :
    (c.val.toNat < 0x80 ∧ ∃ byte, String.utf8EncodeChar c = [byte] ∧ byte.toNat = c.val.toNat) ∨
      0x80 ≤ c.val.toNat ∧ ∃ first later, String.utf8EncodeChar c = first :: later ∧
        0xc0 ≤ first.toNat ∧ ∀ byte ∈ later, 0x80 ≤ byte.toNat ∧ byte.toNat < 0xc0 := by
  have bound := code_lt c
  rw [utf8EncodeChar_eq]
  generalize c.val.toNat = code at *
  by_cases ascii : code < 0x80
  · have single : code ≤ 0x7f := by omega
    refine .inl ⟨ascii, UInt8.ofNat code, ?_, ?_⟩
    · rw [firstByte, laterCount, if_pos single, if_pos single, laterBytes]
    · rw [UInt8.toNat_ofNat', Nat.mod_eq_of_lt (by omega)]
  · refine .inr ⟨by omega, _, _, rfl, ?_, fun byte => mem_laterBytes⟩
    rw [UInt8.toNat_ofNat', Nat.mod_eq_of_lt (firstByte_lt_byte bound)]
    unfold firstByte
    split_ifs <;> omega

section Ascii

variable {byte : UInt8} {c : Char} (same : byte.toNat = c.val.toNat) (ascii : byte.toNat < 0x80)
include same ascii

/-- A text begins with an ASCII byte if it begins with its character. -/
theorem head?_bytes_iff (text : List Char) :
    (text.flatMap String.utf8EncodeChar).head? = some byte ↔ text.head? = some c := by
  cases text with
  | nil => simp
  | cons d rest =>
      rw [List.flatMap_cons, List.head?_cons, Option.some_inj, ← Char.val_inj, ← UInt32.toNat_inj]
      rcases utf8EncodeChar_cases d with
        ⟨_, single, encoding, code⟩ | ⟨wide, first, later, encoding, high, _⟩
      · rw [encoding, List.singleton_append, List.head?_cons, Option.some_inj, ← UInt8.toNat_inj,
          code, same]
      · rw [encoding, List.cons_append, List.head?_cons, Option.some_inj, ← UInt8.toNat_inj]
        omega

/-- An ASCII byte is in a text as often as its character. -/
theorem count_flatMap_utf8EncodeChar (text : List Char) :
    (text.flatMap String.utf8EncodeChar).count byte = text.count c := by
  have alone : ∀ d : Char, (String.utf8EncodeChar d).count byte = if d == c then 1 else 0 := by
    intro d
    simp only [beq_iff_eq, ← Char.val_inj, ← UInt32.toNat_inj]
    rcases utf8EncodeChar_cases d with
      ⟨_, single, encoding, code⟩ | ⟨wide, first, later, encoding, high, continues⟩
    · rw [encoding, List.count_singleton]
      simp only [beq_iff_eq, ← UInt8.toNat_inj, code, same]
    · have absent : byte ∉ first :: later := by
        rintro member
        rcases List.mem_cons.mp member with rfl | later
        · omega
        · have low := (continues byte later).1
          omega
      rw [if_neg (by omega), encoding, List.count_eq_zero.mpr absent]
  induction text with
  | nil => rfl
  | cons d rest inductionHypothesis =>
      rw [List.flatMap_cons, List.count_append, alone, inductionHypothesis, List.count_cons,
        Nat.add_comm]

end Ascii

/-! ### Places between characters -/

section Divided

variable {text : String} {before after : List Char} (divides : text.toList = before ++ after)
include divides

theorem utf8ByteSize_of_divides : text.utf8ByteSize = byteLength before + byteLength after := by
  rw [← byteLength_toList, divides, byteLength_append]

theorem drop_bytes :
    (bytes text).drop (byteLength before) = after.flatMap String.utf8EncodeChar := by
  rw [bytes_eq_flatMap, divides, List.flatMap_append, ← length_flatMap_utf8EncodeChar,
    List.drop_left]

theorem getElem?_bytes :
    (bytes text)[byteLength before]? = (after.flatMap String.utf8EncodeChar).head? := by
  rw [← drop_bytes divides, List.head?_drop]

theorem isBoundary_of_divides : isBoundary text (byteLength before) = true := by
  unfold isBoundary
  rw [getElem?_bytes divides]
  cases after with
  | nil => simp [utf8ByteSize_of_divides divides]
  | cons c rest =>
      rw [List.flatMap_cons]
      rcases utf8EncodeChar_cases c with
        ⟨ascii, single, encoding, code⟩ | ⟨_, first, later, encoding, high, _⟩
      · rw [encoding, List.singleton_append, List.head?_cons]
        have low : single < 0x80 := UInt8.lt_iff_toNat_lt.mpr (code ▸ ascii)
        simp [low]
      · rw [encoding, List.cons_append, List.head?_cons]
        have notLow : 0xc0 ≤ first := UInt8.le_iff_toNat_le.mpr high
        simp [notLow]

end Divided

/-! ### Parts -/

theorem cut_eq {text : String} {before middle after : List Char}
    (divides : text.toList = before ++ (middle ++ after)) :
    cut text (byteLength before) (byteLength (before ++ middle)) = .ok (String.ofList middle) := by
  have stops : text.toList = (before ++ middle) ++ after := by rw [divides, List.append_assoc]
  have size := utf8ByteSize_of_divides stops
  have startBoundary := isBoundary_of_divides divides
  have stopBoundary := isBoundary_of_divides stops
  have length := byteLength_append before middle
  have part := congrArg String.ofList (slice_eq divides)
  rw [slice, String.ofList_toList, ← length] at part
  rw [cut, if_pos ⟨by omega, by omega, startBoundary, stopBoundary⟩, part]

theorem add_eq {limit first second : Nat} (fits : first + second ≤ limit) :
    add limit first second = .ok (first + second) :=
  if_pos fits

end Stencil
