import Stencil.Proofs.Regex.Moves

/-!
What a reader keeps from character to character.

Owns `Reader.Keeps`, which says of two readers that moves lead from the frame of one to that of the
other and that no more characters are accounted for than there are. Every part of a step has one
lemma that it keeps these; the main statement is `read_keeps`. So a text that has been read accounts
for no character after its end, and what it puts together came about by moves.
-/

namespace Stencil.Regex.Reader

open Stencil.Regex.Frame (Move Moves)

/-- What a result that is used further comes from. -/
theorem exists_of_bind_ok {α β : Type} {result : Except SyntaxError α}
    {next : α → Except SyntaxError β} {last : β} (succeeds : (result >>= next) = .ok last) :
    ∃ value, result = .ok value ∧ next value = .ok last := by
  cases result with
  | error cause => simp [bind, Except.bind] at succeeds
  | ok value => exact ⟨value, rfl, succeeds⟩

/-- What a part of a step keeps, given the text that follows its character. -/
structure Keeps (rest : List Char) (before after : Reader) : Prop where
  moves : Moves before.frame after.frame
  skip : after.skip = before.skip ∨ after.skip ≤ rest.length

/-- What has no part in the frame may change. -/
theorem Keeps.of_frame {rest : List Char} {before after : Reader}
    (frame : after.frame = before.frame)
    (skip : after.skip = before.skip ∨ after.skip ≤ rest.length) : Keeps rest before after :=
  ⟨frame ▸ .refl, skip⟩

theorem Keeps.of_move {rest : List Char} {before after : Reader}
    (move : Move before.frame after.frame) (skip : after.skip = before.skip) :
    Keeps rest before after :=
  ⟨.single move, .inl skip⟩

theorem Keeps.trans {rest : List Char} {first second third : Reader}
    (left : Keeps rest first second) (right : Keeps rest second third) : Keeps rest first third where
  moves := left.moves.trans right.moves
  skip := by
    cases right.skip with
    | inl same => exact same ▸ left.skip
    | inr bounded => exact .inr bounded

variable {reader after : Reader} {rest : List Char}

/-! ### Parts and repetition -/

theorem addPart_keeps (rest : List Char) (reader : Reader) {part : Part}
    (noGroup : part.expr.groups = []) : Keeps rest reader (reader.addPart part) :=
  .of_move (.part part noGroup) rfl

theorem addExpr_keeps (rest : List Char) (reader : Reader) {expr : Expr}
    (noGroup : expr.groups = []) : Keeps rest reader (reader.addExpr expr) :=
  addPart_keeps rest reader noGroup

theorem groups_charExpr (flags : Flags) (c : Char) : (charExpr flags c).groups = [] := by
  unfold charExpr
  repeat' split
  all_goals rfl

theorem takeMember_keeps {bracket : Bracket} {outer : List Bracket} {member : Member}
    (takes : reader.takeMember bracket outer member = .ok after) : Keeps rest reader after := by
  obtain ⟨taken, _, takes⟩ := exists_of_bind_ok takes
  obtain rfl := Except.ok.inj takes
  exact .of_frame rfl (.inl rfl)

theorem takeChar_keeps {c : Char} {isByte : Bool}
    (takes : reader.takeChar c isByte = .ok after) : Keeps rest reader after := by
  unfold takeChar at takes
  grind [addExpr_keeps, takeMember_keeps, groups_charExpr]

theorem takeSet_keeps {set : CharSet} (takes : reader.takeSet set = .ok after) :
    Keeps rest reader after := by
  unfold takeSet at takes
  grind [addExpr_keeps, takeMember_keeps, Expr.groups]

theorem takeLook_keeps {condition : Look} (takes : reader.takeLook condition = .ok after) :
    Keeps rest reader after := by
  unfold takeLook at takes
  grind [addExpr_keeps, Expr.groups]

theorem repeatLast_keeps {least : Nat} {most : Option Nat} {lazy : Bool}
    (repeats : reader.repeatLast least most lazy = .ok after) : Keeps rest reader after := by
  unfold repeatLast at repeats
  split at repeats
  next => simp at repeats
  next part parts last =>
    split at repeats
    next => simp at repeats
    next =>
      obtain rfl := Except.ok.inj repeats
      exact .of_move (.repeated last _ _ _ _) rfl

private theorem length_pos_of_head? {c : Char} (head : (rest.head? == some c) = true) :
    1 ≤ rest.length := by
  cases rest with
  | nil => simp at head
  | cons d rest => simp

theorem repeatSign_keeps {least : Nat} {most : Option Nat}
    (repeats : reader.repeatSign least most rest = .ok after) : Keeps rest reader after := by
  obtain ⟨repeated, repeatsLast, repeats⟩ := exists_of_bind_ok repeats
  obtain rfl := Except.ok.inj repeats
  have kept : Keeps rest reader repeated := repeatLast_keeps repeatsLast
  refine ⟨kept.moves, .inr ?_⟩
  simp only
  split
  next lazy => exact length_pos_of_head? lazy
  next => exact Nat.zero_le _

theorem stepCount_keeps {count : Count} {c : Char} (steps : reader.stepCount count c = .ok after) :
    Keeps rest reader after := by
  unfold stepCount endCount at steps
  grind [Keeps.of_frame, frame]

/-! ### Groups -/

theorem openGroup_keeps (rest : List Char) (reader : Reader) (flags : Flags) :
    Keeps rest reader (reader.openGroup none flags) :=
  .of_move (.opened reader.flags) rfl

theorem openCapture_keeps (rest : List Char) (reader : Reader) :
    Keeps rest reader reader.openCapture :=
  .of_move (.captured reader.flags) rfl

theorem closeGroup_keeps (closes : reader.closeGroup = .ok after) : Keeps rest reader after := by
  unfold closeGroup at closes
  split at closes
  next => simp at closes
  next layer outer stack =>
    obtain rfl := Except.ok.inj closes
    refine .of_move ?_ rfl
    simp only [frame, stack]
    exact .closed

theorem nextAlternative_keeps (rest : List Char) (reader : Reader) :
    Keeps rest reader reader.nextAlternative :=
  .of_move .alternative rfl

theorem stepName_keeps {name : List Char} {c : Char} (steps : reader.stepName name c = .ok after) :
    Keeps rest reader after := by
  unfold stepName at steps
  split at steps
  next =>
    split at steps
    next => simp at steps
    next free =>
      obtain rfl := Except.ok.inj steps
      have fresh : name ∉ reader.names := fun taken => free (.inr (List.contains_iff_mem.mpr taken))
      have takes : Keeps rest reader { reader with names := name :: reader.names } :=
        .of_move (.named fresh) rfl
      exact takes.trans (openCapture_keeps rest _)
  next =>
    split at steps
    next =>
      obtain rfl := Except.ok.inj steps
      exact .of_frame rfl (.inl rfl)
    next => simp at steps

theorem stepFlags_keeps {list : FlagList} {c : Char} (steps : reader.stepFlags list c = .ok after) :
    Keeps rest reader after := by
  unfold stepFlags at steps
  split at steps
  · have adds : Keeps rest reader (({ reader with flags := list.apply reader.flags } : Reader).addPart
        { expr := .empty, isSetting := true }) :=
      .of_move (.part _ rfl) rfl
    grind
  · split at steps
    · grind [openGroup_keeps]
    · obtain ⟨longer, _, steps⟩ := exists_of_bind_ok steps
      obtain rfl := Except.ok.inj steps
      exact .of_frame rfl (.inl rfl)

theorem stepQuestion_keeps (steps : reader.stepQuestion rest = .ok after) :
    Keeps rest reader after := by
  unfold stepQuestion at steps
  split at steps
  all_goals first
    | (obtain rfl := Except.ok.inj steps; exact .of_frame rfl (.inl rfl))
    | (obtain rfl := Except.ok.inj steps; exact .of_frame rfl (.inr (by simp)))
    | simp at steps

/-! ### Escapes -/

theorem takeCodePoint_keeps {value : Nat} {isByte : Bool}
    (takes : reader.takeCodePoint value isByte = .ok after) : Keeps rest reader after := by
  unfold takeCodePoint at takes
  grind [takeChar_keeps]

theorem takeProperty_keeps {negated : Bool} {property : Option PropertyClass}
    (takes : reader.takeProperty negated property = .ok after) : Keeps rest reader after := by
  unfold takeProperty at takes
  grind [takeSet_keeps]

theorem takeLetterClass_keeps {letter : Char} (takes : reader.takeLetterClass letter = .ok after) :
    Keeps rest reader after := by
  simp only [takeLetterClass, bind, Except.bind] at takes
  grind [takeSet_keeps]

theorem takeWordSide_keeps {side : WordSide} (takes : reader.takeWordSide side = .ok after) :
    Keeps rest reader after :=
  takeLook_keeps takes

theorem stepEscaped_keeps {c : Char} (steps : reader.stepEscaped c rest = .ok after) :
    Keeps rest reader after := by
  have brace : (rest.head? == some '\x7b') = true → 1 ≤ rest.length := length_pos_of_head?
  unfold stepEscaped at steps
  grind [takeLetterClass_keeps, takeChar_keeps, takeLook_keeps, takeWordSide_keeps, Keeps.of_frame,
    frame]

theorem stepEscape_keeps {escape : Escape} {c : Char}
    (steps : reader.stepEscape escape c rest = .ok after) : Keeps rest reader after := by
  cases escape with
  | opened => exact stepEscaped_keeps steps
  | wordSide =>
      simp only [stepEscape] at steps
      split at steps
      · obtain rfl := Except.ok.inj steps
        exact .of_frame rfl (.inl rfl)
      · obtain ⟨next, taken, counts⟩ := exists_of_bind_ok steps
        exact (takeWordSide_keeps taken).trans (stepCount_keeps counts)
  | _ =>
      simp only [stepEscape] at steps
      grind [takeCodePoint_keeps, takeProperty_keeps, takeWordSide_keeps, Keeps.of_frame, frame]

/-! ### Classes -/

theorem closeBracket_keeps {bracket : Bracket} {outer : List Bracket}
    (closes : reader.closeBracket bracket outer = .ok after) : Keeps rest reader after := by
  obtain ⟨result, _, closes⟩ := exists_of_bind_ok closes
  cases outer with
  | nil =>
      obtain rfl := Except.ok.inj closes
      exact .of_move (.part _ rfl) rfl
  | cons enclosing others =>
      obtain rfl := Except.ok.inj closes
      exact .of_frame rfl (.inl rfl)

/-- The name of a class lies within the text that it is read from. -/
theorem length_le_of_ofText? {named : AsciiClass} (found : AsciiClass.ofText? rest = some named) :
    named.length ≤ rest.length := by
  unfold AsciiClass.ofText? at found
  obtain ⟨entry, _, read⟩ := List.exists_of_findSome?_eq_some found
  simp only at read
  split at read
  next begins =>
    obtain rfl := Option.some.inj read
    have shorter := (List.isPrefixOf_iff_prefix.mp begins).length_le
    simp only [List.length_append, List.length_cons, List.length_nil] at shorter ⊢
    omega
  next =>
    split at read
    next begins =>
      obtain rfl := Option.some.inj read
      have shorter := (List.isPrefixOf_iff_prefix.mp begins).length_le
      simp only [List.length_append, List.length_cons, List.length_nil] at shorter ⊢
      omega
    next => simp at read

theorem stepMember_keeps {bracket : Bracket} {outer : List Bracket} {c : Char}
    (steps : reader.stepMember bracket outer c rest = .ok after) : Keeps rest reader after := by
  have takes : ∀ after, { reader with brackets := bracket :: outer }.takeChar c = .ok after →
      Keeps rest reader after := by
    intro after taken
    have kept : Keeps rest { reader with brackets := bracket :: outer } after := takeChar_keeps taken
    exact ⟨kept.moves, kept.skip⟩
  unfold stepMember at steps
  split at steps
  · split at steps
    next named found =>
      obtain ⟨set, _, steps⟩ := exists_of_bind_ok steps
      obtain rfl := Except.ok.inj steps
      exact .of_frame rfl (.inr (length_le_of_ofText? found))
    next =>
      obtain rfl := Except.ok.inj steps
      exact .of_frame rfl (.inl rfl)
  · split at steps
    · exact closeBracket_keeps steps
    · split at steps
      · obtain rfl := Except.ok.inj steps
        exact .of_frame rfl (.inl rfl)
      · split at steps
        · split at steps
          next twice =>
            obtain rfl := Except.ok.inj steps
            exact .of_frame rfl (.inr (length_pos_of_head? twice))
          next => exact takes after steps
        · exact takes after steps

theorem stepBracket_keeps {bracket : Bracket} {outer : List Bracket} {c : Char}
    (steps : reader.stepBracket bracket outer c rest = .ok after) : Keeps rest reader after := by
  unfold stepBracket at steps
  grind [stepMember_keeps, takeChar_keeps, Keeps.of_frame, frame]

/-! ### Steps -/

theorem stepPlain_keeps {c : Char} (steps : reader.stepPlain c rest = .ok after) :
    Keeps rest reader after := by
  unfold stepPlain at steps
  grind [closeGroup_keeps, nextAlternative_keeps, repeatSign_keeps, addExpr_keeps, takeLook_keeps,
    takeChar_keeps, Keeps.of_frame, frame, Expr.groups]

theorem stepMode_keeps {c : Char} (steps : reader.stepMode c rest = .ok after) :
    Keeps rest reader after := by
  unfold stepMode at steps
  split at steps
  next =>
    unfold stepBetween at steps
    grind [stepPlain_keeps, stepBracket_keeps]
  next =>
    split at steps
    next => exact stepQuestion_keeps steps
    next => exact (openCapture_keeps rest reader).trans (stepPlain_keeps steps)
  next => exact stepName_keeps steps
  next => exact stepFlags_keeps steps
  next => exact stepEscape_keeps steps
  next => exact stepCount_keeps steps
  next least most _ =>
    split at steps
    next => exact repeatLast_keeps steps
    next =>
      obtain ⟨next, repeated, plain⟩ := exists_of_bind_ok steps
      exact (repeatLast_keeps repeated).trans (stepPlain_keeps plain)

/-- A step accounts for no character beyond the text if the steps before it did not. -/
theorem step_keeps {c : Char} (steps : reader.step c rest = .ok after)
    (accounted : reader.skip ≤ rest.length + 1) :
    Moves reader.frame after.frame ∧ after.skip ≤ rest.length := by
  unfold step at steps
  split at steps
  next skip skips =>
    obtain rfl := Except.ok.inj steps
    exact ⟨.refl, by simp only; omega⟩
  next none =>
    split at steps
    next =>
      obtain rfl := Except.ok.inj steps
      exact ⟨.refl, by simp [none]⟩
    next =>
      split at steps
      next =>
        obtain rfl := Except.ok.inj steps
        exact ⟨.refl, by simp [none]⟩
      next =>
        split at steps
        next =>
          obtain rfl := Except.ok.inj steps
          exact ⟨.refl, by simp [none]⟩
        next =>
          obtain ⟨moves, skip⟩ := stepMode_keeps steps
          exact ⟨moves, by omega⟩

/-- A text that has been read to its end accounts for no character after it, and its frame came about
by moves. -/
theorem read_keeps {text : List Char} (reads : reader.read text = .ok after)
    (accounted : reader.skip ≤ text.length) :
    Moves reader.frame after.frame ∧ after.skip = 0 := by
  induction text generalizing reader with
  | nil =>
      obtain rfl := Except.ok.inj reads
      exact ⟨.refl, Nat.le_zero.mp accounted⟩
  | cons c rest inductionHypothesis =>
      obtain ⟨next, steps, reads⟩ := exists_of_bind_ok reads
      obtain ⟨moves, skip⟩ := step_keeps steps accounted
      obtain ⟨later, ends⟩ := inductionHypothesis reads skip
      exact ⟨moves.trans later, ends⟩

theorem settle_moves (settles : reader.settle = .ok after) : Moves reader.frame after.frame := by
  unfold settle at settles
  split at settles
  next =>
    obtain rfl := Except.ok.inj settles
    exact .refl
  next =>
    have kept : Keeps [] reader after := repeatLast_keeps settles
    exact kept.moves
  all_goals simp at settles

end Stencil.Regex.Reader
