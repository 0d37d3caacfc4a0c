import Stencil.Regex.Program

/-!
Where the code of an expression lies in a program.

Owns `LiesAt`, the place of a piece of code in a program, the length of laid out code, and for each
kind of expression the instructions and the parts that its code consists of. What is told of the
code of expressions elsewhere rests on these lemmas and not on the layout itself.
-/

namespace Stencil.Regex

/-! ### The length of code -/

namespace Expr

theorem copies_length {part : Nat → Nat → List Inst} {length : Nat}
    (partLength : ∀ start past, (part start past).length = length) :
    ∀ count start past : Nat, (copies part length count start past).length = count * length
  | 0, _, _ => by simp [copies]
  | 1, start, past => by simp [copies, partLength]
  | count + 2, start, past => by
      rw [copies, List.length_append, partLength, copies_length partLength (count + 1)]
      rw [Nat.add_mul (count + 1) 1 length]
      omega

theorem optionalRounds_length {part : Nat → Nat → List Inst} {length : Nat}
    (partLength : ∀ start past, (part start past).length = length) (greedy : Bool) :
    ∀ count start past : Nat,
      (optionalRounds part length greedy count start past).length = count * (length + 1)
  | 0, _, _ => by simp [optionalRounds]
  | 1, start, past => by simp [optionalRounds, partLength]
  | count + 2, start, past => by
      rw [optionalRounds, List.length_cons, List.length_append, partLength,
        optionalRounds_length partLength greedy (count + 1)]
      rw [Nat.add_mul (count + 1) 1 (length + 1)]
      omega

/-- An expression takes as many states as `codeLength` says, wherever it is laid out. -/
theorem code_length (expr : Expr) (start past : Nat) :
    (expr.code start past).length = expr.codeLength := by
  induction expr generalizing start past with
  | empty => rfl
  | literal text => rfl
  | oneOf set => rfl
  | look condition => rfl
  | group index body inductionHypothesis =>
      simp [code, codeLength, inductionHypothesis]
  | sequence left right leftHypothesis rightHypothesis =>
      simp [code, codeLength, leftHypothesis, rightHypothesis]
  | choice left right leftHypothesis rightHypothesis =>
      simp [code, codeLength, leftHypothesis, rightHypothesis]
  | rounds least most greedy body inductionHypothesis =>
      cases most with
      | none =>
          cases least with
          | zero => simp [code, codeLength, inductionHypothesis]
          | succ least =>
              simp only [code, codeLength, List.length_append, List.length_cons, List.length_nil,
                copies_length inductionHypothesis, inductionHypothesis, Nat.add_one_ne_zero,
                ↓reduceIte, Nat.add_mul]
              omega
      | some bound =>
          simp only [code, codeLength]
          split
          · rfl
          · split
            next below =>
              rw [copies_length inductionHypothesis, Nat.sub_eq_zero_of_le below]
              simp
            next =>
              rw [List.length_append, copies_length inductionHypothesis,
                optionalRounds_length inductionHypothesis]

end Expr

/-! ### Code in a program -/

/-- The code stands in the program from state `start` on. -/
def LiesAt (program : Array Inst) (start : Nat) (code : List Inst) : Prop :=
  ∃ before after, program.toList = before ++ (code ++ after) ∧ before.length = start

section Position

variable {program : Array Inst} {start : Nat}

theorem LiesAt.append {left right : List Inst} (lies : LiesAt program start (left ++ right)) :
    LiesAt program start left ∧ LiesAt program (start + left.length) right := by
  obtain ⟨before, after, text, length⟩ := lies
  constructor
  · exact ⟨before, right ++ after, by rw [text, List.append_assoc], length⟩
  · exact ⟨before ++ left, after, by rw [text]; simp, by simp [length]⟩

theorem LiesAt.cons {inst : Inst} {rest : List Inst} (lies : LiesAt program start (inst :: rest)) :
    program[start]? = some inst ∧ LiesAt program (start + 1) rest := by
  constructor
  · obtain ⟨before, after, text, length⟩ := lies
    rw [← Array.getElem?_toList, text, ← length]
    simp
  · exact (LiesAt.append (show LiesAt program start ([inst] ++ rest) from lies)).2

theorem LiesAt.singleton {inst : Inst} (lies : LiesAt program start [inst]) :
    program[start]? = some inst :=
  lies.cons.1

end Position

/-! ### Where the parts of an expression lie -/

section Layout

variable {program : Array Inst} {start past : Nat} {body : Expr} {greedy : Bool}

theorem LiesAt.group {index : Nat}
    (lies : LiesAt program start ((Expr.group index body).code start past)) :
    program[start]? = some (.mark (groupStart index) (start + 1)) ∧
      LiesAt program (start + 1) (body.code (start + 1) (start + 1 + body.codeLength)) ∧
      program[start + 1 + body.codeLength]? = some (.mark (groupEnd index) past) := by
  obtain ⟨opens, liesBody⟩ := lies.cons
  have closes := liesBody.append.2.singleton
  rw [Expr.code_length] at closes
  exact ⟨opens, liesBody.append.1, closes⟩

theorem LiesAt.sequence {left right : Expr}
    (lies : LiesAt program start ((Expr.sequence left right).code start past)) :
    LiesAt program start (left.code start (start + left.codeLength)) ∧
      LiesAt program (start + left.codeLength) (right.code (start + left.codeLength) past) := by
  obtain ⟨liesLeft, liesRight⟩ := lies.append
  rw [Expr.code_length] at liesRight
  exact ⟨liesLeft, liesRight⟩

theorem LiesAt.choice {left right : Expr}
    (lies : LiesAt program start ((Expr.choice left right).code start past)) :
    program[start]? = some (.fork (start + 1) (start + 1 + left.codeLength)) ∧
      LiesAt program (start + 1) (left.code (start + 1) past) ∧
      LiesAt program (start + 1 + left.codeLength)
        (right.code (start + 1 + left.codeLength) past) := by
  obtain ⟨found, liesBoth⟩ := lies.cons
  obtain ⟨liesLeft, liesRight⟩ := liesBoth.append
  rw [Expr.code_length] at liesRight
  exact ⟨found, liesLeft, liesRight⟩

theorem LiesAt.anyRounds
    (lies : LiesAt program start ((Expr.rounds 0 none greedy body).code start past)) :
    program[start]? = some (.enterOrLeave greedy (start + 1) past) ∧
      LiesAt program (start + 1) (body.code (start + 1) (start + 1 + body.codeLength)) ∧
      program[start + 1 + body.codeLength]? = some (.enterOrLeave greedy (start + 1) past) := by
  obtain ⟨found, liesBody⟩ := lies.cons
  have foundAgain := liesBody.append.2.singleton
  rw [Expr.code_length] at foundAgain
  exact ⟨found, liesBody.append.1, foundAgain⟩

/-- The last of the rounds that are required is the one that is repeated. -/
theorem LiesAt.someRounds {least : Nat}
    (lies : LiesAt program start ((Expr.rounds (least + 1) none greedy body).code start past)) :
    let last := start + least * body.codeLength
    LiesAt program start (Expr.copies body.code body.codeLength least start last) ∧
      LiesAt program last (body.code last (last + body.codeLength)) ∧
      program[last + body.codeLength]? = some (.enterOrLeave greedy last past) := by
  simp only [Expr.code] at lies
  obtain ⟨liesCopies, liesLast⟩ := lies.append
  rw [Expr.copies_length body.code_length] at liesLast
  have foundAgain := liesLast.append.2.singleton
  rw [Expr.code_length] at foundAgain
  exact ⟨liesCopies, liesLast.append.1, foundAgain⟩

theorem LiesAt.noRounds {least : Nat}
    (lies : LiesAt program start ((Expr.rounds least (some 0) greedy body).code start past)) :
    program[start]? = some (.goto past) :=
  lies.singleton

/-- The code of a bounded repetition: the rounds that are required, and then, if there may be more,
those that may be left out. -/
theorem LiesAt.boundedRounds {least bound : Nat} (rounds : bound ≠ 0)
    (lies : LiesAt program start ((Expr.rounds least (some bound) greedy body).code start past)) :
    let optional := start + least * body.codeLength
    (bound ≤ least ∧
        LiesAt program start (Expr.copies body.code body.codeLength least start past)) ∨
      (least < bound ∧
        LiesAt program start (Expr.copies body.code body.codeLength least start optional) ∧
        LiesAt program optional (Expr.optionalRounds body.code body.codeLength greedy
          (bound - least) optional past)) := by
  simp only [Expr.code, if_neg rounds] at lies
  split at lies
  next below => exact .inl ⟨below, lies⟩
  next above =>
    obtain ⟨liesCopies, liesOptional⟩ := lies.append
    rw [Expr.copies_length body.code_length] at liesOptional
    exact .inr ⟨by omega, liesCopies, liesOptional⟩

variable {part : Nat → Nat → List Inst} {length count : Nat}

theorem LiesAt.copies (partLength : ∀ start past, (part start past).length = length)
    (lies : LiesAt program start (Expr.copies part length (count + 2) start past)) :
    LiesAt program start (part start (start + length)) ∧
      LiesAt program (start + length)
        (Expr.copies part length (count + 1) (start + length) past) := by
  rw [Expr.copies] at lies
  have liesRest := lies.append.2
  rw [partLength] at liesRest
  exact ⟨lies.append.1, liesRest⟩

theorem LiesAt.optionalRounds (partLength : ∀ start past, (part start past).length = length)
    (lies : LiesAt program start
      (Expr.optionalRounds part length greedy (count + 2) start past)) :
    program[start]? = some (.enterOrLeave greedy (start + 1) past) ∧
      LiesAt program (start + 1) (part (start + 1) (start + 1 + length)) ∧
      LiesAt program (start + 1 + length)
        (Expr.optionalRounds part length greedy (count + 1) (start + 1 + length) past) := by
  rw [Expr.optionalRounds] at lies
  obtain ⟨found, liesBody⟩ := lies.cons
  have liesRest := liesBody.append.2
  rw [partLength] at liesRest
  exact ⟨found, liesBody.append.1, liesRest⟩

end Layout

end Stencil.Regex
