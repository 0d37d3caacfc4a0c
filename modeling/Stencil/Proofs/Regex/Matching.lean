import Stencil.Proofs.Regex.Exploration
import Stencil.Regex.Compiled

/-!
Compiled expressions match what they should.

Owns the view of the program that searches for an expression. The main statement is
`search_searchProgram_iff`: the search succeeds exactly if a match of the expression begins at some
place of the text, for every expression and every text. For an expression between anchors this is a
match of the whole text (`search_anchored_iff`).
-/

namespace Stencil.Regex

theorem contains_all (c : Char) : CharSet.all.contains c = true := by
  have valid := c.valid
  simp only [CharSet.contains, CharSet.all, CharSet.lastCodePoint, List.any_cons, List.any_nil,
    Bool.or_false, Nat.zero_le, decide_true, Bool.true_and, decide_eq_true_eq]
  simp only [Char.toNat, UInt32.isValidChar, Nat.isValidChar] at valid ⊢
  omega

/-- The rounds of a single character of any kind lead from a place of a text to the later ones. -/
theorem iterated_oneOf_all {text : List Char} {count : Nat} {first last : Place}
    (inText : first.InText text)
    (iterated : Iterated (Expr.oneOf CharSet.all).Spans count first last) : last.InText text := by
  induction count generalizing first with
  | zero =>
      obtain rfl : last = first := iterated
      exact inText
  | succ count inductionHypothesis =>
      obtain ⟨middle, ⟨c, _, passes⟩, rest⟩ := iterated
      exact inductionHypothesis (inText.pass passes) rest

theorem exists_iterated_oneOf_all {text : List Char} {last : Place} (inText : last.InText text) :
    ∃ count, Iterated (Expr.oneOf CharSet.all).Spans count (Place.start text) last := by
  obtain ⟨done, whole, offset, before⟩ := inText
  have reach : ∀ (passed : List Char) (first : Place), first.InText text →
      first.after = passed ++ last.after → first.offset + passed.length = last.offset →
      Iterated (Expr.oneOf CharSet.all).Spans passed.length first last := by
    intro passed
    induction passed with
    | nil =>
        intro first firstInText _ same
        exact (Place.InText.eq_of_offset firstInText ⟨done, whole, offset, before⟩
          (by simpa using same)).symm
    | cons c rest inductionHypothesis =>
        intro first firstInText after same
        have passes : first.pass? [c] = some ⟨some c, rest ++ last.after, first.offset + 1⟩ :=
          Place.pass?_singleton.mpr ⟨_, after, rfl⟩
        refine ⟨_, ⟨c, contains_all c, passes⟩,
          inductionHypothesis _ (firstInText.pass passes) rfl ?_⟩
        rw [← same, List.length_cons]
        simp only
        omega
  exact ⟨_, reach done _ (Place.inText_start text) whole (by simp [Place.start, offset])⟩

/-! ### The program of a search -/

variable {expr : Expr}

theorem liesAt_search (expr : Expr) :
    LiesAt (searchProgram expr) 0 [Inst.enterOrLeave false 1 2] ∧
      LiesAt (searchProgram expr) 1 ((Expr.oneOf CharSet.all).code 1 0) ∧
      LiesAt (searchProgram expr) 2 (expr.code 2 (2 + expr.codeLength)) ∧
      LiesAt (searchProgram expr) (2 + expr.codeLength) [Inst.accept] := by
  have whole : LiesAt (searchProgram expr) 0
      (Inst.enterOrLeave false 1 2 :: Inst.readOneOf CharSet.all 0 ::
        (expr.code 2 (2 + expr.codeLength) ++ [Inst.accept])) :=
    ⟨[], [], by simp [searchProgram, Inst.enterOrLeave], rfl⟩
  have rest := LiesAt.append
    (show LiesAt (searchProgram expr) 0 ([Inst.enterOrLeave false 1 2] ++ _) from whole)
  have later := LiesAt.append
    (show LiesAt (searchProgram expr) 1 ([Inst.readOneOf CharSet.all 0] ++ _) from rest.2)
  have last := later.2.append
  rw [Expr.code_length] at last
  exact ⟨rest.1, later.1, last.1, last.2⟩

/-- The first states of a search go on to the next place until a match begins. -/
theorem realises_search (expr : Expr) :
    Realises (searchProgram expr) 0 (2 + expr.codeLength) fun first last =>
      ∃ place, (∃ count, Iterated (Expr.oneOf CharSet.all).Spans count first place) ∧
        expr.Spans place last := by
  obtain ⟨liesFork, liesNext, liesExpr, _⟩ := liesAt_search expr
  exact (Realises.loop liesFork.singleton (realises_code _ _ _ liesNext)).trans
    (realises_code expr _ _ liesExpr)

/-- A search succeeds exactly if a match of the expression begins at some place of the text. -/
theorem search_searchProgram_iff (expr : Expr) (text : List Char) :
    (search (searchProgram expr) text).isSome = true ↔
      ∃ first last, first.InText text ∧ expr.Spans first last := by
  rw [search_isSome_iff]
  constructor
  · rintro ⟨steps, leads⟩
    obtain ⟨last, _, _, ⟨first, ⟨count, iterated⟩, spans⟩, _⟩ := (realises_search expr).sound leads
    exact ⟨first, last, iterated_oneOf_all (Place.inText_start text) iterated, spans⟩
  · rintro ⟨first, last, inText, spans⟩
    have accepts : Leads (searchProgram expr) 0 (2 + expr.codeLength) last :=
      .accept (liesAt_search expr).2.2.2.singleton
    exact (realises_search expr).complete ⟨first, exists_iterated_oneOf_all inText, spans⟩ accepts

/-! ### Anchored expressions -/

/-- The expressions one after another, from the start of a text to its end. -/
def anchored (parts : List Expr) : Expr :=
  Expr.inSequence (.look .textStart :: (parts ++ [.look .textEnd]))

/-- A text matches an anchored expression exactly if its parts pass over the whole of the text. -/
theorem search_anchored_iff (parts : List Expr) (text : List Char) :
    (search (searchProgram (anchored parts)) text).isSome = true ↔
      ∃ last, Expr.SpansInTurn parts (Place.start text) last ∧ last.after = [] := by
  have spans : ∀ first last, (anchored parts).Spans first last ↔
      first.before = none ∧ Expr.SpansInTurn parts first last ∧ last.after = [] := by
    intro first last
    simp [anchored, Expr.spans_inSequence, Expr.SpansInTurn, Expr.spansInTurn_append, Expr.Spans,
      Look.holds]
  rw [search_searchProgram_iff]
  constructor
  · rintro ⟨first, last, inText, spansAll⟩
    obtain ⟨atStart, inTurn, atEnd⟩ := (spans first last).mp spansAll
    rw [inText.eq_start atStart] at inTurn
    exact ⟨last, inTurn, atEnd⟩
  · rintro ⟨last, inTurn, atEnd⟩
    exact ⟨_, last, Place.inText_start text, (spans _ last).mpr ⟨rfl, inTurn, atEnd⟩⟩

end Stencil.Regex
