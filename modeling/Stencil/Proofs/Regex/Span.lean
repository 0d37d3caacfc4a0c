import Stencil.Regex.Search

/-!
What an expression matches, apart from any search for it.

Owns `Expr.Spans`, the relation between the place where a match of an expression begins and the
place where it ends. The main statements say that the builders of expressions keep this relation
(`spans_andThen`, `spans_inSequence`) and that a match takes characters from the text in their order
(`Expr.Spans.passes`).

Which of several matches is preferred, and what its groups capture, is not told here.
-/

namespace Stencil.Regex

/-! ### Passing over characters -/

namespace Place

@[simp] theorem pass?_nil (place : Place) : place.pass? [] = some place := rfl

theorem pass?_append (place : Place) (first second : List Char) :
    place.pass? (first ++ second) = (place.pass? first).bind fun middle => middle.pass? second := by
  induction first generalizing place with
  | nil => rfl
  | cons c rest inductionHypothesis =>
      simp only [List.cons_append, pass?]
      cases place.after with
      | nil => rfl
      | cons d after =>
          by_cases same : c = d
          · simp only [same, ↓reduceIte]
            exact inductionHypothesis _
          · simp only [same, ↓reduceIte]
            rfl

/-- Two texts that are passed over one after the other are passed over together. -/
theorem pass?_trans {place middle last : Place} {first second : List Char}
    (passesFirst : place.pass? first = some middle) (passesSecond : middle.pass? second = some last) :
    place.pass? (first ++ second) = some last := by
  rw [pass?_append, passesFirst]
  exact passesSecond

/-- What is passed over stood in the text, and the place moves on by its length. -/
theorem after_eq_of_pass? {place last : Place} {text : List Char}
    (passes : place.pass? text = some last) :
    place.after = text ++ last.after ∧ last.offset = place.offset + text.length := by
  induction text generalizing place with
  | nil =>
      obtain rfl : place = last := by simpa using passes
      simp
  | cons c rest inductionHypothesis =>
      simp only [pass?] at passes
      split at passes
      · simp at passes
      next d after read =>
        split at passes
        next same =>
          obtain ⟨text, offset⟩ := inductionHypothesis passes
          rw [read, same]
          simp only at text offset
          constructor
          · rw [text]
            rfl
          · rw [offset, List.length_cons]
            omega
        next => simp at passes

/-- What stands in the text can be passed over. -/
theorem exists_pass? (place : Place) (text rest : List Char) (stands : place.after = text ++ rest) :
    ∃ last, place.pass? text = some last ∧ last.after = rest := by
  induction text generalizing place with
  | nil => exact ⟨place, rfl, stands⟩
  | cons c text inductionHypothesis =>
      obtain ⟨last, passes, after⟩ := inductionHypothesis ⟨some c, text ++ rest, place.offset + 1⟩ rfl
      refine ⟨last, ?_, after⟩
      rw [pass?, stands]
      simpa using passes

theorem pass?_singleton {place : Place} {c : Char} {last : Place} :
    place.pass? [c] = some last ↔
      ∃ after, place.after = c :: after ∧ last = ⟨some c, after, place.offset + 1⟩ := by
  simp only [pass?]
  constructor
  · intro passes
    split at passes
    · simp at passes
    next d after read =>
      split at passes
      next same => exact ⟨after, by rw [read, same], by rw [same]; exact (Option.some.inj passes).symm⟩
      next => simp at passes
  · rintro ⟨after, read, rfl⟩
    rw [read]
    simp

end Place

/-! ### Matches -/

/-- A relation between places taken the given number of times. -/
def Iterated (relation : Place → Place → Prop) : Nat → Place → Place → Prop
  | 0, first, last => last = first
  | count + 1, first, last => ∃ middle, relation first middle ∧ Iterated relation count middle last

theorem iterated_add (relation : Place → Place → Prop) (left right : Nat) (first last : Place) :
    Iterated relation (left + right) first last ↔
      ∃ middle, Iterated relation left first middle ∧ Iterated relation right middle last := by
  induction left generalizing first with
  | zero => simp [Iterated]
  | succ left inductionHypothesis =>
      rw [Nat.add_right_comm]
      simp only [Iterated, inductionHypothesis]
      constructor
      · rintro ⟨place, related, middle, iterated, rest⟩
        exact ⟨middle, ⟨place, related, iterated⟩, rest⟩
      · rintro ⟨middle, ⟨place, related, iterated⟩, rest⟩
        exact ⟨place, related, middle, iterated, rest⟩

theorem iterated_one (relation : Place → Place → Prop) (first last : Place) :
    Iterated relation 1 first last ↔ relation first last := by
  simp [Iterated]

/-- One more round may be left out, or it comes first. -/
theorem iterated_upTo_succ (relation : Place → Place → Prop) (bound : Nat) (first last : Place) :
    (∃ count, count ≤ bound + 1 ∧ Iterated relation count first last) ↔
      (∃ middle, relation first middle ∧
        ∃ count, count ≤ bound ∧ Iterated relation count middle last) ∨ last = first := by
  constructor
  · rintro ⟨count, within, iterated⟩
    cases count with
    | zero => exact .inr iterated
    | succ count =>
        obtain ⟨middle, related, rest⟩ := iterated
        exact .inl ⟨middle, related, count, by omega, rest⟩
  · rintro (⟨middle, related, count, within, iterated⟩ | stays)
    · exact ⟨count + 1, by omega, middle, related, iterated⟩
    · exact ⟨0, by omega, stays⟩

/-- Whether the bounds of a repetition allow a number of rounds. An upper bound of zero allows no
round at all, and one below the lower bound counts as the lower bound. -/
def roundsAllowed (least : Nat) (most : Option Nat) (count : Nat) : Prop :=
  match most with
  | none => least ≤ count
  | some bound => if bound = 0 then count = 0 else least ≤ count ∧ count ≤ max least bound

namespace Expr

/-- A match of the expression may begin at the first place and end at the last. -/
def Spans : Expr → Place → Place → Prop
  | .empty, first, last => last = first
  | .literal text, first, last => first.pass? text = some last
  | .oneOf set, first, last => ∃ c, set.contains c = true ∧ first.pass? [c] = some last
  | .look condition, first, last => condition.holds first.before first.after = true ∧ last = first
  | .group _ body, first, last => body.Spans first last
  | .sequence left right, first, last =>
    ∃ middle, left.Spans first middle ∧ right.Spans middle last
  | .choice left right, first, last => left.Spans first last ∨ right.Spans first last
  | .rounds least most _ body, first, last =>
    ∃ count, roundsAllowed least most count ∧ Iterated body.Spans count first last

/-- The listed expressions match one after another. -/
def SpansInTurn : List Expr → Place → Place → Prop
  | [], first, last => last = first
  | part :: rest, first, last => ∃ middle, part.Spans first middle ∧ SpansInTurn rest middle last

private theorem iterated_passes {relation : Place → Place → Prop}
    (passes : ∀ first last, relation first last → ∃ text, first.pass? text = some last) :
    ∀ (count : Nat) (first last : Place), Iterated relation count first last →
      ∃ text, first.pass? text = some last
  | 0, first, last, iterated => ⟨[], by rw [iterated]; rfl⟩
  | count + 1, first, last, iterated => by
      obtain ⟨middle, step, rest⟩ := iterated
      obtain ⟨text, passesText⟩ := passes first middle step
      obtain ⟨others, passesOthers⟩ := iterated_passes passes count middle last rest
      exact ⟨text ++ others, Place.pass?_trans passesText passesOthers⟩

/-- A match passes over the characters that stand between its two places. -/
theorem Spans.passes {expr : Expr} {first last : Place} (spans : expr.Spans first last) :
    ∃ text, first.pass? text = some last := by
  induction expr generalizing first last with
  | empty => exact ⟨[], by rw [spans]; rfl⟩
  | literal text => exact ⟨text, spans⟩
  | oneOf set =>
      obtain ⟨c, _, passes⟩ := spans
      exact ⟨[c], passes⟩
  | look condition => exact ⟨[], by rw [spans.2]; rfl⟩
  | group index body inductionHypothesis => exact inductionHypothesis spans
  | sequence left right leftHypothesis rightHypothesis =>
      obtain ⟨middle, spansLeft, spansRight⟩ := spans
      obtain ⟨text, passesText⟩ := leftHypothesis spansLeft
      obtain ⟨others, passesOthers⟩ := rightHypothesis spansRight
      exact ⟨text ++ others, Place.pass?_trans passesText passesOthers⟩
  | choice left right leftHypothesis rightHypothesis =>
      cases spans with
      | inl spansLeft => exact leftHypothesis spansLeft
      | inr spansRight => exact rightHypothesis spansRight
  | rounds least most greedy body inductionHypothesis =>
      obtain ⟨count, _, iterated⟩ := spans
      exact iterated_passes (fun _ _ => inductionHypothesis) count first last iterated

/-- The rounds of one character of a set pass over a text of such characters. -/
theorem iterated_oneOf (set : CharSet) (count : Nat) (first last : Place) :
    Iterated (oneOf set).Spans count first last ↔
      ∃ text : List Char, text.length = count ∧ (∀ c ∈ text, set.contains c = true) ∧
        first.pass? text = some last := by
  induction count generalizing first with
  | zero =>
      constructor
      · intro stays
        exact ⟨[], rfl, by simp, congrArg some stays.symm⟩
      · rintro ⟨text, empty, _, passes⟩
        rw [List.length_eq_zero_iff.mp empty] at passes
        exact (Option.some.inj passes).symm
  | succ count inductionHypothesis =>
      constructor
      · rintro ⟨middle, ⟨c, member, passes⟩, rest⟩
        obtain ⟨text, length, members, passesRest⟩ := (inductionHypothesis middle).mp rest
        refine ⟨c :: text, by rw [List.length_cons, length], ?_, Place.pass?_trans passes passesRest⟩
        simpa using ⟨member, members⟩
      · rintro ⟨text, length, members, passes⟩
        cases text with
        | nil => simp at length
        | cons c text =>
            rw [← List.singleton_append, Place.pass?_append, Option.bind_eq_some_iff] at passes
            obtain ⟨middle, passesOne, passesRest⟩ := passes
            rw [List.forall_mem_cons] at members
            exact ⟨middle, ⟨c, members.1, passesOne⟩, (inductionHypothesis middle).mpr
              ⟨text, by simpa using length, members.2, passesRest⟩⟩

/-! ### Builders -/

/-- Joining two expressions keeps what they match one after the other. -/
theorem spans_andThen (left right : Expr) (first last : Place) :
    (left.andThen right).Spans first last ↔
      ∃ middle, left.Spans first middle ∧ right.Spans middle last := by
  unfold andThen
  split
  · simp [Spans]
  · simp [Spans]
  · simp only [Spans, Place.pass?_append, Option.bind_eq_some_iff]
  · simp only [Spans, Place.pass?_append, Option.bind_eq_some_iff]
    constructor
    · rintro ⟨place, ⟨middle, passesLeft, passesRight⟩, spansRest⟩
      exact ⟨middle, passesLeft, place, passesRight, spansRest⟩
    · rintro ⟨middle, passesLeft, place, passesRight, spansRest⟩
      exact ⟨place, ⟨middle, passesLeft, passesRight⟩, spansRest⟩
  · rfl

theorem spans_inSequence (parts : List Expr) (first last : Place) :
    (inSequence parts).Spans first last ↔ SpansInTurn parts first last := by
  induction parts generalizing first with
  | nil => rfl
  | cons part rest inductionHypothesis =>
      change (part.andThen (inSequence rest)).Spans first last ↔ _
      rw [spans_andThen]
      simp only [inductionHypothesis, SpansInTurn]

theorem spansInTurn_append (left right : List Expr) (first last : Place) :
    SpansInTurn (left ++ right) first last ↔
      ∃ middle, SpansInTurn left first middle ∧ SpansInTurn right middle last := by
  induction left generalizing first with
  | nil => simp [SpansInTurn]
  | cons part rest inductionHypothesis =>
      simp only [List.cons_append, SpansInTurn, inductionHypothesis]
      constructor
      · rintro ⟨place, spansPart, middle, spansRest, spansRight⟩
        exact ⟨middle, ⟨place, spansPart, spansRest⟩, spansRight⟩
      · rintro ⟨middle, ⟨place, spansPart, spansRest⟩, spansRight⟩
        exact ⟨place, spansPart, middle, spansRest, spansRight⟩

end Expr

end Stencil.Regex
