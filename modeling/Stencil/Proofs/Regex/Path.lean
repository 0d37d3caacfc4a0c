import Stencil.Proofs.Regex.Layout
import Stencil.Proofs.Regex.Span

/-!
Ways through a program, apart from the order in which a search tries them.

Owns:
- `Leads`, the ways of a program from a state at a place to `accept`;
- `Realises`, which says that the ways from one state to another are the matches of a relation.

The main statement is `realises_code`: the code of an expression realises `Expr.Spans`. It holds for
every expression, also where a repetition repeats empty matches.
-/

namespace Stencil.Regex

/-! ### Ways to `accept` -/

/-- Where a thread goes on does not depend on its marks. -/
theorem follow_otherMarks {inst : Inst} {thread next : Thread} (follows : next ∈ inst.follow thread)
    (marks : List (Nat × Nat)) :
    ∃ other ∈ inst.follow ⟨thread.state, thread.place, marks⟩,
      other.state = next.state ∧ other.place = next.place := by
  cases inst with
  | read text target =>
      simp only [Inst.follow] at follows ⊢
      split at follows
      next place passes => simp_all
      next => simp at follows
  | readOneOf set target =>
      simp only [Inst.follow] at follows ⊢
      split at follows
      next c after read =>
        by_cases member : set.contains c
        · simp_all
        · simp [member] at follows
      next => simp at follows
  | check condition target =>
      simp only [Inst.follow] at follows ⊢
      split at follows
      next holds => simp_all [Thread.goTo]
      next => simp at follows
  | mark slot target => simp_all [Inst.follow]
  | fork preferred other =>
      simp only [Inst.follow, List.mem_cons, List.not_mem_nil, or_false] at follows
      rcases follows with rfl | rfl
      · exact ⟨_, List.mem_cons_self, rfl, rfl⟩
      · exact ⟨_, List.mem_cons_of_mem _ List.mem_cons_self, rfl, rfl⟩
  | goto target => simp_all [Inst.follow, Thread.goTo]
  | accept => simp [Inst.follow] at follows

/-- From a state at a place the program can reach `accept` in the given number of steps. -/
inductive Leads (program : Array Inst) : Nat → Nat → Place → Prop where
  | accept {state : Nat} {place : Place} (found : program[state]? = some .accept) :
      Leads program 0 state place
  | step {steps state : Nat} {place : Place} {inst : Inst} {marks : List (Nat × Nat)}
      {next : Thread} (found : program[state]? = some inst)
      (follows : next ∈ inst.follow ⟨state, place, marks⟩)
      (rest : Leads program steps next.state next.place) :
      Leads program (steps + 1) state place

section Steps

variable {program : Array Inst} {steps state : Nat} {place : Place}

/-- A way from a state that does not accept goes on to one of the threads that follow. -/
theorem leads_iff_follow {inst : Inst} (found : program[state]? = some inst)
    (goesOn : inst ≠ .accept) (marks : List (Nat × Nat)) :
    Leads program steps state place ↔
      ∃ rest, steps = rest + 1 ∧
        ∃ next ∈ inst.follow ⟨state, place, marks⟩, Leads program rest next.state next.place := by
  constructor
  · intro leads
    cases leads with
    | accept accepts =>
        rw [found] at accepts
        exact absurd (Option.some.inj accepts) goesOn
    | @step rest _ _ other noted next foundOther follows leads =>
        obtain rfl : inst = other := Option.some.inj (found.symm.trans foundOther)
        obtain ⟨twin, followsTwin, state, place⟩ := follow_otherMarks follows marks
        refine ⟨rest, rfl, twin, followsTwin, ?_⟩
        rw [state, place]
        exact leads
  · rintro ⟨rest, rfl, next, follows, leads⟩
    exact .step found follows leads

theorem leads_read {text : List Char} {next : Nat}
    (found : program[state]? = some (.read text next)) :
    Leads program steps state place ↔
      ∃ rest, steps = rest + 1 ∧ ∃ last, place.pass? text = some last ∧
        Leads program rest next last := by
  rw [leads_iff_follow found (by simp) []]
  simp only [Inst.follow]
  cases place.pass? text <;> simp

theorem leads_readOneOf {set : CharSet} {next : Nat}
    (found : program[state]? = some (.readOneOf set next)) :
    Leads program steps state place ↔
      ∃ rest, steps = rest + 1 ∧ ∃ c, set.contains c = true ∧ ∃ last,
        place.pass? [c] = some last ∧ Leads program rest next last := by
  rw [leads_iff_follow found (by simp) []]
  simp only [Inst.follow, Place.pass?_singleton]
  cases place.after with
  | nil => simp
  | cons c after =>
      by_cases member : set.contains c
      · simp only [member, ↓reduceIte, List.mem_singleton, exists_eq_left, List.cons.injEq]
        constructor
        · rintro ⟨rest, total, leads⟩
          exact ⟨rest, total, c, member, _, ⟨after, ⟨rfl, rfl⟩, rfl⟩, leads⟩
        · rintro ⟨rest, total, _, _, _, ⟨_, ⟨rfl, rfl⟩, rfl⟩, leads⟩
          exact ⟨rest, total, leads⟩
      · simp only [member, List.cons.injEq]
        constructor
        · rintro ⟨_, _, _, none, _⟩
          simp at none
        · rintro ⟨_, _, _, other, _, ⟨_, ⟨rfl, _⟩, _⟩, _⟩
          exact absurd other member

theorem leads_check {condition : Look} {next : Nat}
    (found : program[state]? = some (.check condition next)) :
    Leads program steps state place ↔
      ∃ rest, steps = rest + 1 ∧ condition.holds place.before place.after = true ∧
        Leads program rest next place := by
  rw [leads_iff_follow found (by simp) []]
  simp only [Inst.follow]
  by_cases holds : condition.holds place.before place.after <;> simp [holds, Thread.goTo]

theorem leads_mark {slot next : Nat} (found : program[state]? = some (.mark slot next)) :
    Leads program steps state place ↔
      ∃ rest, steps = rest + 1 ∧ Leads program rest next place := by
  rw [leads_iff_follow found (by simp) []]
  simp [Inst.follow]

theorem leads_fork {preferred other : Nat} (found : program[state]? = some (.fork preferred other)) :
    Leads program steps state place ↔
      ∃ rest, steps = rest + 1 ∧
        (Leads program rest preferred place ∨ Leads program rest other place) := by
  rw [leads_iff_follow found (by simp) []]
  simp [Inst.follow, Thread.goTo]

theorem leads_goto {next : Nat} (found : program[state]? = some (.goto next)) :
    Leads program steps state place ↔
      ∃ rest, steps = rest + 1 ∧ Leads program rest next place := by
  rw [leads_iff_follow found (by simp) []]
  simp [Inst.follow, Thread.goTo]

theorem leads_enterOrLeave {greedy : Bool} {body past : Nat}
    (found : program[state]? = some (Inst.enterOrLeave greedy body past)) :
    Leads program steps state place ↔
      ∃ rest, steps = rest + 1 ∧
        (Leads program rest body place ∨ Leads program rest past place) := by
  cases greedy with
  | true => exact leads_fork found
  | false =>
      have forks : program[state]? = some (.fork past body) := found
      rw [leads_fork forks]
      simp only [or_comm]

end Steps

/-! ### Code that realises a relation -/

/-- The ways from state `start` go on from state `past` where the relation allows it, and they are
all such ways. -/
structure Realises (program : Array Inst) (start past : Nat) (relation : Place → Place → Prop) :
    Prop where
  sound : ∀ {steps : Nat} {first : Place}, Leads program steps start first →
    ∃ last rest, rest ≤ steps ∧ relation first last ∧ Leads program rest past last
  complete : ∀ {steps : Nat} {first last : Place}, relation first last →
    Leads program steps past last → ∃ total, Leads program total start first

namespace Realises

variable {program : Array Inst} {start middle past : Nat} {relation other : Place → Place → Prop}

theorem congr (realises : Realises program start past relation)
    (same : ∀ first last, relation first last ↔ other first last) :
    Realises program start past other where
  sound leads := by
    obtain ⟨last, rest, fewer, related, leadsRest⟩ := realises.sound leads
    exact ⟨last, rest, fewer, (same _ _).mp related, leadsRest⟩
  complete related leads := realises.complete ((same _ _).mpr related) leads

/-- No code realises staying at a place. -/
theorem refl : Realises program start start fun first last => last = first where
  sound leads := ⟨_, _, Nat.le_refl _, rfl, leads⟩
  complete related leads := ⟨_, related ▸ leads⟩

/-- Pieces of code in a row realise the relations one after the other. -/
theorem trans (realises : Realises program start middle relation)
    (next : Realises program middle past other) :
    Realises program start past fun first last =>
      ∃ place, relation first place ∧ other place last where
  sound leads := by
    obtain ⟨place, rest, fewer, related, leadsRest⟩ := realises.sound leads
    obtain ⟨last, others, fewerOthers, relatedNext, leadsOthers⟩ := next.sound leadsRest
    exact ⟨last, others, Nat.le_trans fewerOthers fewer, ⟨place, related, relatedNext⟩, leadsOthers⟩
  complete related leads := by
    obtain ⟨place, relatedFirst, relatedNext⟩ := related
    obtain ⟨_, leadsNext⟩ := next.complete relatedNext leads
    exact realises.complete relatedFirst leadsNext

/-- A fork realises either of what its two targets realise. -/
theorem fork {preferred second : Nat}
    (found : program[start]? = some (.fork preferred second))
    (first : Realises program preferred past relation)
    (next : Realises program second past other) :
    Realises program start past fun first last => relation first last ∨ other first last where
  sound leads := by
    obtain ⟨rest, rfl, either⟩ := (leads_fork found).mp leads
    cases either with
    | inl leads =>
        obtain ⟨last, others, fewer, related, leadsOthers⟩ := first.sound leads
        exact ⟨last, others, by omega, .inl related, leadsOthers⟩
    | inr leads =>
        obtain ⟨last, others, fewer, related, leadsOthers⟩ := next.sound leads
        exact ⟨last, others, by omega, .inr related, leadsOthers⟩
  complete related leads := by
    cases related with
    | inl related =>
        obtain ⟨total, leads⟩ := first.complete related leads
        exact ⟨total + 1, (leads_fork found).mpr ⟨total, rfl, .inl leads⟩⟩
    | inr related =>
        obtain ⟨total, leads⟩ := next.complete related leads
        exact ⟨total + 1, (leads_fork found).mpr ⟨total, rfl, .inr leads⟩⟩

/-- A fork that may be left at once or entered realises an optional part. -/
theorem optional {greedy : Bool} {body : Nat}
    (found : program[start]? = some (Inst.enterOrLeave greedy body past))
    (realises : Realises program body past relation) :
    Realises program start past fun first last => relation first last ∨ last = first := by
  cases greedy with
  | true => exact fork found realises refl
  | false =>
      have forks : program[start]? = some (.fork past body) := found
      exact (fork forks refl realises).congr fun _ _ => or_comm

/-- A fork after a body, which enters the body again or leaves it, realises any number of
rounds. -/
theorem loop {greedy : Bool} {body : Nat}
    (found : program[start]? = some (Inst.enterOrLeave greedy body past))
    (realises : Realises program body start relation) :
    Realises program start past fun first last => ∃ count, Iterated relation count first last where
  sound leads := by
    rename_i steps first
    -- Every round takes the step of the fork, so fewer steps are left for the rest.
    induction steps using Nat.strongRecOn generalizing first with
    | ind steps inductionHypothesis =>
        obtain ⟨rest, rfl, either⟩ := (leads_enterOrLeave found).mp leads
        cases either with
        | inl leads =>
            obtain ⟨place, others, fewer, related, leadsOthers⟩ := realises.sound leads
            obtain ⟨last, final, fewerFinal, ⟨count, iterated⟩, leadsFinal⟩ :=
              inductionHypothesis others (by omega) leadsOthers
            exact ⟨last, final, by omega, ⟨count + 1, place, related, iterated⟩, leadsFinal⟩
        | inr leads => exact ⟨first, rest, by omega, ⟨0, rfl⟩, leads⟩
  complete related leads := by
    obtain ⟨count, iterated⟩ := related
    rename_i steps first last
    induction count generalizing first with
    | zero =>
        obtain rfl : last = first := iterated
        exact ⟨steps + 1, (leads_enterOrLeave found).mpr ⟨steps, rfl, .inr leads⟩⟩
    | succ count inductionHypothesis =>
        obtain ⟨place, relatedFirst, iteratedRest⟩ := iterated
        obtain ⟨total, leadsStart⟩ := inductionHypothesis iteratedRest
        obtain ⟨more, leadsBody⟩ := realises.complete relatedFirst leadsStart
        exact ⟨more + 1, (leads_enterOrLeave found).mpr ⟨more, rfl, .inl leadsBody⟩⟩

end Realises

/-! ### The code of repetitions -/

section Repetition

variable {program : Array Inst} {part : Nat → Nat → List Inst} {length : Nat}
  {relation : Place → Place → Prop}

/-- Copies of a part realise as many rounds as there are copies. -/
theorem realises_copies
    (partLength : ∀ start past, (part start past).length = length)
    (realises : ∀ start past, LiesAt program start (part start past) →
      Realises program start past relation) :
    ∀ count start past : Nat,
      LiesAt program start (Expr.copies part length (count + 1) start past) →
      Realises program start past (Iterated relation (count + 1))
  | 0, start, past, lies =>
      (realises start past lies).congr fun first last => (iterated_one relation first last).symm
  | count + 1, start, past, lies => by
      obtain ⟨liesPart, liesRest⟩ := lies.copies partLength
      exact (realises start (start + length) liesPart).trans
        (realises_copies partLength realises count (start + length) past liesRest)

/-- Copies that are left to the state after them, of which there may be none. -/
theorem realises_copies_inPlace
    (partLength : ∀ start past, (part start past).length = length)
    (realises : ∀ start past, LiesAt program start (part start past) →
      Realises program start past relation)
    (count start : Nat)
    (lies : LiesAt program start (Expr.copies part length count start (start + count * length))) :
    Realises program start (start + count * length) (Iterated relation count) := by
  cases count with
  | zero =>
      rw [Nat.zero_mul, Nat.add_zero]
      exact Realises.refl
  | succ count => exact realises_copies partLength realises count start _ lies

/-- Rounds that may be left out realise any number of rounds up to theirs. -/
theorem realises_optionalRounds
    (partLength : ∀ start past, (part start past).length = length)
    (realises : ∀ start past, LiesAt program start (part start past) →
      Realises program start past relation) (greedy : Bool) :
    ∀ count start past : Nat,
      LiesAt program start (Expr.optionalRounds part length greedy (count + 1) start past) →
      Realises program start past fun first last =>
        ∃ rounds, rounds ≤ count + 1 ∧ Iterated relation rounds first last
  | 0, start, past, lies => by
      obtain ⟨found, liesPart⟩ := lies.cons
      refine (Realises.optional found (realises (start + 1) past liesPart)).congr ?_
      intro first last
      rw [iterated_upTo_succ]
      simp [Iterated]
  | count + 1, start, past, lies => by
      obtain ⟨found, liesPart, liesRest⟩ := lies.optionalRounds partLength
      have body := (realises (start + 1) (start + 1 + length) liesPart).trans
        (realises_optionalRounds partLength realises greedy count (start + 1 + length) past liesRest)
      refine (Realises.optional found body).congr ?_
      intro first last
      rw [iterated_upTo_succ]

end Repetition

/-! ### The code of expressions -/

private theorem realises_unbounded {program : Array Inst} {body : Expr} (greedy : Bool)
    (realises : ∀ start past, LiesAt program start (body.code start past) →
      Realises program start past body.Spans) :
    ∀ least start past : Nat,
      LiesAt program start ((Expr.rounds least none greedy body).code start past) →
      Realises program start past (Expr.rounds least none greedy body).Spans
  | 0, start, past, lies => by
      obtain ⟨found, liesBody, foundAgain⟩ := lies.anyRounds
      have bodyRealises := realises _ _ liesBody
      have again := Realises.loop foundAgain bodyRealises
      refine (Realises.optional found (bodyRealises.trans again)).congr ?_
      intro first last
      constructor
      · rintro (⟨middle, related, count, iterated⟩ | stays)
        · exact ⟨count + 1, Nat.zero_le _, middle, related, iterated⟩
        · exact ⟨0, Nat.zero_le _, stays⟩
      · rintro ⟨count, _, iterated⟩
        cases count with
        | zero => exact .inr iterated
        | succ count =>
            obtain ⟨middle, related, rest⟩ := iterated
            exact .inl ⟨middle, related, count, rest⟩
  | least + 1, start, past, lies => by
      obtain ⟨liesCopies, liesLast, foundAgain⟩ := lies.someRounds
      have copies := realises_copies_inPlace body.code_length realises least start liesCopies
      have bodyRealises := realises _ _ liesLast
      refine ((copies.trans bodyRealises).trans (Realises.loop foundAgain bodyRealises)).congr ?_
      intro first last
      constructor
      · rintro ⟨place, ⟨middle, iterated, related⟩, count, rest⟩
        refine ⟨least + (count + 1), by simp only [roundsAllowed]; omega, ?_⟩
        exact (iterated_add _ _ _ _ _).mpr ⟨middle, iterated, place, related, rest⟩
      · rintro ⟨count, allowed, iterated⟩
        obtain ⟨more, rfl⟩ := Nat.exists_eq_add_of_le (show least + 1 ≤ count from allowed)
        rw [Nat.add_assoc, Nat.add_comm 1 more] at iterated
        obtain ⟨middle, copied, place, related, rest⟩ := (iterated_add _ _ _ _ _).mp iterated
        exact ⟨place, ⟨middle, copied, related⟩, more, rest⟩

private theorem realises_bounded {program : Array Inst} {body : Expr} (greedy : Bool)
    (realises : ∀ start past, LiesAt program start (body.code start past) →
      Realises program start past body.Spans) (least bound start past : Nat)
    (lies : LiesAt program start ((Expr.rounds least (some bound) greedy body).code start past)) :
    Realises program start past (Expr.rounds least (some bound) greedy body).Spans := by
  by_cases noRound : bound = 0
  · subst noRound
    refine Realises.mk ?_ ?_
    · intro steps first leads
      obtain ⟨rest, rfl, leadsRest⟩ := (leads_goto lies.noRounds).mp leads
      exact ⟨first, rest, by omega, ⟨0, rfl, rfl⟩, leadsRest⟩
    · rintro steps first last ⟨count, allowed, iterated⟩ leads
      obtain rfl : count = 0 := allowed
      obtain rfl : last = first := iterated
      exact ⟨steps + 1, (leads_goto lies.noRounds).mpr ⟨steps, rfl, leads⟩⟩
  · rcases lies.boundedRounds noRound with ⟨below, liesCopies⟩ | ⟨above, liesCopies, liesOptional⟩
    · obtain ⟨fewer, rfl⟩ := Nat.exists_eq_add_of_le' (show 1 ≤ least by omega)
      refine (realises_copies body.code_length realises fewer start past liesCopies).congr ?_
      intro first last
      constructor
      · intro iterated
        exact ⟨fewer + 1, by simp only [roundsAllowed, noRound, ↓reduceIte]; omega, iterated⟩
      · rintro ⟨count, allowed, iterated⟩
        obtain rfl : count = fewer + 1 := by
          simp only [roundsAllowed, noRound, ↓reduceIte] at allowed
          omega
        exact iterated
    · obtain ⟨extra, extraEq⟩ := Nat.exists_eq_add_of_le' (show 1 ≤ bound - least by omega)
      rw [extraEq] at liesOptional
      have copies := realises_copies_inPlace body.code_length realises least start liesCopies
      refine (copies.trans (realises_optionalRounds body.code_length realises greedy extra _ past
        liesOptional)).congr ?_
      intro first last
      constructor
      · rintro ⟨middle, copied, count, within, iterated⟩
        refine ⟨least + count, by simp only [roundsAllowed, noRound, ↓reduceIte]; omega, ?_⟩
        exact (iterated_add _ _ _ _ _).mpr ⟨middle, copied, iterated⟩
      · rintro ⟨count, allowed, iterated⟩
        simp only [roundsAllowed, noRound, ↓reduceIte] at allowed
        obtain ⟨more, rfl⟩ := Nat.exists_eq_add_of_le allowed.1
        obtain ⟨middle, copied, rest⟩ := (iterated_add _ _ _ _ _).mp iterated
        exact ⟨middle, copied, more, by omega, rest⟩

/-- The code of an expression realises its matches, wherever it lies. -/
theorem realises_code {program : Array Inst} (expr : Expr) (start past : Nat)
    (lies : LiesAt program start (expr.code start past)) :
    Realises program start past expr.Spans := by
  induction expr generalizing start past with
  | empty =>
      refine Realises.mk ?_ ?_
      · intro steps first leads
        obtain ⟨rest, rfl, leadsRest⟩ := (leads_goto lies.singleton).mp leads
        exact ⟨first, rest, by omega, rfl, leadsRest⟩
      · rintro steps first last rfl leads
        exact ⟨steps + 1, (leads_goto lies.singleton).mpr ⟨steps, rfl, leads⟩⟩
  | literal text =>
      refine Realises.mk ?_ ?_
      · intro steps first leads
        obtain ⟨rest, rfl, last, passes, leadsRest⟩ := (leads_read lies.singleton).mp leads
        exact ⟨last, rest, by omega, passes, leadsRest⟩
      · intro steps first last passes leads
        exact ⟨steps + 1, (leads_read lies.singleton).mpr ⟨steps, rfl, last, passes, leads⟩⟩
  | oneOf set =>
      refine Realises.mk ?_ ?_
      · intro steps first leads
        obtain ⟨rest, rfl, c, member, last, passes, leadsRest⟩ :=
          (leads_readOneOf lies.singleton).mp leads
        exact ⟨last, rest, by omega, ⟨c, member, passes⟩, leadsRest⟩
      · rintro steps first last ⟨c, member, passes⟩ leads
        exact ⟨steps + 1,
          (leads_readOneOf lies.singleton).mpr ⟨steps, rfl, c, member, last, passes, leads⟩⟩
  | look condition =>
      refine Realises.mk ?_ ?_
      · intro steps first leads
        obtain ⟨rest, rfl, holds, leadsRest⟩ := (leads_check lies.singleton).mp leads
        exact ⟨first, rest, by omega, ⟨holds, rfl⟩, leadsRest⟩
      · rintro steps first last ⟨holds, rfl⟩ leads
        exact ⟨steps + 1, (leads_check lies.singleton).mpr ⟨steps, rfl, holds, leads⟩⟩
  | group index body inductionHypothesis =>
      obtain ⟨opens, liesBody, closes⟩ := lies.group
      have bodyRealises := inductionHypothesis _ _ liesBody
      refine Realises.mk ?_ ?_
      · intro steps first leads
        obtain ⟨inside, rfl, leadsBody⟩ := (leads_mark opens).mp leads
        obtain ⟨last, rest, fewer, spans, leadsClose⟩ := bodyRealises.sound leadsBody
        obtain ⟨final, rfl, leadsPast⟩ := (leads_mark closes).mp leadsClose
        exact ⟨last, final, by omega, spans, leadsPast⟩
      · intro steps first last spans leads
        have leadsClose := (leads_mark closes).mpr ⟨steps, rfl, leads⟩
        obtain ⟨total, leadsBody⟩ := bodyRealises.complete spans leadsClose
        exact ⟨total + 1, (leads_mark opens).mpr ⟨total, rfl, leadsBody⟩⟩
  | sequence left right leftHypothesis rightHypothesis =>
      obtain ⟨liesLeft, liesRight⟩ := lies.sequence
      exact (leftHypothesis _ _ liesLeft).trans (rightHypothesis _ _ liesRight)
  | choice left right leftHypothesis rightHypothesis =>
      obtain ⟨found, liesLeft, liesRight⟩ := lies.choice
      exact Realises.fork found (leftHypothesis _ _ liesLeft) (rightHypothesis _ _ liesRight)
  | rounds least most greedy body inductionHypothesis =>
      cases most with
      | none => exact realises_unbounded greedy inductionHypothesis least start past lies
      | some bound => exact realises_bounded greedy inductionHypothesis least bound start past lies

end Stencil.Regex
