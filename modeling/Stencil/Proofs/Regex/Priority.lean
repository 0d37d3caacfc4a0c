import Mathlib.Logic.Relation
import Stencil.Proofs.Regex.Exploration

/-!
The way that a search finds.

Owns `Yields`, which tells what a thread comes to when its ways are followed in the order of
preference, without a record of what was tried. The main statement is `search_eq_of_yields`: where
the first thread of a program yields anything, the search with its record gives the same. What was
tried before either fails or lies on the way to the thread that is followed, and no way leads back to
where it was.

A program that repeats an empty match has threads that yield nothing; of those nothing is told here.
-/

namespace Stencil.Regex

/-! ### What a thread comes to -/

/-- The marks of the preferred way from a thread to `accept`, or that it has none. All ways of the
thread end, also those that come after the preferred one. -/
inductive Yields (program : Array Inst) : Thread → Option (List (Nat × Nat)) → Prop where
  | outside {thread : Thread} (outside : program[thread.state]? = none) : Yields program thread none
  | accept {thread : Thread} (found : program[thread.state]? = some .accept) :
      Yields program thread (some thread.marks)
  | stuck {thread : Thread} {inst : Inst} (found : program[thread.state]? = some inst)
      (goesOn : inst ≠ .accept) (follow : inst.follow thread = []) : Yields program thread none
  | only {thread next : Thread} {inst : Inst} {result : Option (List (Nat × Nat))}
      (found : program[thread.state]? = some inst) (follow : inst.follow thread = [next])
      (rest : Yields program next result) : Yields program thread result
  | either {thread preferred other : Thread} {inst : Inst}
      {result otherResult : Option (List (Nat × Nat))}
      (found : program[thread.state]? = some inst) (follow : inst.follow thread = [preferred, other])
      (first : Yields program preferred result) (second : Yields program other otherResult) :
      Yields program thread (result.or otherResult)

section Results

variable {program : Array Inst} {thread : Thread} {result : Option (List (Nat × Nat))}

theorem ne_accept_of_follow {inst : Inst} {next : Thread} (follows : next ∈ inst.follow thread) :
    inst ≠ .accept := by
  rintro rfl
  simp [Inst.follow] at follows

/-- A thread yields marks exactly if it can reach `accept`. -/
theorem Yields.isSome_iff (yields : Yields program thread result) :
    result.isSome = true ↔ CanAccept program thread := by
  induction yields with
  | outside outside => simpa using not_canAccept_of_none outside
  | accept found => simpa using ⟨0, .accept found⟩
  | stuck found goesOn follow =>
      simp only [Option.isSome_none, Bool.false_eq_true, false_iff]
      intro canAccept
      obtain ⟨next, follows, _⟩ := canAccept.exists_follow found goesOn
      simp [follow] at follows
  | @only thread next inst result found follow rest inductionHypothesis =>
      have follows : next ∈ inst.follow thread := by simp [follow]
      rw [inductionHypothesis]
      constructor
      · exact fun canAccept => canAccept.of_follow found follows
      · intro canAccept
        obtain ⟨other, followsOther, canAcceptOther⟩ :=
          canAccept.exists_follow found (ne_accept_of_follow follows)
        obtain rfl : other = next := by simpa [follow] using followsOther
        exact canAcceptOther
  | @either thread preferred other inst result otherResult found follow first second
      firstHypothesis secondHypothesis =>
      have followsFirst : preferred ∈ inst.follow thread := by simp [follow]
      have followsSecond : other ∈ inst.follow thread := by simp [follow]
      rw [Option.isSome_or, Bool.or_eq_true, firstHypothesis, secondHypothesis]
      constructor
      · rintro (canAccept | canAccept)
        · exact canAccept.of_follow found followsFirst
        · exact canAccept.of_follow found followsSecond
      · intro canAccept
        obtain ⟨next, follows, canAcceptNext⟩ :=
          canAccept.exists_follow found (ne_accept_of_follow followsFirst)
        simp only [follow, List.mem_cons, List.not_mem_nil, or_false] at follows
        rcases follows with rfl | rfl
        · exact .inl canAcceptNext
        · exact .inr canAcceptNext

end Results

/-! ### No way leads back -/

/-- Where a thread stands, apart from its marks. -/
def Thread.spot (thread : Thread) : Nat × Place := (thread.state, thread.place)

/-- One step of the program leads from one spot to the other. -/
def Follows (program : Array Inst) (spot next : Nat × Place) : Prop :=
  ∃ inst, program[spot.1]? = some inst ∧
    ∃ thread ∈ inst.follow ⟨spot.1, spot.2, []⟩, thread.spot = next

section Spots

variable {program : Array Inst} {thread next : Thread} {inst : Inst}

theorem follows_of_mem (found : program[thread.state]? = some inst)
    (follows : next ∈ inst.follow thread) : Follows program thread.spot next.spot := by
  obtain ⟨twin, member, state, place⟩ := follow_otherMarks follows []
  exact ⟨inst, found, twin, member, Prod.ext state place⟩

theorem exists_mem_of_follows {spot : Nat × Place} (found : program[thread.state]? = some inst)
    (follows : Follows program thread.spot spot) : ∃ next ∈ inst.follow thread, next.spot = spot := by
  obtain ⟨other, foundOther, twin, member, rfl⟩ := follows
  obtain rfl : inst = other := Option.some.inj (found.symm.trans foundOther)
  obtain ⟨next, memberNext, state, place⟩ := follow_otherMarks member thread.marks
  exact ⟨next, memberNext, Prod.ext state place⟩

/-- A thread from whose followers no way leads back to them is on no way back to itself. -/
private theorem not_returns (found : program[thread.state]? = some inst)
    (ahead : ∀ next ∈ inst.follow thread,
      ¬Relation.TransGen (Follows program) next.spot next.spot) :
    ¬Relation.TransGen (Follows program) thread.spot thread.spot := by
  intro returns
  obtain ⟨spot, follows, onward⟩ := Relation.TransGen.head'_iff.mp returns
  obtain ⟨next, member, rfl⟩ := exists_mem_of_follows found follows
  exact ahead next member (Relation.TransGen.tail' onward follows)

/-- All ways of a thread that yields end, so none of them leads back to it. -/
theorem Yields.not_returns {result : Option (List (Nat × Nat))}
    (yields : Yields program thread result) :
    ¬Relation.TransGen (Follows program) thread.spot thread.spot := by
  induction yields with
  | @outside thread outside =>
      intro returns
      obtain ⟨_, ⟨inst, found, _⟩, _⟩ := Relation.TransGen.head'_iff.mp returns
      rw [show program[thread.spot.1]? = none from outside] at found
      exact absurd found (by simp)
  | accept found => exact Regex.not_returns found (by simp [Inst.follow])
  | stuck found goesOn follow => exact Regex.not_returns found (by simp [follow])
  | only found follow rest inductionHypothesis =>
      refine Regex.not_returns found ?_
      simpa [follow] using inductionHypothesis
  | either found follow first second firstHypothesis secondHypothesis =>
      refine Regex.not_returns found ?_
      simpa [follow] using ⟨firstHypothesis, secondHypothesis⟩

end Spots

/-! ### The record of a search -/

section Record

variable {program : Array Inst} {text : List Char} {visited later : Visited}
  {thread next : Thread} {others : List Thread} {marks : List (Nat × Nat)}
  {result : Option (List (Nat × Nat))}

/-- What was tried fails, or lies on the way to the thread. -/
def TriedOnTheWay (program : Array Inst) (text : List Char) (visited : Visited) (thread : Thread) :
    Prop :=
  ∀ tried : Thread, tried.place.InText text →
    visited.contains tried.state tried.place.offset = true →
    ¬CanAccept program tried ∨ Relation.TransGen (Follows program) tried.spot thread.spot

/-- A run gives its marks from the other threads, and what was tried since then fails. -/
def LeftToOthers (program : Array Inst) (text : List Char) (visited : Visited)
    (others : List Thread) (marks : List (Nat × Nat)) : Prop :=
  ∃ rounds later, run program rounds later others = some marks ∧
    later.Fits program.size text.length ∧
    ∀ tried : Thread, tried.place.InText text →
      later.contains tried.state tried.place.offset = true →
      visited.contains tried.state tried.place.offset = true ∨ ¬CanAccept program tried

theorem CanAccept.of_spot {other : Thread} (canAccept : CanAccept program thread)
    (same : other.spot = thread.spot) : CanAccept program other := by
  obtain ⟨steps, leads⟩ := canAccept
  obtain ⟨state, place⟩ := Prod.ext_iff.mp same
  refine ⟨steps, ?_⟩
  rw [show other.state = thread.state from state, show other.place = thread.place from place]
  exact leads

/-- Once a thread is noted, what was tried lies on the way to the threads that follow, and so it
remains as long as only failures are noted. -/
theorem TriedOnTheWay.follow (onTheWay : TriedOnTheWay program text visited thread)
    (fits : visited.Fits program.size text.length) (inText : thread.place.InText text) {inst : Inst}
    (found : program[thread.state]? = some inst) (follows : next ∈ inst.follow thread)
    (onlyFailures : ∀ tried : Thread, tried.place.InText text →
      later.contains tried.state tried.place.offset = true →
      (visited.insert thread.state thread.place.offset).contains tried.state tried.place.offset =
        true ∨ ¬CanAccept program tried) :
    TriedOnTheWay program text later next := by
  have inStates : thread.state < program.size := (Array.getElem?_eq_some_iff.mp found).1
  have step : Follows program thread.spot next.spot := follows_of_mem found follows
  intro tried triedInText contained
  rcases onlyFailures tried triedInText contained with noted | fails
  · rw [fits.contains_insert inStates inText.offset_le] at noted
    rcases noted with earlier | ⟨state, offset⟩
    · rcases onTheWay tried triedInText earlier with fails | leads
      · exact .inl fails
      · exact .inr (leads.tail step)
    · have same : tried.spot = thread.spot :=
        Prod.ext state (triedInText.eq_of_offset inText offset)
      rw [same]
      exact .inr (.single step)
  · exact .inl fails

/-- If a thread fails, noting it notes a failure. -/
theorem LeftToOthers.of_insert
    (left : LeftToOthers program text (visited.insert thread.state thread.place.offset) others marks)
    (fits : visited.Fits program.size text.length) (inText : thread.place.InText text)
    (inStates : thread.state < program.size) (fails : ¬CanAccept program thread) :
    LeftToOthers program text visited others marks := by
  obtain ⟨rounds, later, result, fitsLater, onlyFailures⟩ := left
  refine ⟨rounds, later, result, fitsLater, fun tried triedInText contained => ?_⟩
  rcases onlyFailures tried triedInText contained with noted | triedFails
  · rw [fits.contains_insert inStates inText.offset_le] at noted
    rcases noted with earlier | ⟨state, offset⟩
    · exact .inl earlier
    · have same : thread.spot = tried.spot :=
        Prod.ext state.symm (inText.eq_of_offset triedInText offset.symm)
      exact .inr fun canAccept => fails (canAccept.of_spot same)
  · exact .inr triedFails

/-- A run that comes to a thread gives what the thread yields, or leaves it to the others if the
thread yields none. -/
def Delivers (program : Array Inst) (text : List Char) (thread : Thread)
    (result : Option (List (Nat × Nat))) : Prop :=
  ∀ (rounds : Nat) (visited : Visited) (others : List Thread) (marks : List (Nat × Nat)),
    run program rounds visited (thread :: others) = some marks →
    visited.Fits program.size text.length → TriedOnTheWay program text visited thread →
    result = some marks ∨ (result = none ∧ LeftToOthers program text visited others marks)

/-- A thread that was tried fails, as no way leads back to it, so only what was not tried needs a
look. -/
private theorem delivers_of_fresh (yields : Yields program thread result)
    (inText : thread.place.InText text)
    (fresh : ∀ (rounds : Nat) (visited : Visited) (others : List Thread)
        (marks : List (Nat × Nat)),
      visited.contains thread.state thread.place.offset = false →
      run program (rounds + 1) visited (thread :: others) = some marks →
      visited.Fits program.size text.length → TriedOnTheWay program text visited thread →
      result = some marks ∨ (result = none ∧ LeftToOthers program text visited others marks)) :
    Delivers program text thread result := by
  intro rounds visited others marks runs fits onTheWay
  cases rounds with
  | zero => simp [run] at runs
  | succ rounds =>
      cases tried : visited.contains thread.state thread.place.offset with
      | false => exact fresh rounds visited others marks tried runs fits onTheWay
      | true =>
          have fails : ¬CanAccept program thread := by
            rcases onTheWay thread inText tried with fails | returns
            · exact fails
            · exact absurd returns yields.not_returns
          rw [← yields.isSome_iff, Option.not_isSome_iff_eq_none] at fails
          rw [run, if_pos tried] at runs
          exact .inr ⟨fails, rounds, visited, runs, fits, fun _ _ contained => .inl contained⟩

/-- A thread that was not tried gives way to those that follow it. -/
private theorem run_follow {inst : Inst} (rounds : Nat)
    (fresh : visited.contains thread.state thread.place.offset = false)
    (found : program[thread.state]? = some inst) (goesOn : inst ≠ .accept) :
    run program (rounds + 1) visited (thread :: others) =
      run program rounds (visited.insert thread.state thread.place.offset)
        (inst.follow thread ++ others) := by
  rw [run, fresh, found]
  cases inst <;> simp_all

theorem Yields.delivers (yields : Yields program thread result)
    (inText : thread.place.InText text) : Delivers program text thread result := by
  induction yields with
  | outside outside =>
      refine delivers_of_fresh (.outside outside) inText fun rounds visited others marks fresh => ?_
      intro runs fits onTheWay
      rw [run, fresh, outside] at runs
      exact .inr ⟨rfl, rounds, visited, runs, fits, fun _ _ contained => .inl contained⟩
  | accept found =>
      refine delivers_of_fresh (.accept found) inText fun rounds visited others marks fresh => ?_
      intro runs _ _
      rw [run, fresh, found] at runs
      exact .inl runs
  | @stuck thread inst found goesOn follow =>
      have yields : Yields program thread none := .stuck found goesOn follow
      have fails : ¬CanAccept program thread := by simp [← yields.isSome_iff]
      refine delivers_of_fresh yields inText fun rounds visited others marks fresh => ?_
      intro runs fits onTheWay
      have inStates : thread.state < program.size := (Array.getElem?_eq_some_iff.mp found).1
      rw [run_follow rounds fresh found goesOn, follow, List.nil_append] at runs
      have left : LeftToOthers program text (visited.insert thread.state thread.place.offset) others
          marks :=
        ⟨rounds, _, runs, fits.insert _ _, fun _ _ contained => .inl contained⟩
      exact .inr ⟨rfl, left.of_insert fits inText inStates fails⟩
  | @only thread next inst result found follow rest inductionHypothesis =>
      have yields : Yields program thread result := .only found follow rest
      have follows : next ∈ inst.follow thread := by simp [follow]
      refine delivers_of_fresh yields inText fun rounds visited others marks fresh => ?_
      intro runs fits onTheWay
      have inStates : thread.state < program.size := (Array.getElem?_eq_some_iff.mp found).1
      rw [run_follow rounds fresh found (ne_accept_of_follow follows), follow] at runs
      rcases inductionHypothesis (follow_inText inText follows) _ _ _ _ runs (fits.insert _ _)
          (onTheWay.follow fits inText found follows fun _ _ contained => .inl contained) with
        gives | ⟨none, left⟩
      · exact .inl gives
      · refine .inr ⟨none, left.of_insert fits inText inStates ?_⟩
        rw [← yields.isSome_iff, none]
        simp
  | @either thread preferred other inst result otherResult found follow first second
      firstHypothesis secondHypothesis =>
      have yields : Yields program thread (result.or otherResult) :=
        .either found follow first second
      have followsFirst : preferred ∈ inst.follow thread := by simp [follow]
      have followsSecond : other ∈ inst.follow thread := by simp [follow]
      refine delivers_of_fresh yields inText fun rounds visited others marks fresh => ?_
      intro runs fits onTheWay
      have inStates : thread.state < program.size := (Array.getElem?_eq_some_iff.mp found).1
      rw [run_follow rounds fresh found (ne_accept_of_follow followsFirst), follow] at runs
      rcases firstHypothesis (follow_inText inText followsFirst) _ _ _ _ runs (fits.insert _ _)
          (onTheWay.follow fits inText found followsFirst fun _ _ contained => .inl contained) with
        gives | ⟨rfl, roundsLeft, later, runsLater, fitsLater, onlyFailures⟩
      · exact .inl (by rw [gives, Option.some_or])
      · rcases secondHypothesis (follow_inText inText followsSecond) _ _ _ _ runsLater fitsLater
            (onTheWay.follow fits inText found followsSecond onlyFailures) with
          gives | ⟨rfl, roundsEnd, final, runsFinal, fitsFinal, onlyFailuresFinal⟩
        · exact .inl (by rw [gives, Option.none_or])
        · have left : LeftToOthers program text
              (visited.insert thread.state thread.place.offset) others marks := by
            refine ⟨roundsEnd, final, runsFinal, fitsFinal, fun tried triedInText contained => ?_⟩
            rcases onlyFailuresFinal tried triedInText contained with earlier | fails
            · exact onlyFailures tried triedInText earlier
            · exact .inr fails
          refine .inr ⟨rfl, left.of_insert fits inText inStates ?_⟩
          simp [← yields.isSome_iff]

end Record

/-! ### Searches -/

/-- A search gives what the first thread of the program yields. -/
theorem search_eq_of_yields {program : Array Inst} {text : List Char}
    {result : Option (List (Nat × Nat))}
    (yields : Yields program ⟨0, Place.start text, []⟩ result) : search program text = result := by
  have sameSuccess : (search program text).isSome = result.isSome := by
    rw [Bool.eq_iff_iff, search_isSome_iff, yields.isSome_iff]
  cases found : search program text with
  | none =>
      rw [found, Option.isSome_none, eq_comm, Option.isSome_eq_false_iff] at sameSuccess
      exact (Option.isNone_iff_eq_none.mp sameSuccess).symm
  | some marks =>
      rcases yields.delivers (Place.inText_start text) _ _ _ _ found (Visited.fits_none _ _)
          (fun tried _ contained => by simp [Visited.contains_none] at contained) with
        gives | ⟨_, _, _, runs, _, _⟩
      · exact gives.symm
      · exact absurd (run_sound _ _ _ runs) (by simp)

end Stencil.Regex
