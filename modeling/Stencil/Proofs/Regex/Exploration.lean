import Mathlib.Data.Finset.Card
import Mathlib.Data.Finset.Prod
import Stencil.Proofs.Regex.Path

/-!
The search with a record of what was tried.

Owns the view of the record as the set of what is still untried, the invariants of `run`, and what
they amount to: `run` finds a way exactly if there is one (`run_sound`, `run_complete`), within the
rounds that `search` allows. The main statement is `search_isSome_iff`, which holds for every program
that an expression is laid out as.

Which way is found is not told here.
-/

namespace Stencil.Regex

/-! ### Places of a text -/

namespace Place

/-- The place stands in the text: the characters before it and after it make up the text. -/
def InText (text : List Char) (place : Place) : Prop :=
  ∃ done, text = done ++ place.after ∧ place.offset = done.length ∧ place.before = done.getLast?

variable {text : List Char} {place : Place}

theorem inText_start (text : List Char) : (start text).InText text :=
  ⟨[], rfl, rfl, rfl⟩

theorem InText.offset_le (inText : place.InText text) : place.offset ≤ text.length := by
  obtain ⟨done, rfl, offset, _⟩ := inText
  rw [offset, List.length_append]
  omega

/-- What comes after a place is the rest of the text from its offset on. -/
theorem InText.after_eq (inText : place.InText text) : place.after = text.drop place.offset := by
  obtain ⟨done, rfl, offset, _⟩ := inText
  rw [offset, List.drop_left]

theorem InText.before_eq (inText : place.InText text) :
    place.before = (text.take place.offset).getLast? := by
  obtain ⟨done, rfl, offset, before⟩ := inText
  rw [offset, List.take_left, before]

/-- A place of a text is determined by its offset. -/
theorem InText.eq_of_offset {other : Place} (inText : place.InText text)
    (otherInText : other.InText text) (same : place.offset = other.offset) : place = other := by
  have after := inText.after_eq
  have before := inText.before_eq
  rw [same, ← otherInText.after_eq] at after
  rw [same, ← otherInText.before_eq] at before
  cases place
  cases other
  simp only at after before same
  rw [after, before, same]

/-- Only the first place of a text has no character before it. -/
theorem InText.eq_start (inText : place.InText text) (atStart : place.before = none) :
    place = start text := by
  refine inText.eq_of_offset (inText_start text) ?_
  obtain ⟨done, _, offset, before⟩ := inText
  rw [atStart] at before
  rw [offset, List.getLast?_eq_none_iff.mp before.symm]
  rfl

theorem InText.pass {passed : List Char} {last : Place} (inText : place.InText text)
    (passes : place.pass? passed = some last) : last.InText text := by
  induction passed generalizing place with
  | nil =>
      obtain rfl : place = last := by simpa using passes
      exact inText
  | cons c rest inductionHypothesis =>
      rw [show c :: rest = [c] ++ rest from rfl, pass?_append, Option.bind_eq_some_iff] at passes
      obtain ⟨middle, passesFirst, passesRest⟩ := passes
      apply inductionHypothesis _ passesRest
      obtain ⟨after, read, rfl⟩ := pass?_singleton.mp passesFirst
      obtain ⟨done, whole, offset, _⟩ := inText
      refine ⟨done ++ [c], ?_, ?_, ?_⟩
      · rw [whole, read, List.append_assoc]
        rfl
      · simp [offset]
      · simp

end Place

/-! ### Threads that follow -/

/-- The threads that follow stand at the same place or after the characters that were read. -/
theorem follow_passes {inst : Inst} {thread next : Thread} (follows : next ∈ inst.follow thread) :
    ∃ passed, thread.place.pass? passed = some next.place := by
  cases inst with
  | read text target =>
      simp only [Inst.follow] at follows
      split at follows
      next place passes =>
        obtain rfl : next = _ := by simpa using follows
        exact ⟨text, passes⟩
      next => simp at follows
  | readOneOf set target =>
      simp only [Inst.follow] at follows
      split at follows
      next c after read =>
        split at follows
        next =>
          obtain rfl : next = _ := by simpa using follows
          exact ⟨[c], Place.pass?_singleton.mpr ⟨after, read, rfl⟩⟩
        next => simp at follows
      next => simp at follows
  | check condition target =>
      simp only [Inst.follow] at follows
      split at follows
      next =>
        obtain rfl : next = _ := by simpa using follows
        exact ⟨[], rfl⟩
      next => simp at follows
  | mark slot target =>
      obtain rfl : next = _ := by simpa [Inst.follow] using follows
      exact ⟨[], rfl⟩
  | fork preferred other =>
      simp only [Inst.follow, List.mem_cons, List.not_mem_nil, or_false] at follows
      rcases follows with rfl | rfl
      · exact ⟨[], rfl⟩
      · exact ⟨[], rfl⟩
  | goto target =>
      obtain rfl : next = _ := by simpa [Inst.follow] using follows
      exact ⟨[], rfl⟩
  | accept => simp [Inst.follow] at follows

theorem follow_inText {text : List Char} {inst : Inst} {thread next : Thread}
    (inText : thread.place.InText text) (follows : next ∈ inst.follow thread) :
    next.place.InText text := by
  obtain ⟨passed, passes⟩ := follow_passes follows
  exact inText.pass passes

theorem follow_length_le (inst : Inst) (thread : Thread) : (inst.follow thread).length ≤ 2 := by
  unfold Inst.follow
  split <;> (try split) <;> (try split) <;> simp

/-! ### The record -/

namespace Visited

/-- The record has room for the states before `states` at the places up to `lastOffset`. -/
structure Fits (visited : Visited) (states lastOffset : Nat) : Prop where
  rows : visited.rows.size = lastOffset + 1
  words : ∀ (offset : Nat) (row : Array Nat), visited.rows[offset]? = some row →
    row.size = states / wordLength + 1

variable {visited : Visited} {states lastOffset : Nat}

theorem fits_none (states lastOffset : Nat) : (none states lastOffset).Fits states lastOffset where
  rows := by simp [none]
  words offset row found := by
    simp only [none, Array.getElem?_replicate] at found
    split at found
    · obtain rfl := Option.some.inj found
      simp
    · simp at found

theorem Fits.insert (fits : visited.Fits states lastOffset) (state offset : Nat) :
    (visited.insert state offset).Fits states lastOffset where
  rows := by simp [Visited.insert, fits.rows]
  words place row found := by
    simp only [Visited.insert, Array.getElem?_modify] at found
    split at found
    · simp only [Option.map_eq_some_iff] at found
      obtain ⟨old, foundOld, rfl⟩ := found
      rw [Array.size_modify]
      exact fits.words place old foundOld
    · exact fits.words place row found

/-- Noting a state at a place adds just this to the record. -/
theorem Fits.contains_insert (fits : visited.Fits states lastOffset) {state offset : Nat}
    (inStates : state < states) (inPlaces : offset ≤ lastOffset) (other place : Nat) :
    (visited.insert state offset).contains other place = true ↔
      visited.contains other place = true ∨ (other = state ∧ place = offset) := by
  have inRows : offset < visited.rows.size := by
    rw [fits.rows]
    omega
  have found : visited.rows[offset]? = some visited.rows[offset] := Array.getElem?_eq_getElem inRows
  have inRow : state / wordLength < visited.rows[offset].size := by
    rw [fits.words offset _ found]
    exact Nat.lt_succ_of_le (Nat.div_le_div_right (Nat.le_of_lt inStates))
  rw [Visited.contains_insert found inRow]
  simp

/-- What was not yet tried. -/
def untried (visited : Visited) (states lastOffset : Nat) : Finset (Nat × Nat) :=
  (Finset.range states ×ˢ Finset.range (lastOffset + 1)).filter fun tried =>
    visited.contains tried.1 tried.2 = false

theorem card_untried_none_le (states lastOffset : Nat) :
    ((none states lastOffset).untried states lastOffset).card ≤ states * (lastOffset + 1) := by
  refine (Finset.card_filter_le _ _).trans ?_
  simp

/-- Noting what was untried leaves one thing less to try. -/
theorem Fits.card_untried_insert (fits : visited.Fits states lastOffset) {state offset : Nat}
    (inStates : state < states) (inPlaces : offset ≤ lastOffset)
    (fresh : visited.contains state offset = false) :
    ((visited.insert state offset).untried states lastOffset).card + 1 =
      (visited.untried states lastOffset).card := by
  have member : (state, offset) ∈ visited.untried states lastOffset := by
    simp only [untried, Finset.mem_filter, Finset.mem_product, Finset.mem_range]
    exact ⟨⟨inStates, by omega⟩, fresh⟩
  have erased : (visited.insert state offset).untried states lastOffset =
      (visited.untried states lastOffset).erase (state, offset) := by
    ext tried
    simp only [untried, Finset.mem_filter, Finset.mem_erase, Bool.eq_false_iff, ne_eq,
      fits.contains_insert inStates inPlaces, Prod.ext_iff]
    tauto
  rw [erased, Finset.card_erase_of_mem member]
  exact Nat.sub_add_cancel (Finset.card_pos.mpr ⟨_, member⟩)

end Visited

/-! ### Runs -/

/-- The program can reach `accept` from where the thread stands. -/
def CanAccept (program : Array Inst) (thread : Thread) : Prop :=
  ∃ steps, Leads program steps thread.state thread.place

theorem CanAccept.of_follow {program : Array Inst} {inst : Inst} {thread next : Thread}
    (found : program[thread.state]? = some inst) (follows : next ∈ inst.follow thread)
    (canAccept : CanAccept program next) : CanAccept program thread := by
  obtain ⟨steps, leads⟩ := canAccept
  exact ⟨steps + 1, .step found follows leads⟩

theorem CanAccept.exists_follow {program : Array Inst} {inst : Inst} {thread : Thread}
    (found : program[thread.state]? = some inst) (goesOn : inst ≠ .accept)
    (canAccept : CanAccept program thread) :
    ∃ next ∈ inst.follow thread, CanAccept program next := by
  obtain ⟨steps, leads⟩ := canAccept
  obtain ⟨rest, _, next, follows, leadsNext⟩ := (leads_iff_follow found goesOn thread.marks).mp leads
  exact ⟨next, follows, rest, leadsNext⟩

theorem not_canAccept_of_none {program : Array Inst} {thread : Thread}
    (outside : program[thread.state]? = none) : ¬CanAccept program thread := by
  rintro ⟨steps, leads⟩
  cases leads with
  | accept found => simp [outside] at found
  | step found _ _ => simp [outside] at found

/-- A run that ends in `accept` followed one of its threads. -/
theorem run_sound {program : Array Inst} {marks : List (Nat × Nat)} (rounds : Nat)
    (visited : Visited) (stack : List Thread) (result : run program rounds visited stack = some marks) :
    ∃ thread ∈ stack, CanAccept program thread := by
  induction rounds generalizing visited stack with
  | zero => simp [run] at result
  | succ rounds inductionHypothesis =>
      cases stack with
      | nil => simp [run] at result
      | cons thread others =>
          rw [run] at result
          split at result
          · obtain ⟨other, member, canAccept⟩ := inductionHypothesis _ _ result
            exact ⟨other, List.mem_cons_of_mem _ member, canAccept⟩
          · split at result
            next found => exact ⟨thread, List.mem_cons_self, 0, .accept found⟩
            next inst _ found =>
              obtain ⟨other, member, canAccept⟩ := inductionHypothesis _ _ result
              rcases List.mem_append.mp member with follows | member
              · exact ⟨thread, List.mem_cons_self, canAccept.of_follow found follows⟩
              · exact ⟨other, List.mem_cons_of_mem _ member, canAccept⟩
            next =>
              obtain ⟨other, member, canAccept⟩ := inductionHypothesis _ _ result
              exact ⟨other, List.mem_cons_of_mem _ member, canAccept⟩

/-- A thread is accounted for if it was tried, waits on the stack, or stands in no state of the
program. -/
def Accounted (program : Array Inst) (visited : Visited) (stack : List Thread) (thread : Thread) :
    Prop :=
  visited.contains thread.state thread.place.offset = true ∨
    (∃ waiting ∈ stack, waiting.state = thread.state ∧ waiting.place = thread.place) ∨
    program[thread.state]? = none

/-- What was tried did not accept, and all that follows it is accounted for. -/
def Explored (program : Array Inst) (text : List Char) (visited : Visited) (stack : List Thread) :
    Prop :=
  ∀ (thread : Thread) (inst : Inst), thread.place.InText text →
    visited.contains thread.state thread.place.offset = true →
    program[thread.state]? = some inst →
    inst ≠ .accept ∧ ∀ next ∈ inst.follow thread, Accounted program visited stack next

section Completeness

variable {program : Array Inst} {text : List Char} {visited : Visited} {stack others : List Thread}
  {thread : Thread}

/-- From what was tried no way leads to `accept` once nothing waits any more. -/
theorem Explored.not_canAccept (explored : Explored program text visited []) :
    ∀ (steps : Nat) (thread : Thread), thread.place.InText text →
      visited.contains thread.state thread.place.offset = true →
      ¬Leads program steps thread.state thread.place := by
  intro steps
  induction steps with
  | zero =>
      intro thread inText tried leads
      cases leads with
      | accept found => exact (explored thread _ inText tried found).1 rfl
  | succ steps inductionHypothesis =>
      intro thread inText tried leads
      cases leads with
      | @step _ _ _ inst marks next found follows leadsNext =>
          have here : (Thread.mk thread.state thread.place marks).place.InText text := inText
          have after := follow_inText here follows
          rcases (explored ⟨thread.state, thread.place, marks⟩ inst inText tried found).2
            next follows with triedNext | ⟨waiting, none, _⟩ | outside
          · exact inductionHypothesis next after triedNext leadsNext
          · simp at none
          · exact not_canAccept_of_none outside ⟨steps, leadsNext⟩

/-- A thread that is accounted for otherwise may leave the stack. -/
theorem Explored.pop (explored : Explored program text visited (thread :: others))
    (accounted : Accounted program visited others thread) :
    Explored program text visited others := by
  intro tried inst inText contained found
  obtain ⟨goesOn, follow⟩ := explored tried inst inText contained found
  refine ⟨goesOn, fun next follows => ?_⟩
  rcases follow next follows with contained | ⟨waiting, member, state, place⟩ | outside
  · exact .inl contained
  · rcases List.mem_cons.mp member with rfl | member
    · unfold Accounted at accounted ⊢
      rwa [state, place] at accounted
    · exact .inr (.inl ⟨waiting, member, state, place⟩)
  · exact .inr (.inr outside)

/-- A thread gives way to the threads that follow it. -/
theorem Explored.push {states : Nat} (explored : Explored program text visited (thread :: others))
    (fits : visited.Fits states text.length) (inStates : thread.state < states)
    (inText : thread.place.InText text) {inst : Inst} (found : program[thread.state]? = some inst)
    (goesOn : inst ≠ .accept) :
    Explored program text (visited.insert thread.state thread.place.offset)
      (inst.follow thread ++ others) := by
  intro tried other otherInText contained foundOther
  simp only [fits.contains_insert inStates inText.offset_le] at contained
  rcases contained with contained | ⟨state, offset⟩
  · obtain ⟨otherGoesOn, follow⟩ := explored tried other otherInText contained foundOther
    refine ⟨otherGoesOn, fun next follows => ?_⟩
    rcases follow next follows with contained | ⟨waiting, member, state, place⟩ | outside
    · left
      rw [fits.contains_insert inStates inText.offset_le]
      exact .inl contained
    · rcases List.mem_cons.mp member with rfl | member
      · left
        rw [fits.contains_insert inStates inText.offset_le, ← state, ← place]
        exact .inr ⟨rfl, rfl⟩
      · exact .inr (.inl ⟨waiting, List.mem_append_right _ member, state, place⟩)
    · exact .inr (.inr outside)
  · have place : tried.place = thread.place := otherInText.eq_of_offset inText offset
    obtain rfl : inst = other := by
      rw [state, found] at foundOther
      exact Option.some.inj foundOther
    refine ⟨goesOn, fun next follows => .inr (.inl ?_)⟩
    obtain ⟨twin, member, twinState, twinPlace⟩ := follow_otherMarks follows thread.marks
    rw [state, place] at member
    exact ⟨twin, List.mem_append_left _ member, twinState, twinPlace⟩

/-- A run with enough rounds that does not accept has tried all there is, so no way leads from its
threads to `accept`. The rounds suffice because each takes a thread from the stack, and only one that
was untried puts others, at most two, in its place. -/
theorem run_complete (rounds : Nat) (visited : Visited) (stack : List Thread)
    (result : run program rounds visited stack = none)
    (enough : stack.length + 2 * (visited.untried program.size text.length).card < rounds)
    (fits : visited.Fits program.size text.length)
    (explored : Explored program text visited stack)
    (inText : ∀ thread ∈ stack, thread.place.InText text) :
    ∃ final : Visited, Explored program text final [] ∧
      (∀ state offset, visited.contains state offset = true → final.contains state offset = true) ∧
      ∀ thread ∈ stack, Accounted program final [] thread := by
  induction rounds generalizing visited stack with
  | zero => simp at enough
  | succ rounds inductionHypothesis =>
      cases stack with
      | nil => exact ⟨visited, explored, fun _ _ tried => tried, by simp⟩
      | cons thread others =>
          have inTextOthers : ∀ other ∈ others, other.place.InText text :=
            fun other member => inText other (List.mem_cons_of_mem _ member)
          have inTextThread := inText thread List.mem_cons_self
          rw [List.length_cons] at enough
          rw [run] at result
          split at result
          next tried =>
            obtain ⟨final, closed, keeps, accounted⟩ := inductionHypothesis visited others result
              (by omega) fits (explored.pop (.inl tried)) inTextOthers
            refine ⟨final, closed, keeps, fun other member => ?_⟩
            rcases List.mem_cons.mp member with rfl | member
            · exact .inl (keeps _ _ tried)
            · exact accounted other member
          next fresh =>
            split at result
            next => simp at result
            next inst goesOn found =>
              have inStates : thread.state < program.size := (Array.getElem?_eq_some_iff.mp found).1
              have lessLeft := fits.card_untried_insert inStates inTextThread.offset_le
                (Bool.eq_false_iff.mpr fresh)
              have fewThreads := follow_length_le inst thread
              obtain ⟨final, closed, keeps, accounted⟩ := inductionHypothesis _ _ result
                (by rw [List.length_append]; omega) (fits.insert _ _)
                (explored.push fits inStates inTextThread found (by simpa using goesOn)) (by
                  intro other member
                  rcases List.mem_append.mp member with follows | member
                  · exact follow_inText inTextThread follows
                  · exact inTextOthers other member)
              have keepsOld : ∀ state offset, visited.contains state offset = true →
                  final.contains state offset = true := by
                intro state offset tried
                apply keeps
                rw [fits.contains_insert inStates inTextThread.offset_le]
                exact .inl tried
              refine ⟨final, closed, keepsOld, fun other member => ?_⟩
              rcases List.mem_cons.mp member with rfl | member
              · left
                apply keeps
                rw [fits.contains_insert inStates inTextThread.offset_le]
                exact .inr ⟨rfl, rfl⟩
              · exact accounted other (List.mem_append_right _ member)
            next outside =>
              obtain ⟨final, closed, keeps, accounted⟩ := inductionHypothesis visited others result
                (by omega) fits (explored.pop (.inr (.inr outside))) inTextOthers
              refine ⟨final, closed, keeps, fun other member => ?_⟩
              rcases List.mem_cons.mp member with rfl | member
              · exact .inr (.inr outside)
              · exact accounted other member

end Completeness

/-! ### Searches -/

/-- A search succeeds exactly if the program has a way from its first state to `accept`. -/
theorem search_isSome_iff (program : Array Inst) (text : List Char) :
    (search program text).isSome = true ↔ CanAccept program ⟨0, Place.start text, []⟩ := by
  constructor
  · intro succeeds
    obtain ⟨marks, result⟩ := Option.isSome_iff_exists.mp succeeds
    obtain ⟨thread, member, canAccept⟩ := run_sound _ _ _ result
    obtain rfl : thread = _ := by simpa using member
    exact canAccept
  · rintro ⟨steps, leads⟩
    by_contra fails
    have result : search program text = none := by simpa using fails
    have few := Visited.card_untried_none_le program.size text.length
    obtain ⟨final, closed, _, accounted⟩ := run_complete _ _ _ result
      (by
        rw [Nat.mul_assoc]
        simp only [List.length_cons, List.length_nil]
        omega)
      (Visited.fits_none _ _)
      (by
        intro thread inst _ tried
        simp [Visited.contains_none] at tried)
      (by
        intro thread member
        obtain rfl : thread = _ := by simpa using member
        exact Place.inText_start text)
    rcases accounted _ List.mem_cons_self with tried | ⟨waiting, none, _⟩ | outside
    · exact closed.not_canAccept steps ⟨0, Place.start text, []⟩ (Place.inText_start text) tried leads
    · simp at none
    · exact not_canAccept_of_none outside ⟨steps, leads⟩

end Stencil.Regex
