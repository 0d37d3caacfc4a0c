import Stencil.Regex.Program

/-!
The search for a match.

Owns the threads of a program, the record of what was visited, and `search`, which follows the
preferred thread first and turns to the next when it fails. A state is tried at most once at each
place: what failed there before fails again. So the search takes time in proportion to the states of
the program and the length of the text.
-/

namespace Stencil.Regex

/-- A place in a text: the character before it, the text after it, and how many characters come
before it. -/
structure Place where
  before : Option Char
  after : List Char
  offset : Nat
deriving Repr

namespace Place

def start (text : List Char) : Place := ⟨none, text, 0⟩

/-- The place after the given characters, if they come next. -/
def pass? (place : Place) : List Char → Option Place
  | [] => some place
  | c :: rest =>
    match place.after with
    | [] => none
    | d :: after => if c = d then pass? ⟨some d, after, place.offset + 1⟩ rest else none

end Place

/-- A way through the program that is still to be followed: its state, its place, and the marks it
has noted, latest first. -/
structure Thread where
  state : Nat
  place : Place
  marks : List (Nat × Nat)
deriving Repr

def Thread.goTo (thread : Thread) (state : Nat) : Thread := { thread with state }

/-- The threads that a thread goes on as after an instruction, the preferred one first. -/
def Inst.follow (inst : Inst) (thread : Thread) : List Thread :=
  match inst with
  | .read text next =>
    match thread.place.pass? text with
    | some place => [{ thread with state := next, place }]
    | none => []
  | .readOneOf set next =>
    match thread.place.after with
    | c :: after =>
      if set.contains c
      then [{ thread with state := next, place := ⟨some c, after, thread.place.offset + 1⟩ }]
      else []
    | [] => []
  | .check condition next =>
    if condition.holds thread.place.before thread.place.after then [thread.goTo next] else []
  | .mark slot next =>
    [{ thread with state := next, marks := (slot, thread.place.offset) :: thread.marks }]
  | .fork preferred other => [thread.goTo preferred, thread.goTo other]
  | .goto next => [thread.goTo next]
  | .accept => []

/-- The states that were tried at each place, one bit for each state. The bits of a place are kept
in words, which stay small numbers however many states there are. -/
structure Visited where
  rows : Array (Array Nat)

namespace Visited

def wordLength : Nat := 60

/-- Nothing was tried in any of the states before `states` at any of the places from 0 to
`lastOffset`. -/
def none (states lastOffset : Nat) : Visited :=
  ⟨Array.replicate (lastOffset + 1) (Array.replicate (states / wordLength + 1) 0)⟩

def word (visited : Visited) (state offset : Nat) : Nat :=
  ((visited.rows[offset]?.getD #[])[state / wordLength]?).getD 0

/-- Whether a state was tried at a place. -/
def contains (visited : Visited) (state offset : Nat) : Bool :=
  (visited.word state offset).testBit (state % wordLength)

/-- Notes that a state was tried at a place. -/
def insert (visited : Visited) (state offset : Nat) : Visited :=
  ⟨visited.rows.modify offset fun row =>
    row.modify (state / wordLength) fun word => word ||| (1 <<< (state % wordLength))⟩

/-- At first no state was tried anywhere. -/
theorem contains_none (states lastOffset state offset : Nat) :
    (none states lastOffset).contains state offset = false := by
  simp only [contains, word, none, Array.getElem?_replicate]
  by_cases inRows : offset < lastOffset + 1
  · by_cases inWords : state / wordLength < states / wordLength + 1 <;> simp [inRows, inWords]
  · simp [inRows]

/-- After a state was tried at a place of the record, it is the only one that was tried beside those
before. -/
theorem contains_insert
    {visited : Visited} {state offset : Nat} {row : Array Nat}
    (rowFound : visited.rows[offset]? = some row) (inRow : state / wordLength < row.size)
    (other place : Nat) :
    (visited.insert state offset).contains other place =
      (visited.contains other place || (decide (other = state) && decide (place = offset))) := by
  simp only [contains, word, insert, Array.getElem?_modify]
  by_cases samePlace : offset = place
  · subst samePlace
    simp only [rowFound]
    by_cases sameWord : state / wordLength = other / wordLength
    · have sameState : other = state ↔ other % wordLength = state % wordLength := by
        constructor
        · rintro rfl
          rfl
        · intro same
          rw [← Nat.div_add_mod other wordLength, ← Nat.div_add_mod state wordLength, sameWord, same]
      have wordFound : row[other / wordLength]? = some row[state / wordLength] := by
        rw [← sameWord]
        exact Array.getElem?_eq_getElem inRow
      simp [Array.getElem?_modify, sameWord, wordFound, Nat.testBit_or, Nat.one_shiftLeft,
        Nat.testBit_two_pow, sameState, eq_comm]
    · have differs : other ≠ state := by
        rintro rfl
        exact sameWord rfl
      simp [Array.getElem?_modify, sameWord, differs]
  · have differs : place ≠ offset := fun same => samePlace same.symm
    simp [samePlace, differs]

end Visited

/-- Follows the threads of a stack in order until one of them reaches `accept`, and gives its marks.
Every round takes one thread from the stack; `rounds` bounds how many there are. -/
def run (program : Array Inst) : (rounds : Nat) → Visited → List Thread → Option (List (Nat × Nat))
  | 0, _, _ => none
  | _ + 1, _, [] => none
  | rounds + 1, visited, thread :: others =>
    if visited.contains thread.state thread.place.offset then run program rounds visited others
    else
      match program[thread.state]? with
      | some .accept => some thread.marks
      | some inst =>
        run program rounds (visited.insert thread.state thread.place.offset)
          (inst.follow thread ++ others)
      | none => run program rounds visited others

/-- The marks of the preferred match of a program in a text. Each state is followed at most once at
each place and goes on as at most two threads, which bounds the rounds. -/
def search (program : Array Inst) (text : List Char) : Option (List (Nat × Nat)) :=
  run program (2 * program.size * (text.length + 1) + 2) (Visited.none program.size text.length)
    [⟨0, Place.start text, []⟩]

end Stencil.Regex
