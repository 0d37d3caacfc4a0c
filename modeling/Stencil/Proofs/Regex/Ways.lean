import Mathlib.Data.List.Basic
import Stencil.Proofs.Regex.Span
import Stencil.Regex.Program

/-!
The ways of an expression in the order of preference.

Owns `Expr.ways`, which lists for a place how a match of an expression may go on from there: what is
decided first counts first, so all ways with the preferred start come before the others. The main
statements say that the ways end exactly where matches end (`Expr.reaches_ways_iff`) and that the
builders of expressions keep the ways with their order (`ways_andThen`, `ways_inSequence`).

An expression whose repetitions without an upper bound may repeat an empty match is not
`Expr.Productive`; its list is cut short, and nothing is told of it.
-/

namespace Stencil.Regex

/-! ### Ways -/

/-- How a match may go: the place where it ends, and the marks that it notes, latest first. -/
structure Way where
  place : Place
  marks : List (Nat × Nat)

namespace Way

/-- The way that ends where it begins. -/
def stay (place : Place) : Way := ⟨place, []⟩

/-- A way and then another one from where it ends. -/
def andThen (way next : Way) : Way := ⟨next.place, next.marks ++ way.marks⟩

@[simp] theorem stay_place (place : Place) : (stay place).place = place := rfl

@[simp] theorem stay_marks (place : Place) : (stay place).marks = [] := rfl

@[simp] theorem andThen_place (way next : Way) : (way.andThen next).place = next.place := rfl

@[simp] theorem andThen_marks (way next : Way) :
    (way.andThen next).marks = next.marks ++ way.marks :=
  rfl

@[simp] theorem andThen_stay (way : Way) : way.andThen (stay way.place) = way := rfl

@[simp] theorem stay_andThen (place : Place) (way : Way) : (stay place).andThen way = way := by
  simp [andThen]

theorem andThen_assoc (first second third : Way) :
    (first.andThen second).andThen third = first.andThen (second.andThen third) := by
  simp [andThen]

end Way

/-- The ways from each place, in the order of preference. -/
abbrev Ways := Place → List Way

namespace Ways

/-- Nothing to match. -/
def stay : Ways := fun place => [.stay place]

/-- Nothing to match, but the place is noted under a mark. -/
def note (slot : Nat) : Ways := fun place => [⟨place, [(slot, place.offset)]⟩]

/-- One part after another. The way through the first part is decided first. -/
def andThen (first next : Ways) : Ways := fun place =>
  (first place).flatMap fun way => (next way.place).map way.andThen

/-- Either of two parts. The first is preferred. -/
def orElse (preferred other : Ways) : Ways := fun place => preferred place ++ other place

/-- Something more or nothing, in the order of preference. -/
def moreOrStay (greedy : Bool) (more : Ways) : Ways :=
  if greedy then more.orElse stay else stay.orElse more

/-- As many rounds as are given. -/
def times (body : Ways) : (count : Nat) → Ways
  | 0 => stay
  | count + 1 => body.andThen (times body count)

/-- Up to as many rounds as are given, each entered after the one before it. -/
def upTo (greedy : Bool) (body : Ways) : (bound : Nat) → Ways
  | 0 => stay
  | bound + 1 => moreOrStay greedy (body.andThen (upTo greedy body bound))

/-- Any number of rounds. If each reads a character there are no more than there are characters. -/
def anyNumber (greedy : Bool) (body : Ways) : Ways := fun place =>
  upTo greedy body place.after.length place

/-- Every way reads at least one character. -/
def Reads (ways : Ways) : Prop :=
  ∀ place, ∀ way ∈ ways place, way.place.after.length < place.after.length

/-- Some way leads from the first place to the last. -/
def Reaches (ways : Ways) (first last : Place) : Prop := ∃ way ∈ ways first, way.place = last

variable {body : Ways} {greedy : Bool}

theorem stay_andThen (ways : Ways) : stay.andThen ways = ways := by
  funext place
  have same : Way.andThen (Way.stay place) = id := funext (Way.stay_andThen place)
  simp [andThen, stay, same]

theorem andThen_stay (ways : Ways) : ways.andThen stay = ways := by
  funext place
  simp [andThen, stay]

theorem andThen_assoc (first second third : Ways) :
    (first.andThen second).andThen third = first.andThen (second.andThen third) := by
  funext place
  simp only [andThen, List.flatMap_assoc, List.flatMap_map, List.map_flatMap, List.map_map]
  refine List.flatMap_congr fun way _ => List.flatMap_congr fun next _ => ?_
  exact List.map_congr_left fun last _ => Way.andThen_assoc way next last

theorem orElse_andThen (preferred other next : Ways) :
    (preferred.orElse other).andThen next =
      (preferred.andThen next).orElse (other.andThen next) := by
  funext place
  simp [andThen, orElse]

/-- The first way through two parts begins with the first way through the one from which a way leads
through the other. -/
theorem exists_of_head?_andThen {first next : Ways} {place : Place} {way : Way}
    (head : (first.andThen next place).head? = some way) :
    ∃ before choice after onward, first place = before ++ choice :: after ∧
      (∀ earlier ∈ before, next earlier.place = []) ∧
      (next choice.place).head? = some onward ∧ way = choice.andThen onward := by
  rw [andThen, List.head?_flatMap, List.findSome?_eq_some_iff] at head
  obtain ⟨before, choice, after, split, found, none⟩ := head
  rw [List.head?_map, Option.map_eq_some_iff] at found
  obtain ⟨onward, foundOnward, rfl⟩ := found
  refine ⟨before, choice, after, onward, split, fun earlier member => ?_, foundOnward, rfl⟩
  simpa using none earlier member

/-- The last of several rounds may be set apart as well as the first. -/
theorem times_succ (body : Ways) (count : Nat) :
    times body (count + 1) = (times body count).andThen body := by
  induction count with
  | zero => simp only [times, stay_andThen, andThen_stay]
  | succ count inductionHypothesis =>
      calc
        times body (count + 2) = body.andThen ((times body count).andThen body) := by
          rw [← inductionHypothesis]
          rfl
        _ = (times body (count + 1)).andThen body := (andThen_assoc _ _ _).symm

/-- Something more at a place matters only there. -/
private theorem moreOrStay_congr {more other : Ways} {place : Place}
    (same : more place = other place) :
    moreOrStay greedy more place = moreOrStay greedy other place := by
  cases greedy with
  | true => exact congrArg (· ++ [.stay place]) same
  | false => exact congrArg (.stay place :: ·) same

/-- What follows the ways from a place matters only where they lead. -/
private theorem andThen_congr {first next other : Ways} {place : Place}
    (same : ∀ way ∈ first place, next way.place = other way.place) :
    first.andThen next place = first.andThen other place :=
  List.flatMap_congr fun way member => by rw [same way member]

private theorem upTo_eq_upTo (reads : body.Reads) {left right : Nat} {place : Place}
    (leftEnough : place.after.length ≤ left) (rightEnough : place.after.length ≤ right) :
    upTo greedy body left place = upTo greedy body right place := by
  have atEnd : ∀ bound, ∀ place : Place, place.after.length = 0 →
      upTo greedy body bound place = [.stay place] := by
    intro bound place done
    have noWay : body place = [] := by
      refine List.eq_nil_iff_forall_not_mem.mpr fun way member => ?_
      exact absurd (reads place way member) (by omega)
    cases bound with
    | zero => rfl
    | succ bound => cases greedy <;> simp [upTo, moreOrStay, orElse, andThen, stay, noWay]
  induction left generalizing right place with
  | zero =>
      have done : place.after.length = 0 := by omega
      rw [atEnd _ _ done, atEnd _ _ done]
  | succ left inductionHypothesis =>
      cases right with
      | zero =>
          have done : place.after.length = 0 := by omega
          rw [atEnd _ _ done, atEnd _ _ done]
      | succ right =>
          refine moreOrStay_congr (andThen_congr fun way member => ?_)
          have shorter := reads place way member
          exact inductionHypothesis (by omega) (by omega)

/-- Any number of rounds are one round and then any number of rounds, or none. -/
theorem anyNumber_eq (reads : body.Reads) :
    anyNumber greedy body = moreOrStay greedy (body.andThen (anyNumber greedy body)) := by
  funext place
  have same : body.andThen (upTo greedy body place.after.length) place =
      body.andThen (anyNumber greedy body) place := by
    refine andThen_congr fun way member => ?_
    exact upTo_eq_upTo reads (Nat.le_of_lt (reads place way member)) (Nat.le_refl _)
  calc
    anyNumber greedy body place = upTo greedy body (place.after.length + 1) place :=
      upTo_eq_upTo reads (Nat.le_refl _) (Nat.le_succ _)
    _ = moreOrStay greedy (body.andThen (anyNumber greedy body)) place := moreOrStay_congr same

/-! ### Where ways lead -/

variable {first last : Place}

theorem reaches_stay : stay.Reaches first last ↔ last = first := by
  simp [Reaches, stay, eq_comm]

theorem reaches_note (slot : Nat) : (note slot).Reaches first last ↔ last = first := by
  simp [Reaches, note, eq_comm]

theorem reaches_andThen {ways next : Ways} :
    (ways.andThen next).Reaches first last ↔
      ∃ middle, ways.Reaches first middle ∧ next.Reaches middle last := by
  simp only [Reaches, andThen, List.mem_flatMap, List.mem_map]
  constructor
  · rintro ⟨_, ⟨way, member, onward, memberNext, rfl⟩, rfl⟩
    exact ⟨way.place, ⟨way, member, rfl⟩, onward, memberNext, rfl⟩
  · rintro ⟨_, ⟨way, member, rfl⟩, onward, memberNext, rfl⟩
    exact ⟨_, ⟨way, member, onward, memberNext, rfl⟩, rfl⟩

theorem reaches_orElse {preferred other : Ways} :
    (preferred.orElse other).Reaches first last ↔
      preferred.Reaches first last ∨ other.Reaches first last := by
  simp only [Reaches, orElse, List.mem_append, or_and_right, exists_or]

theorem reaches_moreOrStay {more : Ways} :
    (moreOrStay greedy more).Reaches first last ↔ more.Reaches first last ∨ last = first := by
  cases greedy with
  | true => exact reaches_orElse.trans (or_congr_right reaches_stay)
  | false => exact reaches_orElse.trans ((or_congr_left reaches_stay).trans or_comm)

theorem reaches_times (count : Nat) :
    (times body count).Reaches first last ↔ Iterated body.Reaches count first last := by
  induction count generalizing first with
  | zero => exact reaches_stay
  | succ count inductionHypothesis =>
      simp only [times, reaches_andThen, inductionHypothesis, Iterated]

theorem reaches_upTo (bound : Nat) :
    (upTo greedy body bound).Reaches first last ↔
      ∃ count, count ≤ bound ∧ Iterated body.Reaches count first last := by
  induction bound generalizing first with
  | zero =>
      simp only [upTo, reaches_stay, Nat.le_zero_eq, exists_eq_left]
      rfl
  | succ bound inductionHypothesis =>
      simp only [upTo, reaches_moreOrStay, reaches_andThen, inductionHypothesis, iterated_upTo_succ]

theorem reaches_anyNumber (reads : body.Reads) :
    (anyNumber greedy body).Reaches first last ↔
      ∃ count, Iterated body.Reaches count first last := by
  have bounded : ∀ (count : Nat) (first : Place), Iterated body.Reaches count first last →
      count ≤ first.after.length := by
    intro count
    induction count with
    | zero => exact fun _ _ => Nat.zero_le _
    | succ count inductionHypothesis =>
        rintro first ⟨middle, ⟨way, member, rfl⟩, iterated⟩
        have shorter := reads first way member
        have rest := inductionHypothesis _ iterated
        omega
  constructor
  · intro reaches
    obtain ⟨count, _, iterated⟩ := (reaches_upTo first.after.length).mp reaches
    exact ⟨count, iterated⟩
  · rintro ⟨count, iterated⟩
    exact (reaches_upTo first.after.length).mpr ⟨count, bounded count first iterated, iterated⟩

end Ways

/-! ### The ways of an expression -/

namespace Expr

/-- The ways in which matches of the expression go from a place, in the order of preference. -/
def ways : Expr → Ways
  | .empty => .stay
  | .literal text => fun place => (place.pass? text).toList.map Way.stay
  | .oneOf set => fun place =>
    match place.after with
    | c :: after =>
      if set.contains c then [.stay ⟨some c, after, place.offset + 1⟩] else []
    | [] => []
  | .look condition => fun place =>
    if condition.holds place.before place.after then [.stay place] else []
  | .group index body =>
    (Ways.note (groupStart index)).andThen ((ways body).andThen (.note (groupEnd index)))
  | .sequence first second => (ways first).andThen (ways second)
  | .choice first second => (ways first).orElse (ways second)
  | .rounds least most greedy body =>
    match most with
    | none => (Ways.times (ways body) least).andThen (Ways.anyNumber greedy (ways body))
    | some bound =>
      if bound = 0 then .stay
      else (Ways.times (ways body) least).andThen (Ways.upTo greedy (ways body) (bound - least))

/-- Every repetition without an upper bound repeats what reads at least one character. -/
def Productive : Expr → Prop
  | .empty => True
  | .literal _ => True
  | .oneOf _ => True
  | .look _ => True
  | .group _ body => body.Productive
  | .sequence first second => first.Productive ∧ second.Productive
  | .choice first second => first.Productive ∧ second.Productive
  | .rounds _ most _ body => body.Productive ∧ (most = none → body.ways.Reads)

theorem productive_oneOf (set : CharSet) : (oneOf set).Productive := trivial

theorem reads_oneOf (set : CharSet) : (oneOf set).ways.Reads := by
  intro place way member
  simp only [ways] at member
  split at member
  next c after read =>
    split at member
    · obtain rfl : way = _ := by simpa using member
      simp [read]
    · simp at member
  next => simp at member

private theorem reaches_oneOf {set : CharSet} {first last : Place} :
    (oneOf set).ways.Reaches first last ↔ (oneOf set).Spans first last := by
  simp only [Ways.Reaches, ways, Spans, Place.pass?_singleton]
  cases first.after with
  | nil => simp
  | cons c after =>
      by_cases member : set.contains c
      · simp only [member, if_true, List.mem_singleton, exists_eq_left, Way.stay_place,
          List.cons.injEq]
        constructor
        · rintro rfl
          exact ⟨c, member, after, ⟨rfl, rfl⟩, rfl⟩
        · rintro ⟨_, _, _, ⟨rfl, rfl⟩, rfl⟩
          rfl
      · simp only [member, List.cons.injEq]
        constructor
        · simp
        · rintro ⟨_, other, _, ⟨rfl, _⟩, _⟩
          exact absurd other member

/-- The ways of an expression end where its matches end. -/
theorem reaches_ways_iff {expr : Expr} (productive : expr.Productive) {first last : Place} :
    expr.ways.Reaches first last ↔ expr.Spans first last := by
  induction expr generalizing first last with
  | empty => exact Ways.reaches_stay
  | literal text => simp [Ways.Reaches, ways, Spans]
  | oneOf set => exact reaches_oneOf
  | look condition =>
      simp only [Ways.Reaches, ways, Spans]
      by_cases holds : condition.holds first.before first.after <;> simp [holds, eq_comm]
  | group index body inductionHypothesis =>
      simp [ways, Ways.reaches_andThen, Ways.reaches_note, inductionHypothesis productive, Spans]
  | sequence left right leftHypothesis rightHypothesis =>
      simp only [ways, Ways.reaches_andThen, leftHypothesis productive.1,
        rightHypothesis productive.2, Spans]
  | choice left right leftHypothesis rightHypothesis =>
      simp only [ways, Ways.reaches_orElse, leftHypothesis productive.1,
        rightHypothesis productive.2, Spans]
  | rounds least most greedy body inductionHypothesis =>
      have same : body.ways.Reaches = body.Spans := by
        funext first last
        exact propext (inductionHypothesis productive.1)
      cases most with
      | none =>
          simp only [ways, Ways.reaches_andThen, Ways.reaches_times,
            Ways.reaches_anyNumber (productive.2 rfl), same, Spans, roundsAllowed]
          constructor
          · rintro ⟨middle, required, count, rest⟩
            exact ⟨least + count, Nat.le_add_right _ _,
              (iterated_add _ _ _ _ _).mpr ⟨middle, required, rest⟩⟩
          · rintro ⟨count, allowed, iterated⟩
            obtain ⟨more, rfl⟩ := Nat.exists_eq_add_of_le allowed
            obtain ⟨middle, required, rest⟩ := (iterated_add _ _ _ _ _).mp iterated
            exact ⟨middle, required, more, rest⟩
      | some bound =>
          by_cases noRound : bound = 0
          · simp only [ways, noRound, if_true, Ways.reaches_stay, Spans, roundsAllowed,
              exists_eq_left]
            rfl
          · simp only [ways, if_neg noRound, Ways.reaches_andThen, Ways.reaches_times,
              Ways.reaches_upTo, same, Spans, roundsAllowed]
            constructor
            · rintro ⟨middle, required, count, within, rest⟩
              exact ⟨least + count, by omega,
                (iterated_add _ _ _ _ _).mpr ⟨middle, required, rest⟩⟩
            · rintro ⟨count, allowed, iterated⟩
              obtain ⟨more, rfl⟩ := Nat.exists_eq_add_of_le allowed.1
              obtain ⟨middle, required, rest⟩ := (iterated_add _ _ _ _ _).mp iterated
              exact ⟨middle, required, more, by omega, rest⟩

/-- The first way through a group and on from there begins with the first way through its body from
which a way leads on. Between them the group notes where it ends and where it began. -/
theorem exists_of_head?_group {index : Nat} {body : Expr} {next : Ways} {place : Place} {way : Way}
    (head : ((group index body).ways.andThen next place).head? = some way) :
    ∃ before choice after onward, body.ways place = before ++ choice :: after ∧
      (∀ earlier ∈ before, next earlier.place = []) ∧
      (next choice.place).head? = some onward ∧
      way.marks = onward.marks ++ ((groupEnd index, choice.place.offset) ::
        (choice.marks ++ [(groupStart index, place.offset)])) := by
  rw [ways, Ways.andThen_assoc, Ways.andThen_assoc] at head
  obtain ⟨outside, opened, _, inside, opens, _, headBody, rfl⟩ := Ways.exists_of_head?_andThen head
  obtain rfl : opened = ⟨place, [(groupStart index, place.offset)]⟩ := by
    have member : opened ∈ Ways.note (groupStart index) place := by simp [opens]
    simpa [Ways.note] using member
  obtain ⟨before, choice, after, closing, split, none, headClose, rfl⟩ :=
    Ways.exists_of_head?_andThen headBody
  have closes : ∀ last : Place, (Ways.note (groupEnd index)).andThen next last =
      (next last).map (Way.andThen ⟨last, [(groupEnd index, last.offset)]⟩) := by
    intro last
    simp [Ways.andThen, Ways.note]
  rw [closes, List.head?_map, Option.map_eq_some_iff] at headClose
  obtain ⟨onward, foundOnward, rfl⟩ := headClose
  refine ⟨before, choice, after, onward, split, fun earlier member => ?_, foundOnward, by simp⟩
  simpa [closes] using none earlier member

/-! ### Builders -/

/-- The ways of the listed expressions one after another. -/
def waysInTurn : List Expr → Ways
  | [] => .stay
  | part :: rest => part.ways.andThen (waysInTurn rest)

private theorem ways_literal_append (left right : List Char) :
    (literal (left ++ right)).ways = (literal left).ways.andThen (literal right).ways := by
  funext place
  simp only [ways, Ways.andThen, Place.pass?_append]
  cases place.pass? left with
  | none => rfl
  | some middle => cases passes : middle.pass? right <;> simp [passes]

/-- Joining two expressions keeps the ways through one after the other. -/
theorem ways_andThen (left right : Expr) :
    (left.andThen right).ways = left.ways.andThen right.ways := by
  unfold andThen
  split
  · exact (Ways.stay_andThen _).symm
  · exact (Ways.andThen_stay _).symm
  · exact ways_literal_append _ _
  · change (literal _).ways.andThen _ = (literal _).ways.andThen ((literal _).ways.andThen _)
    rw [ways_literal_append, Ways.andThen_assoc]
  · rfl

theorem ways_inSequence (parts : List Expr) : (inSequence parts).ways = waysInTurn parts := by
  induction parts with
  | nil => rfl
  | cons part rest inductionHypothesis =>
      change (part.andThen (inSequence rest)).ways = _
      rw [ways_andThen, inductionHypothesis]
      rfl

theorem reaches_waysInTurn_iff {parts : List Expr} (productive : ∀ part ∈ parts, part.Productive)
    {first last : Place} :
    (waysInTurn parts).Reaches first last ↔ SpansInTurn parts first last := by
  induction parts generalizing first with
  | nil => exact Ways.reaches_stay
  | cons part rest inductionHypothesis =>
      rw [List.forall_mem_cons] at productive
      simp only [waysInTurn, Ways.reaches_andThen, reaches_ways_iff productive.1,
        inductionHypothesis productive.2, SpansInTurn]

theorem productive_andThen {left right : Expr} (leftProductive : left.Productive)
    (rightProductive : right.Productive) : (left.andThen right).Productive := by
  unfold andThen
  split
  · exact rightProductive
  · exact leftProductive
  · trivial
  · exact ⟨trivial, rightProductive.2⟩
  · exact ⟨leftProductive, rightProductive⟩

theorem productive_inSequence {parts : List Expr} (productive : ∀ part ∈ parts, part.Productive) :
    (inSequence parts).Productive := by
  induction parts with
  | nil => trivial
  | cons part rest inductionHypothesis =>
      rw [List.forall_mem_cons] at productive
      exact productive_andThen productive.1 (inductionHypothesis productive.2)

end Expr

end Stencil.Regex
