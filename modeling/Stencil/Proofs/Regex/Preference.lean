import Stencil.Proofs.Regex.Matching
import Stencil.Proofs.Regex.Priority
import Stencil.Proofs.Regex.Ways

/-!
A search finds the preferred match.

Owns `Offers`, which says that the ways of a program from one state to another are listed in the
order in which the program tries them. The main statements are `offers_code`, by which the code of a
productive expression offers the ways of the expression, and `search_searchProgram_eq`, by which a
search gives the marks of the first way of all: the leftmost match, and of the matches that begin
there the preferred one. For an anchored expression this is the first way from the start of the text
(`search_anchored_eq`).
-/

namespace Stencil.Regex

/-- From a place, a thread in state `start` yields what the first of the ways yields that yields
anything, where every way goes on from state `past`. -/
def Offers (program : Array Inst) (start past : Nat) (ways : Ways) (place : Place) : Prop :=
  ∀ (marks : List (Nat × Nat)) (results : Way → Option (List (Nat × Nat))),
    (∀ way ∈ ways place, Yields program ⟨past, way.place, way.marks ++ marks⟩ (results way)) →
    Yields program ⟨start, place, marks⟩ ((ways place).findSome? results)

private theorem findSome?_flatMap {α β γ : Type} (list : List α) (next : α → List β)
    (result : β → Option γ) :
    (list.flatMap next).findSome? result = list.findSome? fun a => (next a).findSome? result := by
  induction list with
  | nil => rfl
  | cons a rest inductionHypothesis =>
      rw [List.flatMap_cons, List.findSome?_append, List.findSome?_cons, inductionHypothesis]
      cases (next a).findSome? result <;> rfl

namespace Offers

variable {program : Array Inst} {start middle past : Nat} {ways others : Ways} {greedy : Bool}
  {place : Place}

/-- An instruction that goes on in one state at most offers the ways in which it goes on. -/
theorem step {inst : Inst} (found : program[start]? = some inst) (goesOn : inst ≠ .accept)
    (follow : ∀ marks, inst.follow ⟨start, place, marks⟩ =
      (ways place).map fun way => ⟨past, way.place, way.marks ++ marks⟩)
    (single : (ways place).length ≤ 1) : Offers program start past ways place := by
  intro marks results yields
  match waysFound : ways place with
  | [] => exact .stuck found goesOn (by simp [follow, waysFound])
  | [way] =>
      rw [List.findSome?_singleton]
      exact .only found (by rw [follow, waysFound]; rfl) (yields way (by simp [waysFound]))
  | _ :: _ :: _ => simp [waysFound] at single

/-- No code offers to stay. -/
theorem refl : Offers program start start .stay place := by
  intro marks results yields
  exact (List.findSome?_singleton ..) ▸ yields (.stay place) List.mem_cons_self

/-- Pieces of code in a row offer their ways one after another. -/
theorem trans (offers : Offers program start middle ways place)
    (next : ∀ way ∈ ways place, Offers program middle past others way.place) :
    Offers program start past (ways.andThen others) place := by
  intro marks results yields
  rw [Ways.andThen, findSome?_flatMap]
  refine offers marks _ fun way member => ?_
  rw [List.findSome?_map]
  refine next way member (way.marks ++ marks) _ fun last memberLast => ?_
  have rest := yields (way.andThen last)
    (List.mem_flatMap.mpr ⟨way, member, List.mem_map_of_mem memberLast⟩)
  rwa [Way.andThen_marks, List.append_assoc] at rest

/-- A fork offers the ways of both its targets, those of the preferred one first. -/
theorem fork {preferred other : Nat} (found : program[start]? = some (.fork preferred other))
    (first : Offers program preferred past ways place)
    (second : Offers program other past others place) :
    Offers program start past (ways.orElse others) place := by
  intro marks results yields
  rw [Ways.orElse, List.findSome?_append]
  refine .either found rfl (first marks results fun way member => ?_)
    (second marks results fun way member => ?_)
  · exact yields way (List.mem_append_left _ member)
  · exact yields way (List.mem_append_right _ member)

/-- A fork that may be entered or left offers something more or nothing. -/
theorem optional {body : Nat}
    (found : program[start]? = some (Inst.enterOrLeave greedy body past))
    (offers : Offers program body past ways place) :
    Offers program start past (.moreOrStay greedy ways) place := by
  cases greedy with
  | true => exact fork found offers refl
  | false => exact fork found refl offers

/-- A fork after a body that reads, which enters the body again or leaves it, offers any number of
rounds. -/
theorem loop {body : Nat} (found : program[start]? = some (Inst.enterOrLeave greedy body past))
    (reads : ways.Reads) (offers : ∀ place, Offers program body start ways place) (place : Place) :
    Offers program start past (.anyNumber greedy ways) place := by
  -- Every round reads, so less text is left for the rest.
  induction left : place.after.length using Nat.strongRecOn generalizing place with
  | ind length inductionHypothesis =>
      rw [Ways.anyNumber_eq reads]
      refine optional found ((offers place).trans fun way member => ?_)
      exact inductionHypothesis _ (left ▸ reads place way member) way.place rfl

end Offers

/-! ### The code of repetitions -/

section Repetition

variable {program : Array Inst} {part : Nat → Nat → List Inst} {length : Nat} {ways : Ways}

theorem offers_copies
    (partLength : ∀ start past, (part start past).length = length)
    (offers : ∀ start past, LiesAt program start (part start past) →
      ∀ place, Offers program start past ways place) :
    ∀ count start past : Nat,
      LiesAt program start (Expr.copies part length (count + 1) start past) →
      ∀ place, Offers program start past (.times ways (count + 1)) place
  | 0, start, past, lies, place => by
      rw [Ways.times, Ways.times, Ways.andThen_stay]
      exact offers start past lies place
  | count + 1, start, past, lies, place => by
      obtain ⟨liesPart, liesRest⟩ := lies.copies partLength
      exact (offers start (start + length) liesPart place).trans fun way _ =>
        offers_copies partLength offers count (start + length) past liesRest way.place

/-- Copies that are left to the state after them, of which there may be none. -/
theorem offers_copies_inPlace
    (partLength : ∀ start past, (part start past).length = length)
    (offers : ∀ start past, LiesAt program start (part start past) →
      ∀ place, Offers program start past ways place)
    (count start : Nat)
    (lies : LiesAt program start (Expr.copies part length count start (start + count * length)))
    (place : Place) :
    Offers program start (start + count * length) (.times ways count) place := by
  cases count with
  | zero =>
      rw [Nat.zero_mul, Nat.add_zero]
      exact Offers.refl
  | succ count => exact offers_copies partLength offers count start _ lies place

theorem offers_optionalRounds
    (partLength : ∀ start past, (part start past).length = length)
    (offers : ∀ start past, LiesAt program start (part start past) →
      ∀ place, Offers program start past ways place) (greedy : Bool) :
    ∀ count start past : Nat,
      LiesAt program start (Expr.optionalRounds part length greedy (count + 1) start past) →
      ∀ place, Offers program start past (.upTo greedy ways (count + 1)) place
  | 0, start, past, lies, place => by
      obtain ⟨found, liesPart⟩ := lies.cons
      rw [Ways.upTo, Ways.upTo, Ways.andThen_stay]
      exact Offers.optional found (offers (start + 1) past liesPart place)
  | count + 1, start, past, lies, place => by
      obtain ⟨found, liesPart, liesRest⟩ := lies.optionalRounds partLength
      refine Offers.optional found ((offers _ _ liesPart place).trans fun way _ => ?_)
      exact offers_optionalRounds partLength offers greedy count _ past liesRest way.place

end Repetition

/-! ### The code of expressions -/

private theorem offers_unbounded {program : Array Inst} {body : Expr} (greedy : Bool)
    (reads : body.ways.Reads)
    (offers : ∀ start past, LiesAt program start (body.code start past) →
      ∀ place, Offers program start past body.ways place) :
    ∀ least start past : Nat,
      LiesAt program start ((Expr.rounds least none greedy body).code start past) →
      ∀ place, Offers program start past (Expr.rounds least none greedy body).ways place
  | 0, start, past, lies, place => by
      obtain ⟨found, liesBody, foundAgain⟩ := lies.anyRounds
      have bodyOffers := offers _ _ liesBody
      simp only [Expr.ways, Ways.times, Ways.stay_andThen]
      rw [Ways.anyNumber_eq reads]
      exact Offers.optional found ((bodyOffers place).trans fun way _ =>
        Offers.loop foundAgain reads bodyOffers way.place)
  | least + 1, start, past, lies, place => by
      obtain ⟨liesCopies, liesLast, foundAgain⟩ := lies.someRounds
      have copies := offers_copies_inPlace body.code_length offers least start liesCopies
      have bodyOffers := offers _ _ liesLast
      simp only [Expr.ways, Ways.times_succ]
      exact ((copies place).trans fun way _ => bodyOffers way.place).trans fun way _ =>
        Offers.loop foundAgain reads bodyOffers way.place

private theorem offers_bounded {program : Array Inst} {body : Expr} (greedy : Bool)
    (offers : ∀ start past, LiesAt program start (body.code start past) →
      ∀ place, Offers program start past body.ways place) (least bound start past : Nat)
    (lies : LiesAt program start ((Expr.rounds least (some bound) greedy body).code start past))
    (place : Place) :
    Offers program start past (Expr.rounds least (some bound) greedy body).ways place := by
  by_cases noRound : bound = 0
  · subst noRound
    exact Offers.step lies.noRounds (by simp) (fun _ => rfl) (Nat.le_refl 1)
  · simp only [Expr.ways, if_neg noRound]
    rcases lies.boundedRounds noRound with ⟨below, liesCopies⟩ | ⟨above, liesCopies, liesOptional⟩
    · obtain ⟨fewer, rfl⟩ := Nat.exists_eq_add_of_le' (show 1 ≤ least by omega)
      rw [Nat.sub_eq_zero_of_le below, Ways.upTo, Ways.andThen_stay]
      exact offers_copies body.code_length offers fewer start past liesCopies place
    · obtain ⟨extra, extraEq⟩ := Nat.exists_eq_add_of_le' (show 1 ≤ bound - least by omega)
      rw [extraEq] at liesOptional ⊢
      have copies := offers_copies_inPlace body.code_length offers least start liesCopies
      exact (copies place).trans fun way _ =>
        offers_optionalRounds body.code_length offers greedy extra _ past liesOptional way.place

/-- The code of a productive expression offers the ways of the expression, wherever it lies. -/
theorem offers_code {program : Array Inst} {expr : Expr} (productive : expr.Productive)
    (start past : Nat) (lies : LiesAt program start (expr.code start past)) (place : Place) :
    Offers program start past expr.ways place := by
  induction expr generalizing start past place with
  | empty => exact Offers.step lies.singleton (by simp) (fun _ => rfl) (Nat.le_refl 1)
  | literal text =>
      refine Offers.step lies.singleton (by simp) (fun marks => ?_) ?_
      · simp only [Inst.follow, Expr.ways]
        cases place.pass? text <;> rfl
      · simp only [Expr.ways]
        cases place.pass? text <;> simp
  | oneOf set =>
      refine Offers.step lies.singleton (by simp) (fun marks => ?_) ?_
      · simp only [Inst.follow, Expr.ways]
        cases place.after with
        | nil => rfl
        | cons c after => by_cases member : set.contains c <;> simp [member]
      · simp only [Expr.ways]
        split
        · split <;> simp
        · simp
  | look condition =>
      refine Offers.step lies.singleton (by simp) (fun marks => ?_) ?_
      · simp only [Inst.follow, Expr.ways]
        split <;> rfl
      · simp only [Expr.ways]
        split <;> simp
  | group index body inductionHypothesis =>
      obtain ⟨opens, liesBody, closes⟩ := lies.group
      have opensOffers : Offers program start (start + 1) (.note (groupStart index)) place :=
        Offers.step opens (by simp) (fun _ => rfl) (Nat.le_refl 1)
      refine opensOffers.trans fun way _ => ?_
      refine (inductionHypothesis productive _ _ liesBody way.place).trans fun last _ => ?_
      exact Offers.step closes (by simp) (fun _ => rfl) (Nat.le_refl 1)
  | sequence left right leftHypothesis rightHypothesis =>
      obtain ⟨liesLeft, liesRight⟩ := lies.sequence
      exact (leftHypothesis productive.1 _ _ liesLeft place).trans fun way _ =>
        rightHypothesis productive.2 _ _ liesRight way.place
  | choice left right leftHypothesis rightHypothesis =>
      obtain ⟨found, liesLeft, liesRight⟩ := lies.choice
      exact Offers.fork found (leftHypothesis productive.1 _ _ liesLeft place)
        (rightHypothesis productive.2 _ _ liesRight place)
  | rounds least most greedy body inductionHypothesis =>
      cases most with
      | none =>
          exact offers_unbounded greedy (productive.2 rfl) (inductionHypothesis productive.1) least
            start past lies place
      | some bound =>
          exact offers_bounded greedy (inductionHypothesis productive.1) least bound start past lies
            place

/-! ### Searches -/

/-- The ways of a search: to some place of the text, earlier places first, and from there on. -/
def searchWays (expr : Expr) : Ways :=
  (Ways.anyNumber false (Expr.oneOf CharSet.all).ways).andThen expr.ways

/-- A search gives the marks of the first way. -/
theorem search_searchProgram_eq {expr : Expr} (productive : expr.Productive) (text : List Char) :
    search (searchProgram expr) text =
      (searchWays expr (Place.start text)).head?.map Way.marks := by
  obtain ⟨liesFork, liesNext, liesExpr, liesAccept⟩ := liesAt_search expr
  have next := offers_code (Expr.productive_oneOf _) _ _ liesNext
  have offers : Offers (searchProgram expr) 0 (2 + expr.codeLength) (searchWays expr)
      (Place.start text) :=
    (Offers.loop liesFork.singleton (Expr.reads_oneOf _) next _).trans fun way _ =>
      offers_code productive _ _ liesExpr way.place
  have yields := offers [] (fun way => some way.marks) fun way _ => by
    have accepts : Yields (searchProgram expr) ⟨2 + expr.codeLength, way.place, way.marks⟩
        (some way.marks) := .accept liesAccept.singleton
    simpa using accepts
  rw [search_eq_of_yields yields]
  cases searchWays expr (Place.start text) <;> simp

/-- No way that reads a character leads to the start of a text. -/
private theorem before_ne_none {text : List Char} {way : Way}
    (member : way ∈ (Expr.oneOf CharSet.all).ways.andThen
      (Ways.anyNumber false (Expr.oneOf CharSet.all).ways) (Place.start text)) :
    way.place.before ≠ none := by
  intro atStart
  have same : (Expr.oneOf CharSet.all).ways.Reaches = (Expr.oneOf CharSet.all).Spans := by
    funext first last
    exact propext (Expr.reaches_ways_iff (Expr.productive_oneOf _))
  obtain ⟨middle, reachesFirst, reachesRest⟩ := Ways.reaches_andThen.mp ⟨way, member, rfl⟩
  obtain ⟨count, iterated⟩ := (Ways.reaches_anyNumber (Expr.reads_oneOf _)).mp reachesRest
  rw [same] at reachesFirst iterated
  have whole : Iterated (Expr.oneOf CharSet.all).Spans (count + 1) (Place.start text) way.place :=
    ⟨middle, reachesFirst, iterated⟩
  have inText := iterated_oneOf_all (Place.inText_start text) whole
  obtain ⟨passed, length, _, passes⟩ := (Expr.iterated_oneOf _ _ _ _).mp whole
  have offset := (Place.after_eq_of_pass? passes).2
  rw [inText.eq_start atStart, length] at offset
  exact absurd offset (by simp [Place.start])

/-- A search for an anchored expression gives the marks of the first way from the start of the text
to its end. -/
theorem search_anchored_eq {parts : List Expr} (productive : ∀ part ∈ parts, part.Productive)
    (text : List Char) :
    search (searchProgram (anchored parts)) text =
      (Expr.waysInTurn (parts ++ [.look .textEnd]) (Place.start text)).head?.map Way.marks := by
  have anchoredWays : (anchored parts).ways = (Expr.look .textStart).ways.andThen
      (Expr.waysInTurn (parts ++ [.look .textEnd])) := Expr.ways_inSequence _
  have anchoredProductive : (anchored parts).Productive := by
    refine Expr.productive_inSequence fun part member => ?_
    simp only [List.mem_cons, List.mem_append, List.not_mem_nil, or_false] at member
    rcases member with rfl | member | rfl
    · trivial
    · exact productive part member
    · trivial
  have here : (anchored parts).ways (Place.start text) =
      Expr.waysInTurn (parts ++ [.look .textEnd]) (Place.start text) := by
    rw [anchoredWays, ← congrFun (Ways.stay_andThen (Expr.waysInTurn _)) (Place.start text)]
    rfl
  have later : (((Expr.oneOf CharSet.all).ways.andThen
      (Ways.anyNumber false (Expr.oneOf CharSet.all).ways)).andThen (anchored parts).ways)
        (Place.start text) = [] := by
    refine List.flatMap_eq_nil_iff.mpr fun way member => ?_
    have before := before_ne_none member
    rw [anchoredWays]
    simp [Ways.andThen, Expr.ways, Look.holds, before]
  rw [search_searchProgram_eq anchoredProductive, searchWays,
    Ways.anyNumber_eq (Expr.reads_oneOf _)]
  change (Option.map Way.marks (((Ways.stay.orElse _).andThen _) _).head?) = _
  rw [Ways.orElse_andThen, Ways.stay_andThen, Ways.orElse, later, List.append_nil, here]

end Stencil.Regex
