import Stencil.Proofs.Regex.Embedding
import Stencil.Proofs.Regex.Matching
import Stencil.Pattern

/-!
The reading of an expression that is put together from parts.

Owns `Reader.between`, the reader between two parts outside of all groups, and what each part of an
assembled expression makes of it: an escaped character (`read_escapeChar`), an anchor, and a text in
a group without a number (`read_enclosed`), which is read there as it is alone. A text that ends
within a comment is the exception: it swallows what comes after it up to the end of the line
(`read_unended`).
-/

namespace Stencil.Regex.Reader

/-- The reader between two parts outside of all groups, with the flags that are set at first. -/
def between (parts : List Part) (groups : Nat) (names : List (List Char)) : Reader :=
  { layer := { parts }, groups, names }

variable (parts : List Part) (groups : Nat) (names : List (List Char)) (tail : List Char)

/-! ### Characters and anchors -/

/-- An escaped character is read as that character alone, whatever follows it. -/
theorem read_escapeChar (c : Char) :
    (between parts groups names).read (Pattern.escapeChar c ++ tail) =
      (between ({ expr := .literal [c] } :: parts) groups names).read tail := by
  unfold Pattern.escapeChar
  split
  next special =>
    rw [List.contains_iff_mem] at special
    simp only [metaChars, List.mem_cons, List.not_mem_nil, or_false] at special
    rcases special with rfl | rfl | rfl | rfl | rfl | rfl | rfl | rfl | rfl | rfl | rfl | rfl |
      rfl | rfl | rfl | rfl | rfl | rfl <;> rfl
  next plain =>
    have begins : (between parts groups names).step c tail =
        (between parts groups names).stepPlain c tail := rfl
    have takes : (between parts groups names).stepPlain c tail =
        .ok (between ({ expr := .literal [c] } :: parts) groups names) := by
      unfold stepPlain
      split
      all_goals first
        | exact absurd rfl plain
        | rfl
    simp only [List.cons_append, List.nil_append, read, begins, takes]
    rfl

theorem read_caret :
    (between parts groups names).read ('^' :: tail) =
      (between ({ expr := .look .textStart } :: parts) groups names).read tail :=
  rfl

theorem read_dollar :
    (between parts groups names).read ('$' :: tail) =
      (between ({ expr := .look .textEnd } :: parts) groups names).read tail :=
  rfl

/-! ### The end -/

/-- Outside of all groups the parts make a sequence, unless they are nested too deep. -/
theorem finish_between :
    (between parts groups names).finish =
      if greatestDepth < (Part.inSequence parts.reverse).depth then .error .nesting
      else .ok (Expr.inSequence (parts.reverse.map Part.expr)) := by
  have contents : (between parts groups names).layer.contents = Part.inSequence parts.reverse := by
    simp [between, Layer.contents, Part.alternatives, Expr.alternatives, Part.inSequence]
  change (if greatestDepth < (between parts groups names).layer.contents.depth then _
    else Except.ok (between parts groups names).layer.contents.expr) = _
  rw [contents]
  rfl

/-- The anchors make any parts a sequence, which is nested one deeper than the deepest part. -/
private theorem depth_anchored_le_iff (added : List Part) :
    (Part.inSequence ({ expr := .look .textStart } ::
        (added ++ [{ expr := .look .textEnd }]))).depth ≤ greatestDepth ↔
      ∀ part ∈ added, part.depth < greatestDepth := by
  have several : 2 ≤ ({ expr := .look .textStart } ::
      (added ++ [{ expr := .look .textEnd }]) : List Part).length := by
    simp
  rw [Part.inSequence]
  simp only [if_pos several]
  rw [Nat.succ_le_iff, foldl_max_lt_iff, List.map_cons, List.forall_mem_cons, List.map_append,
    List.forall_mem_append, List.forall_mem_map]
  simp [greatestDepth]

/-- A text that is read as parts, between the two anchors. -/
theorem ofText_anchored {source : List Char} {added : List Part} {groups : Nat}
    {names : List (List Char)}
    (reads : ∀ tail, (between [{ expr := .look .textStart }] 0 []).read (source ++ tail) =
      (between (added.reverse ++ [{ expr := .look .textStart }]) groups names).read tail) :
    Expr.ofText ('^' :: (source ++ ['$'])) =
      if ∀ part ∈ added, part.depth < greatestDepth then .ok (anchored (added.map Part.expr))
      else .error .nesting := by
  have readsAll : ({} : Reader).read ('^' :: (source ++ ['$'])) =
      .ok (between ({ expr := .look .textEnd } :: (added.reverse ++ [{ expr := .look .textStart }]))
        groups names) := by
    change (between [] 0 []).read _ = _
    rw [read_caret, reads, read_dollar]
    rfl
  unfold Expr.ofText
  rw [readsAll]
  change (between _ _ _).finish = _
  have parts : ({ expr := .look .textEnd } ::
      (added.reverse ++ [{ expr := .look .textStart }]) : List Part).reverse =
        { expr := .look .textStart } :: (added ++ [{ expr := .look .textEnd }]) := by
    simp
  rw [finish_between, parts]
  by_cases shallow : ∀ part ∈ added, part.depth < greatestDepth
  · rw [if_pos shallow, if_neg (Nat.not_lt.mpr ((depth_anchored_le_iff added).mpr shallow))]
    simp [anchored]
  · rw [if_neg shallow, if_pos (Nat.lt_of_not_le fun within =>
      shallow ((depth_anchored_le_iff added).mp within))]

/-- What is finished stands outside of all groups and classes. -/
theorem finish_ok {reader : Reader} {expr : Expr} (finishes : reader.finish = .ok expr) :
    ∃ settled, reader.settle = .ok settled ∧ settled.brackets = [] ∧ settled.outer = [] ∧
      expr = settled.layer.contents.expr := by
  obtain ⟨settled, settles, finishes⟩ := exists_of_bind_ok finishes
  refine ⟨settled, settles, ?_⟩
  split at finishes
  next => simp at finishes
  next noBracket =>
    split at finishes
    next => simp at finishes
    next noGroup =>
      simp only at finishes
      split at finishes
      next => simp at finishes
      next =>
        exact ⟨by simpa using noBracket, by simpa using noGroup, (Except.ok.inj finishes).symm⟩

/-! ### Texts in groups -/

/-- The context of a text in a group between parts. -/
private def around : Context := ⟨{ parts }, [], groups, names⟩

private theorem read_opening (text : List Char) :
    (between parts groups names).read ("(?:".toList ++ text) =
      ((around parts groups names).embed {}).read text := by
  have inside : (around parts groups names).embed {} =
      { layer := {}, outer := [{ parts }], groups, names } := by
    simp [around, Context.embed, Layer.shift]
  rw [inside]
  rfl

/-- A parenthesis closes a group after the last construct in it. -/
private theorem step_closing {reader settled : Reader} (settles : reader.settle = .ok settled)
    (noBracket : settled.brackets = []) (notInComment : reader.inComment = false)
    (noSkip : reader.skip = 0) : reader.step ')' tail = settled.closeGroup := by
  have notWhite : Unicode.whiteSpace.contains ')' = false := rfl
  have begins : reader.step ')' tail = reader.stepMode ')' tail := by
    simp [step, noSkip, notInComment, notWhite]
  rw [begins]
  unfold settle at settles
  unfold stepMode
  split at settles
  next plain =>
    obtain rfl := Except.ok.inj settles
    simp only [plain, stepBetween, noBracket]
    rfl
  next least most counted =>
    simp only [counted]
    rw [if_neg (by decide), settles]
    rfl
  all_goals simp at settles

/-- What settles changes no more than the last part. -/
theorem settle_same {reader settled : Reader} (settles : reader.settle = .ok settled) :
    settled.inComment = reader.inComment ∧ settled.skip = reader.skip ∧
      settled.names = reader.names ∧ settled.outer = reader.outer := by
  unfold settle at settles
  split at settles
  next =>
    obtain rfl := Except.ok.inj settles
    exact ⟨rfl, rfl, rfl, rfl⟩
  next =>
    refine ⟨?_, ?_, ?_, ?_⟩
    all_goals
      unfold repeatLast at settles
      grind
  all_goals simp at settles

section Enclosed

variable {text : List Char} {reader settled : Reader}

/-- The part that a text in a group without a number makes, before which the given number of groups
were opened. -/
def enclosedPart (settled : Reader) (groups : Nat) : Part where
  expr := settled.layer.contents.expr.shift groups
  depth := settled.layer.contents.depth + 1

/-- A text that is carried over into its group is closed there. The flags that it sets end with the
group. -/
private theorem read_carried (reads : ({} : Reader).read text = .ok reader)
    (settles : reader.settle = .ok settled) (noBracket : settled.brackets = [])
    (noGroup : settled.outer = []) (notInComment : reader.inComment = false) :
    ((around parts groups names).embed reader).read (')' :: tail) =
      (between (enclosedPart settled groups :: parts) (settled.groups + groups)
        (settled.names ++ names)).read tail := by
  obtain ⟨sameComment, sameSkip, _⟩ := settle_same settles
  obtain ⟨moves, noSkip⟩ := read_keeps reads (Nat.zero_le _)
  have opened : Frame.opening settled.layer = (none, {}) := by
    have sameBase := Frame.Moves.base (moves.trans (settle_moves settles))
    rw [Frame.base, Reader.frame, noGroup] at sameBase
    exact sameBase
  have outerFlags : settled.layer.outerFlags = {} := congrArg Prod.snd opened
  have noCapture : settled.layer.capture = none := congrArg Prod.fst opened
  have part : (settled.layer.shift groups).close = enclosedPart settled groups := by
    rw [Layer.shift_close]
    simp only [Part.shift, Layer.close, noCapture, enclosedPart]
  have closes : ((around parts groups names).embed settled).closeGroup =
      .ok (between (enclosedPart settled groups :: parts) (settled.groups + groups)
        (settled.names ++ names)) := by
    unfold closeGroup Context.embed
    simp only [noGroup, List.map_nil, List.nil_append, around]
    rw [part]
    simp [addPart, between, Layer.shift, outerFlags, noBracket, sameComment, notInComment,
      sameSkip, noSkip]
  have settlesInside : ((around parts groups names).embed reader).settle =
      .ok ((around parts groups names).embed settled) := by
    rw [settle_embed, settles]
    rfl
  rw [read, step_closing tail settlesInside noBracket notInComment noSkip, closes]
  rfl

/-- In a group without a number a text is read as it is alone, with its groups numbered further on,
if none of its names is taken. -/
theorem read_enclosed (reads : ({} : Reader).read text = .ok reader)
    (settles : reader.settle = .ok settled) (noBracket : settled.brackets = [])
    (noGroup : settled.outer = []) (notInComment : reader.inComment = false)
    (distinct : (settled.names ++ names).Nodup) :
    (between parts groups names).read ("(?:".toList ++ text ++ ')' :: tail) =
      (between (enclosedPart settled groups :: parts) (settled.groups + groups)
        (settled.names ++ names)).read tail := by
  obtain ⟨_, _, sameNames, _⟩ := settle_same settles
  rcases read_embed (around parts groups names) reads (Nat.zero_le _) with carries | ⟨clashes, _⟩
  · rw [List.append_assoc, read_opening, carries,
      read_carried parts groups names tail reads settles noBracket noGroup notInComment]
  · obtain ⟨name, present, taken⟩ := clashes
    rw [sameNames] at distinct
    exact absurd taken ((List.nodup_append'.mp distinct).2.2 present)

/-- In a group without a number a text cannot be read if one of its names is taken. -/
theorem read_enclosed_taken (reads : ({} : Reader).read text = .ok reader)
    (settles : reader.settle = .ok settled) (noBracket : settled.brackets = [])
    (noGroup : settled.outer = []) (notInComment : reader.inComment = false)
    (distinct : names.Nodup) (taken : ¬ (settled.names ++ names).Nodup) :
    (between parts groups names).read ("(?:".toList ++ text ++ ')' :: tail) =
      .error .groupName := by
  rcases read_embed (around parts groups names) reads (Nat.zero_le _) with carries | ⟨_, fails⟩
  · -- No reading takes a name twice, so the text cannot have been read to the end of its group.
    exfalso
    have readsClosed : ((around parts groups names).embed {}).read (text ++ [')']) =
        .ok (between (enclosedPart settled groups :: parts) (settled.groups + groups)
          (settled.names ++ names)) := by
      rw [carries, read_carried parts groups names [] reads settles noBracket noGroup notInComment]
      rfl
    have moves := (read_keeps readsClosed (Nat.zero_le _)).1
    exact taken (moves.names_nodup distinct)
  · rw [List.append_assoc, read_opening, fails]

end Enclosed

/-- Within a comment all characters up to the end of the line are passed over. -/
private theorem read_comment {inside : Reader} (noSkip : inside.skip = 0)
    (inComment : inside.inComment = true) {line : List Char} (oneLine : '\n' ∉ line) :
    inside.read (line ++ tail) = inside.read tail := by
  induction line with
  | nil => rfl
  | cons c line inductionHypothesis =>
      rw [List.mem_cons, not_or] at oneLine
      have notEnd : (c != '\n') = true := by simpa using Ne.symm oneLine.1
      have stepped : inside.step c (line ++ tail) = .ok inside := by
        unfold step
        simp only [noSkip, inComment, notEnd, ↓reduceIte]
        rw [← noSkip, ← inComment]
      rw [List.cons_append, read, stepped]
      exact inductionHypothesis oneLine.2

/-- A text that ends within a comment goes on until the end of the line: the parenthesis after it
and all other characters on the line are passed over, so that its group is still open then. -/
theorem read_unended {text : List Char} {reader : Reader}
    (reads : ({} : Reader).read text = .ok reader) (inComment : reader.inComment = true) :
    (∃ inside : Reader, inside.outer ≠ [] ∧ ∀ line tail, '\n' ∉ line →
      (between parts groups names).read ("(?:".toList ++ text ++ ')' :: (line ++ tail)) =
        inside.read tail) ∨
      ∀ tail, (between parts groups names).read ("(?:".toList ++ text ++ ')' :: tail) =
        .error .groupName := by
  obtain ⟨_, noSkip⟩ := read_keeps reads (Nat.zero_le _)
  rcases read_embed (around parts groups names) reads (Nat.zero_le _) with carries | ⟨_, fails⟩
  · left
    refine ⟨(around parts groups names).embed reader, ?_, fun line tail oneLine => ?_⟩
    · simp [Context.embed]
    · have onLine : '\n' ∉ ')' :: line := by simpa using oneLine
      have noSkipInside : ((around parts groups names).embed reader).skip = 0 := noSkip
      rw [List.append_assoc, read_opening, carries, ← List.cons_append]
      exact read_comment tail noSkipInside inComment onLine
  · right
    intro tail
    rw [List.append_assoc, read_opening, fails]

end Stencil.Regex.Reader
