import Stencil.Proofs.Pattern.Fragments

/-!
What follows a fragment that ends within a comment.

Owns the two ways in which the end of a line decides what a pattern becomes. The text after such a
fragment is passed over up to the end of the line, so a pattern that compiles may go on there with
more pieces and becomes the same expression (`tryCompile_swallowing`). A pattern in which no line
ends after the fragment does not compile, since the group of the fragment is never closed
(`ofText_unended`).
-/

namespace Stencil

open Regex Regex.Reader

variable {registry : Registry} {grammar : Grammar} {before : List Piece}
  {sources : List (List Char)} {fragment : String}

/-- The first placeholder whose fragment ends within a comment. -/
private theorem exists_first_unended {text : List Char}
    (unended : ¬ EndsItsComments registry (grammar.pieces text)) :
    ∃ before placeholder after fragment, text = before ++ (placeholder.text ++ after) ∧
      grammar.Admits placeholder ∧ registry.get? placeholder.filter = some fragment ∧
      endsInComment fragment = true ∧ EndsItsComments registry (grammar.pieces before) := by
  obtain ⟨before, placeholder, after, divides, admits, ⟨fragment, registered, ends⟩, noneBefore⟩ :=
    Grammar.exists_first_placeholder (fun placeholder => ∃ fragment,
      registry.get? placeholder.filter = some fragment ∧ endsInComment fragment = true)
      text (by simpa [EndsItsComments, mem_holesOf] using unended)
  refine ⟨before, placeholder, after, fragment, divides, admits, registered, ends, ?_⟩
  intro other present otherFragment otherRegistered
  rw [Bool.eq_false_iff]
  intro otherEnds
  exact noneBefore other (mem_holesOf.mp present) ⟨otherFragment, otherRegistered, otherEnds⟩

variable [Measure]

/-- Where the text after a fragment in a comment is read: the group of the fragment is open, and the
line after the fragment has no say in what is read. -/
private theorem read_swallowed (validated : registry.Validated)
    (endsBefore : EndsItsComments registry before)
    (found : before.mapM (Pattern.pieceSource registry) = .ok sources)
    (ends : endsInComment fragment = true) :
    (∃ inside : Reader, inside.outer ≠ [] ∧ ∀ line rest, '\n' ∉ line →
      ({} : Reader).read
          ('^' :: (sources.flatten ++ (Pattern.enclose fragment ++ (line ++ rest)))) =
        inside.read rest) ∨
      ∀ rest, ({} : Reader).read ('^' :: (sources.flatten ++ (Pattern.enclose fragment ++ rest))) =
        .error .groupName := by
  have anchor : ∀ text, ({} : Reader).read ('^' :: text) =
      (between [{ expr := .look .textStart }] 0 []).read text :=
    read_caret [] 0 []
  simp only [anchor]
  by_cases distinct : ((fragmentsOf registry before).flatMap groupNames ++ []).Nodup
  · obtain ⟨groups, names, reads⟩ :=
      read_sources validated endsBefore found [{ expr := .look .textStart }] 0 distinct
    simp only [reads]
    unfold endsInComment at ends
    split at ends
    next reader alone =>
      have enclosed : ∀ tail, Pattern.enclose fragment ++ tail =
          "(?:".toList ++ fragment.toList ++ ')' :: tail := by
        simp [Pattern.enclose]
      simp only [enclosed]
      exact read_unended _ groups names alone ends
    next => simp at ends
  · have fails := read_sources_taken validated endsBefore found [{ expr := .look .textStart }] 0
      .nil distinct
    exact .inr fun _ => fails _

/-- Text on the line after a fragment that ends within a comment has no say in what is read. -/
theorem ofText_swallowed (validated : registry.Validated)
    (endsBefore : EndsItsComments registry before)
    (found : before.mapM (Pattern.pieceSource registry) = .ok sources)
    (ends : endsInComment fragment = true) {line : List Char} (oneLine : '\n' ∉ line)
    (rest : List Char) :
    Expr.ofText ('^' :: (sources.flatten ++ (Pattern.enclose fragment ++ (line ++ rest)))) =
      Expr.ofText ('^' :: (sources.flatten ++ (Pattern.enclose fragment ++ rest))) := by
  have sameRead : ({} : Reader).read
      ('^' :: (sources.flatten ++ (Pattern.enclose fragment ++ (line ++ rest)))) =
        ({} : Reader).read ('^' :: (sources.flatten ++ (Pattern.enclose fragment ++ rest))) := by
    rcases read_swallowed validated endsBefore found ends with ⟨inside, _, swallows⟩ | fails
    · rw [swallows line rest oneLine, ← List.nil_append rest, swallows [] rest (by simp)]
      rfl
    · rw [fails, fails]
  unfold Expr.ofText
  rw [sameRead]

/-- Without the end of a line after it, a fragment that ends within a comment leaves its group
open. -/
theorem ofText_unended (validated : registry.Validated)
    (endsBefore : EndsItsComments registry before)
    (found : before.mapM (Pattern.pieceSource registry) = .ok sources)
    (ends : endsInComment fragment = true) {line : List Char} (oneLine : '\n' ∉ line) :
    ∃ cause,
      Expr.ofText ('^' :: (sources.flatten ++ (Pattern.enclose fragment ++ line))) = .error cause := by
  cases parsed : Expr.ofText ('^' :: (sources.flatten ++ (Pattern.enclose fragment ++ line))) with
  | error cause => exact ⟨cause, rfl⟩
  | ok expr =>
      obtain ⟨reader, reads, finishes⟩ := exists_of_bind_ok parsed
      rcases read_swallowed validated endsBefore found ends with ⟨inside, groupOpen, swallows⟩ | fails
      · have whole := swallows line [] oneLine
        rw [List.append_nil, reads] at whole
        obtain rfl := Except.ok.inj whole
        obtain ⟨settled, settles, _, noGroup, _⟩ := finish_ok finishes
        obtain ⟨_, _, _, sameOuter⟩ := settle_same settles
        exact absurd (sameOuter.symm.trans noGroup) groupOpen
      · rw [fails] at reads
        simp at reads

/-- A pattern with a fragment that ends within a comment may go on after that fragment with pieces
whose parts end no line. If it compiles, it does so with these pieces, and to the same expression.
The registry in which it does may hold more than the validated one, if the pattern does not use
it. -/
theorem tryCompile_swallowing_of_agree (validated : registry.Validated) {extended : Registry}
    {text : String} {sizeLimit : Nat} {pattern : Pattern}
    (agree : ∀ piece ∈ grammar.pieces text.toList,
      Pattern.pieceSource extended piece = Pattern.pieceSource registry piece)
    (compiles : Pattern.tryCompile text extended grammar sizeLimit = .ok pattern)
    (unended : ¬ EndsItsComments registry (grammar.pieces text.toList)) :
    ∃ before after : List Char, ∃ regex,
      grammar.pieces text.toList = grammar.pieces before ++ grammar.pieces after ∧
      pattern.regex = some regex ∧
      ∀ added pieces sources,
        grammar.pieces (added ++ after) = pieces ++ grammar.pieces after →
        pieces.mapM (Pattern.pieceSource extended) = .ok sources →
        '\n' ∉ sources.flatten →
        let longer := String.ofList (before ++ (added ++ after))
        grammar.pieces longer.toList =
            grammar.pieces before ++ (pieces ++ grammar.pieces after) ∧
          ∃ source, Pattern.tryCompile longer extended grammar sizeLimit =
            .ok ⟨longer, keysOf (grammar.pieces longer.toList), some { regex with source }⟩ := by
  obtain ⟨sources, expr, found, parsed, fits, rfl⟩ := Pattern.tryCompile_ok compiles
  obtain ⟨before, placeholder, after, fragment, divides, admits, registered, ends, endsBefore⟩ :=
    exists_first_unended unended
  have whole : grammar.pieces text.toList =
      grammar.pieces (before ++ placeholder.text) ++ grammar.pieces after := by
    rw [divides, ← List.append_assoc, Grammar.pieces_through_placeholder admits]
  refine ⟨before ++ placeholder.text, after, _, whole, rfl, ?_⟩
  intro added pieces addedSources addedPieces foundAdded oneLine longer
  have longerPieces : grammar.pieces longer.toList =
      grammar.pieces (before ++ placeholder.text) ++ (pieces ++ grammar.pieces after) := by
    rw [String.toList_ofList, Grammar.pieces_through_placeholder admits, addedPieces]
  refine ⟨longerPieces, ?_⟩
  rw [whole] at found agree
  obtain ⟨sourcesThrough, sourcesAfter, foundThrough, foundAfter, rfl⟩ :=
    Pattern.mapM_pieceSource_append_ok found
  have foundLonger := Pattern.mapM_pieceSource_append foundThrough
    (Pattern.mapM_pieceSource_append foundAdded foundAfter)
  rw [← longerPieces] at foundLonger
  -- What is read up to the comment comes from the validated registry.
  rw [Pattern.mapM_pieceSource_congr fun piece present =>
    agree piece (List.mem_append_left _ present), Grammar.pieces_to_placeholder admits]
    at foundThrough
  obtain ⟨sourcesBefore, others, foundBefore, foundOne, rfl⟩ :=
    Pattern.mapM_pieceSource_append_ok foundThrough
  obtain rfl : [Pattern.enclose fragment] = others :=
    Except.ok.inj ((Pattern.mapM_pieceSource_hole registered).symm.trans foundOne)
  have parsedLonger : Expr.ofText (Pattern.assembled (sourcesBefore ++ [Pattern.enclose fragment] ++
      (addedSources ++ sourcesAfter))) = .ok expr := by
    rw [← parsed]
    simpa [Pattern.assembled] using ofText_swallowed validated endsBefore foundBefore ends oneLine
      (sourcesAfter.flatten ++ ['$'])
  rw [Pattern.tryCompile_of_sources foundLonger, parsedLonger, Pattern.outcome, if_neg fits]
  exact ⟨_, rfl⟩

theorem tryCompile_swallowing (validated : registry.Validated) {text : String} {sizeLimit : Nat}
    {pattern : Pattern}
    (compiles : Pattern.tryCompile text registry grammar sizeLimit = .ok pattern)
    (unended : ¬ EndsItsComments registry (grammar.pieces text.toList)) :
    ∃ before after : List Char, ∃ regex,
      grammar.pieces text.toList = grammar.pieces before ++ grammar.pieces after ∧
      pattern.regex = some regex ∧
      ∀ added pieces sources,
        grammar.pieces (added ++ after) = pieces ++ grammar.pieces after →
        pieces.mapM (Pattern.pieceSource registry) = .ok sources →
        '\n' ∉ sources.flatten →
        let longer := String.ofList (before ++ (added ++ after))
        grammar.pieces longer.toList =
            grammar.pieces before ++ (pieces ++ grammar.pieces after) ∧
          ∃ source, Pattern.tryCompile longer registry grammar sizeLimit =
            .ok ⟨longer, keysOf (grammar.pieces longer.toList), some { regex with source }⟩ :=
  tryCompile_swallowing_of_agree validated (fun _ _ => rfl) compiles unended

end Stencil
