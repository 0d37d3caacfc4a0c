import Stencil.Proofs.Pattern.Usability
import Stencil.Proofs.Regex.Enclosure

/-!
Patterns with a fragment that was not validated.

Owns `Fails`, which says that a pattern never compiles, and two conditions on a fragment that can be
read off the group that it makes alone: `EndsTidily`, under which the text after the group is read
as literal text, and `NeverCloses`, under which no text after it completes the group. Every fault
that is found before the parenthesis that closes the group gives the latter, but for a parenthesis
too many (`neverCloses_of_read`).

Whether a pattern compiles is decided by the expression that is put together, so a fragment that is
no expression by itself may be completed by the group around it and by what stands next to it. The
main statement is `fails_iff`: when it is not.
-/

namespace Stencil

open Regex Regex.Reader

/-- Within no size limit the pattern compiles; it never matches and extracts nothing. -/
def Fails [Measure] (registry : Registry) (grammar : Grammar) (text : String) : Prop :=
  ∀ sizeLimit,
    (∃ cause, Pattern.tryCompile text registry grammar sizeLimit = .error cause) ∧
      (Pattern.compile text registry grammar sizeLimit).isNever = true ∧
      ∀ input, (Pattern.compile text registry grammar sizeLimit).isMatch input = false ∧
        (Pattern.compile text registry grammar sizeLimit).extract input = none

/-- A placeholder of the pattern names the filter. -/
def Uses (grammar : Grammar) (name text : String) : Prop :=
  ∃ placeholder ∈ holesOf (grammar.pieces text.toList), placeholder.filter = name

/-- The reader after the group of a fragment that is read alone. -/
def groupOf (fragment : String) : Except SyntaxError Reader :=
  ({} : Reader).read (Pattern.enclose fragment)

/-- If the group can be read alone, no construct and no comment is under way at its end. -/
def EndsTidily (fragment : String) : Prop :=
  ∀ reader, groupOf fragment = .ok reader → reader.Tidy

/-- After fragments that end their comments the filter is named once, and nothing but literal text
follows. If its fragment leaves something under way, nothing follows at all. -/
def UsesLast (registry : Registry) (grammar : Grammar) (name fragment text : String) : Prop :=
  ∃ (before : List Piece) (placeholder : Placeholder) (line : List Char),
    grammar.pieces text.toList = before ++ .hole placeholder :: line.map Piece.char ∧
      placeholder.filter = name ∧ (∀ other ∈ holesOf before, other.filter ≠ name) ∧
      EndsItsComments registry before ∧ (EndsTidily fragment ∨ line = [])

/-- The group cannot be read alone, or it is left open between two constructs with the flags that
are set at first. -/
def NeverCloses (fragment : String) : Prop :=
  ∀ reader, groupOf fragment = .ok reader → reader.Neutral ∧ reader.outer ≠ []

instance (fragment : String) : Decidable (NeverCloses fragment) :=
  match group : groupOf fragment with
  | .error cause => isTrue fun reader reads => nomatch group.symm.trans reads
  | .ok reader =>
    decidable_of_iff (reader.Neutral ∧ reader.outer.isEmpty = false)
      ⟨fun holds other reads => by
        obtain rfl := Except.ok.inj (group.symm.trans reads)
        exact ⟨holds.1, by simpa using holds.2⟩,
      fun holds => ⟨(holds reader group).1, by simpa using (holds reader group).2⟩⟩

variable {registry extended : Registry} {grammar : Grammar} {name fragment text : String}

/-- The group of a fragment that is an expression by itself and ends its comments closes again. -/
theorem exists_groupOf {expr : Expr} (alone : Expr.ofText fragment.toList = .ok expr)
    (ends : endsInComment fragment = false) :
    ∃ group, groupOf fragment = .ok group ∧ group.Neutral ∧ group.outer = [] := by
  have distinct : (groupNames fragment ++ []).Nodup := by
    obtain ⟨reader, reads, settles, _⟩ := read_of_ofText alone
    have moves := (read_keeps reads (Nat.zero_le _)).1.trans (settle_moves settles)
    rw [List.append_nil]
    exact Frame.Moves.names_nodup moves .nil
  have reads := read_enclose alone ends [] 0 distinct []
  rw [List.append_nil] at reads
  exact ⟨_, reads, neutral_between _ _ _, rfl⟩

/-- A fault that is found in a fragment before the parenthesis that closes its group, other than a
parenthesis too many, cannot be repaired by what follows. -/
theorem neverCloses_of_read {cause : SyntaxError}
    (breaks : ({} : Reader).read (fragment.toList ++ [')']) = .error cause)
    (inside : cause ≠ .unopenedGroup) : NeverCloses fragment := by
  intro group reads
  have opens : groupOf fragment =
      (({} : Reader).openGroup none {}).read (fragment.toList ++ [')']) := by
    rw [groupOf, Pattern.enclose, List.append_assoc]
    exact (neutral_between [] 0 []).read_opening _
  have tracks : Tracks 1 ({} : Reader) (({} : Reader).openGroup none {}) :=
    { flags := rfl, brackets := rfl, mode := rfl, inComment := rfl, skip := rfl
      names := fun _ present => present
      last := .none
      layers := .base (.refl _) rfl }
  rcases read_lockstep tracks _ group (opens.symm.trans reads) with ⟨_, fails⟩ | ⟨_, alone, _⟩
  · exact absurd (Except.error.inj (breaks.symm.trans fails)) inside
  · rw [breaks] at alone
    simp at alone

/-- A fragment whose group never closes is no expression by itself, unless it ends within a
comment. -/
theorem error_of_neverCloses (neverCloses : NeverCloses fragment)
    (ends : endsInComment fragment = false) :
    ∃ cause, Expr.ofText fragment.toList = .error cause := by
  cases alone : Expr.ofText fragment.toList with
  | error cause => exact ⟨cause, rfl⟩
  | ok expr =>
      obtain ⟨group, reads, _, outermost⟩ := exists_groupOf alone ends
      exact absurd outermost (neverCloses group reads).2

/-! ### Failure -/

theorem fails_of_tryCompile [Measure]
    (never : ∀ sizeLimit pattern,
      Pattern.tryCompile text registry grammar sizeLimit ≠ .ok pattern) :
    Fails registry grammar text := by
  intro sizeLimit
  cases compiles : Pattern.tryCompile text registry grammar sizeLimit with
  | error cause =>
      have isNever : Pattern.compile text registry grammar sizeLimit =
          Pattern.never text (grammar.keys text) := by
        rw [Pattern.compile, compiles]
      rw [isNever]
      exact ⟨⟨cause, rfl⟩, rfl, fun _ => ⟨rfl, rfl⟩⟩
  | ok pattern => exact absurd compiles (never sizeLimit pattern)

theorem Fails.tryCompile_ne [Measure] (fails : Fails registry grammar text) (sizeLimit : Nat)
    (pattern : Pattern) : Pattern.tryCompile text registry grammar sizeLimit ≠ .ok pattern := by
  obtain ⟨⟨cause, failed⟩, _⟩ := fails sizeLimit
  rw [failed]
  exact nofun

/-- A pattern fails if its parts are not read as an expression. -/
theorem fails_of_ofText [Measure]
    (never : ∀ sources expr,
      (grammar.pieces text.toList).mapM (Pattern.pieceSource registry) = .ok sources →
        Expr.ofText (Pattern.assembled sources) ≠ .ok expr) :
    Fails registry grammar text := by
  refine fails_of_tryCompile fun sizeLimit pattern compiles => ?_
  obtain ⟨sources, expr, found, parsed, _⟩ := Pattern.tryCompile_ok compiles
  exact never sources expr found parsed

/-- A size limit is found for every expression. -/
theorem Fails.ofText_ne [Measure] (fails : Fails registry grammar text) {sources : List (List Char)}
    (found : (grammar.pieces text.toList).mapM (Pattern.pieceSource registry) = .ok sources)
    (expr : Expr) : Expr.ofText (Pattern.assembled sources) ≠ .ok expr := by
  intro parsed
  obtain ⟨needed, compiles⟩ := (compilesWithin_iff_ofText found).mpr ⟨expr, parsed⟩
  obtain ⟨pattern, compiled, _⟩ := (compiles needed).2 (Nat.le_refl needed)
  exact fails.tryCompile_ne needed pattern compiled

/-! ### One more filter -/

section Register

variable {pieces : List Piece} (unused : ∀ other ∈ holesOf pieces, other.filter ≠ name)

include unused

theorem pieceSource_register :
    ∀ piece ∈ pieces, Pattern.pieceSource (registry.register name fragment) piece =
      Pattern.pieceSource registry piece := by
  intro piece present
  refine Pattern.pieceSource_congr ?_
  rintro placeholder rfl
  exact Registry.get?_register_of_ne (unused placeholder (mem_holesOf.mpr present)).symm

theorem endsItsComments_register :
    EndsItsComments (registry.register name fragment) pieces ↔ EndsItsComments registry pieces := by
  refine forall₂_congr fun placeholder present => ?_
  rw [Registry.get?_register_of_ne (unused placeholder present).symm]

end Register

/-- A pattern that uses the filter divides at its first use. -/
theorem Uses.exists_first (uses : Uses grammar name text) :
    ∃ before placeholder after, placeholder.filter = name ∧
      grammar.pieces text.toList = before ++ .hole placeholder :: after ∧
      ∀ other ∈ holesOf before, other.filter ≠ name := by
  obtain ⟨used, present, named⟩ := uses
  obtain ⟨before, placeholder, after, divides, admits, namesIt, noneBefore⟩ :=
    Grammar.exists_first_placeholder (fun placeholder => placeholder.filter = name) text.toList
      ⟨used, mem_holesOf.mp present, named⟩
  refine ⟨grammar.pieces before, placeholder, grammar.pieces after, namesIt, ?_, fun other named =>
    noneBefore other (mem_holesOf.mp named)⟩
  rw [divides, Grammar.pieces_append_placeholder admits]

/-- The parts of a pattern whose filters before the first use are those of the validated
registry. -/
theorem exists_sources_at_use {before after : List Piece} {placeholder : Placeholder}
    (namesIt : placeholder.filter = name) (unused : ∀ other ∈ holesOf before, other.filter ≠ name)
    {sources : List (List Char)}
    (found : (before ++ .hole placeholder :: after).mapM
      (Pattern.pieceSource (registry.register name fragment)) = .ok sources) :
    ∃ sourcesBefore sourcesAfter,
      before.mapM (Pattern.pieceSource registry) = .ok sourcesBefore ∧
      after.mapM (Pattern.pieceSource (registry.register name fragment)) = .ok sourcesAfter ∧
      Pattern.assembled sources = '^' :: (sourcesBefore.flatten ++
        (Pattern.enclose fragment ++ (sourcesAfter.flatten ++ ['$']))) := by
  obtain ⟨sourcesBefore, others, foundBefore, foundOthers, rfl⟩ :=
    Pattern.mapM_pieceSource_append_ok found
  obtain ⟨source, sourcesAfter, foundSource, foundAfter, rfl⟩ :=
    Pattern.mapM_pieceSource_cons_ok foundOthers
  obtain ⟨same, registered, rfl⟩ := Pattern.pieceSource_hole_ok foundSource
  rw [namesIt, Registry.get?_register_self] at registered
  obtain rfl := Option.some.inj registered
  rw [Pattern.mapM_pieceSource_congr (pieceSource_register unused)] at foundBefore
  exact ⟨sourcesBefore, sourcesAfter, foundBefore, foundAfter, by simp [Pattern.assembled]⟩

/-! ### Reading up to a group and through it -/

/-- What is read before the group of a fragment leaves a neutral reader outside of all groups. -/
theorem exists_reader_before [Measure] (validated : registry.Validated) {before : List Piece}
    (ends : EndsItsComments registry before) {sources : List (List Char)}
    (found : before.mapM (Pattern.pieceSource registry) = .ok sources) {tail : List Char}
    {last : Reader} (reads : ({} : Reader).read ('^' :: (sources.flatten ++ tail)) = .ok last) :
    ∃ parts groups names,
      (between (parts ++ [{ expr := .look .textStart }]) groups names).read tail = .ok last := by
  have anchor : ({} : Reader).read ('^' :: (sources.flatten ++ tail)) =
      (between [{ expr := .look .textStart }] 0 []).read (sources.flatten ++ tail) :=
    read_caret [] 0 [] _
  rw [anchor] at reads
  by_cases distinct : ((fragmentsOf registry before).flatMap groupNames ++ []).Nodup
  · obtain ⟨groups, names, readsBefore⟩ :=
      read_sources validated ends found [{ expr := .look .textStart }] 0 distinct
    rw [readsBefore] at reads
    exact ⟨_, groups, names, reads⟩
  · rw [read_sources_taken validated ends found [{ expr := .look .textStart }] 0 .nil distinct]
      at reads
    simp at reads

/-- A group is read upon any neutral reader only if it is read alone. -/
theorem groupOf_lockstep {whole : Reader} (neutral : whole.Neutral) (fragment : String) :
    Lockstep whole.outer.length (groupOf fragment) (whole.read (Pattern.enclose fragment)) :=
  read_enclose_lockstep (neutral_between [] 0 []) neutral rfl ⟨.nil _, .nil _⟩ nofun fragment

/-- What follows the group goes on from the reader that has read it. The group can be read alone,
unless it closes groups of others. -/
theorem exists_of_read_group {whole last : Reader} (neutral : whole.Neutral) {tail : List Char}
    (reads : whole.read (Pattern.enclose fragment ++ tail) = .ok last) :
    ∃ after, after.read tail = .ok last ∧
      ((whole.outer ≠ [] ∧ groupOf fragment = .error .unopenedGroup) ∨
        ∃ group, groupOf fragment = .ok group ∧ Tracks whole.outer.length group after) := by
  rw [read_enclose_tail] at reads
  obtain ⟨after, readsGroup, reads⟩ := exists_of_bind_ok reads
  refine ⟨after, reads, ?_⟩
  rcases groupOf_lockstep neutral fragment after readsGroup with ⟨below, fails⟩ | goesOn
  · exact .inl ⟨fun outermost => below (by rw [outermost]; rfl), fails⟩
  · exact .inr goesOn

/-! ### The last use -/

/-- A fragment that ends tidily in a group that is read alone does so outside of all groups. -/
theorem EndsTidily.tidy (endsTidily : EndsTidily fragment) {alone group : Reader}
    (neutral : alone.Neutral) (outermost : alone.outer = [])
    (reads : alone.read (Pattern.enclose fragment) = .ok group) : group.Tidy := by
  rcases groupOf_lockstep neutral fragment group reads with ⟨below, _⟩ | ⟨first, readsFirst, tracks⟩
  · exact absurd (congrArg List.length outermost) below
  · exact tracks.tidy_iff.mpr (endsTidily first readsFirst)

/-- Between constructs outside of groups, what was read before a group has no say in it but for the
names of the groups. -/
theorem enclose_between_lockstep (first before : List Part) (groups : Nat)
    (names : List (List Char)) (fragment : String) :
    Lockstep 0 ((between first 0 []).read (Pattern.enclose fragment))
      ((between (before ++ first) groups names).read (Pattern.enclose fragment)) :=
  read_enclose_lockstep (neutral_between first 0 [])
    (neutral_between (before ++ first) groups names) rfl
    ⟨(NoDeeper.refl first).append_right before, .refl _⟩ nofun fragment

/-- Where nothing follows the group but literal text, the group is read as if it stood alone between
the anchors. If a construct is under way at its end, not even literal text may follow. -/
theorem ofText_alone [Measure] (validated : registry.Validated) {before : List Piece}
    (ends : EndsItsComments registry before) {sources : List (List Char)}
    (found : before.mapM (Pattern.pieceSource registry) = .ok sources) {line : List Char}
    (tidyOrLast : EndsTidily fragment ∨ line = []) {expr : Expr}
    (parsed : Expr.ofText ('^' :: (sources.flatten ++ (Pattern.enclose fragment ++
      ((line.map Pattern.escapeChar).flatten ++ ['$'])))) = .ok expr) :
    ∃ alone, Expr.ofText ('^' :: (Pattern.enclose fragment ++ ['$'])) = .ok alone := by
  obtain ⟨last, reads, finishes⟩ := exists_of_bind_ok parsed
  obtain ⟨parts, groups, names, reads⟩ := exists_reader_before validated ends found reads
  rw [read_enclose_tail] at reads
  obtain ⟨after, readsGroup, reads⟩ := exists_of_bind_ok reads
  have inStep := enclose_between_lockstep [{ expr := .look .textStart }] parts groups names fragment
  obtain ⟨group, readsAlone, tracks⟩ :=
    (inStep after readsGroup).resolve_left fun below => below.1 rfl
  -- In both cases the reader at the end follows the one that read the group alone.
  have readsLast : ∃ lastAlone, group.read ['$'] = .ok lastAlone ∧ Tracks 0 lastAlone last := by
    rcases tidyOrLast with endsTidily | rfl
    · have tidy := endsTidily.tidy (neutral_between _ 0 []) rfl readsAlone
      exact exists_read_dollar_of_literal tracks tidy reads finishes
    · exact (read_lockstep tracks ['$'] last reads).resolve_left fun below => below.1 rfl
  obtain ⟨lastAlone, readsLast, tracks⟩ := readsLast
  obtain ⟨alone, finishesAlone⟩ := exists_finish tracks finishes
  have readsAll :
      ({} : Reader).read ('^' :: (Pattern.enclose fragment ++ ['$'])) = .ok lastAlone := by
    change (between [] 0 []).read _ = _
    rw [read_caret, read_enclose_tail, readsAlone]
    exact readsLast
  refine ⟨alone, ?_⟩
  unfold Expr.ofText
  rw [readsAll]
  exact finishesAlone

/-! ### Groups that stay open -/

/-- A group that is left open is never closed by groups that are neutral when they are read
alone. -/
theorem read_stays_open {pieces : List Piece}
    (neutralGroups : ∀ placeholder ∈ holesOf pieces, ∀ fragment,
      extended.get? placeholder.filter = some fragment →
        ∃ group, groupOf fragment = .ok group ∧ group.Neutral)
    {sources : List (List Char)}
    (found : pieces.mapM (Pattern.pieceSource extended) = .ok sources) {reader last : Reader}
    (neutral : reader.Neutral) (openGroup : reader.outer ≠ []) {tail : List Char}
    (reads : reader.read (sources.flatten ++ tail) = .ok last) :
    ∃ after : Reader, after.Neutral ∧ after.outer ≠ [] ∧ after.read tail = .ok last := by
  induction pieces generalizing sources reader with
  | nil =>
      obtain rfl := Except.ok.inj found
      exact ⟨reader, neutral, openGroup, reads⟩
  | cons piece rest inductionHypothesis =>
      obtain ⟨source, others, foundSource, foundOthers, rfl⟩ :=
        Pattern.mapM_pieceSource_cons_ok found
      rw [List.flatten_cons, List.append_assoc] at reads
      cases piece with
      | char c =>
          obtain rfl := Except.ok.inj foundSource
          obtain ⟨next, tidy, adds, reads⟩ := neutral.toTidy.read_escapeChar reads
          exact inductionHypothesis neutralGroups foundOthers (neutral.of_adds adds tidy)
            (adds.outer ▸ openGroup) reads
      | hole placeholder =>
          obtain ⟨fragment, registered, rfl⟩ := Pattern.pieceSource_hole_ok foundSource
          rw [holesOf_hole, List.forall_mem_cons] at neutralGroups
          obtain ⟨group, readsAlone, neutralGroup⟩ := neutralGroups.1 fragment registered
          obtain ⟨next, reads, ⟨_, fails⟩ | ⟨same, readsSame, tracks⟩⟩ :=
            exists_of_read_group neutral reads
          · rw [readsAlone] at fails
            simp at fails
          · obtain rfl := Except.ok.inj (readsAlone.symm.trans readsSame)
            have stillOpen : next.outer ≠ [] := fun outermost =>
              openGroup (List.length_eq_zero_iff.mp (tracks.outermost outermost).2)
            exact inductionHypothesis neutralGroups.2 foundOthers (tracks.neutral neutralGroup)
              stillOpen reads

/-- Beside a group that is left open, those of validated fragments are closed again. -/
theorem exists_neutral_groupOf [Measure] (validated : registry.Validated) {group : Reader}
    (reads : groupOf fragment = .ok group) (neutral : group.Neutral) {other fragment' : String}
    (registered : (registry.register name fragment).get? other = some fragment')
    (ends : endsInComment fragment' = false) :
    ∃ group, groupOf fragment' = .ok group ∧ group.Neutral := by
  rw [Registry.get?_register] at registered
  split at registered
  next =>
    obtain rfl := Option.some.inj registered
    exact ⟨group, reads, neutral⟩
  next =>
    obtain ⟨expr, alone, _⟩ := validated.ofText registered
    obtain ⟨group, reads, neutral, _⟩ := exists_groupOf alone ends
    exact ⟨group, reads, neutral⟩

/-- A pattern fails that uses a group that never closes. -/
theorem fails_of_neverCloses [Measure] (validated : registry.Validated)
    (neverCloses : NeverCloses fragment) (uses : Uses grammar name text)
    (ends : EndsItsComments (registry.register name fragment) (grammar.pieces text.toList)) :
    Fails (registry.register name fragment) grammar text := by
  refine fails_of_ofText fun sources expr found parsed => ?_
  obtain ⟨before, placeholder, after, namesIt, divides, unused⟩ := uses.exists_first
  rw [divides] at found ends
  obtain ⟨sourcesBefore, sourcesAfter, foundBefore, foundAfter, assembled⟩ :=
    exists_sources_at_use namesIt unused found
  rw [assembled] at parsed
  have endsBefore : EndsItsComments registry before :=
    (endsItsComments_register unused).mp fun other present =>
      ends other (by simp [holesOf_append, present])
  obtain ⟨last, reads, finishes⟩ := exists_of_bind_ok parsed
  obtain ⟨parts, groups, names, reads⟩ :=
    exists_reader_before validated endsBefore foundBefore reads
  obtain ⟨opened, reads, ⟨inner, _⟩ | ⟨group, readsAlone, tracks⟩⟩ :=
    exists_of_read_group (neutral_between _ groups names) reads
  · exact inner rfl
  · obtain ⟨neutral, openGroup⟩ := neverCloses group readsAlone
    have stillOpen : opened.outer ≠ [] := fun outermost =>
      openGroup (tracks.outermost outermost).1
    obtain ⟨final, neutralFinal, openFinal, reads⟩ := read_stays_open
      (fun other present _ registered => exists_neutral_groupOf validated readsAlone neutral
        registered (ends other (by simp [present]) _ registered))
      foundAfter (tracks.neutral neutral) stillOpen reads
    exact openFinal (neutralFinal.toTidy.outermost reads finishes).1

/-! ### Patterns of one filter -/

theorem sources_timesPattern (isIdentifier : grammar.isIdentifier name = true) :
    (grammar.pieces (timesPattern 1 name).toList).mapM
      (Pattern.pieceSource (registry.register name fragment)) = .ok [Pattern.enclose fragment] := by
  rw [pieces_timesPattern isIdentifier]
  exact Pattern.mapM_pieceSource_hole Registry.get?_register_self

/-- A filter that is named once and last is read as in the pattern that names nothing else. -/
theorem fails_of_usesLast [Measure] (validated : registry.Validated)
    (isIdentifier : grammar.isIdentifier name = true)
    (single : Fails (registry.register name fragment) grammar (timesPattern 1 name))
    (usesLast : UsesLast registry grammar name fragment text) :
    Fails (registry.register name fragment) grammar text := by
  refine fails_of_ofText fun sources expr found parsed => ?_
  obtain ⟨before, placeholder, line, divides, namesIt, unused, ends, tidyOrLast⟩ := usesLast
  rw [divides] at found
  obtain ⟨sourcesBefore, sourcesAfter, foundBefore, foundAfter, assembled⟩ :=
    exists_sources_at_use namesIt unused found
  obtain rfl : line.map Pattern.escapeChar = sourcesAfter :=
    Except.ok.inj ((Pattern.mapM_pieceSource_chars line).symm.trans foundAfter)
  rw [assembled] at parsed
  obtain ⟨alone, parsedAlone⟩ := ofText_alone validated ends foundBefore tidyOrLast parsed
  refine single.ofText_ne (sources_timesPattern isIdentifier) alone ?_
  rw [← parsedAlone, Pattern.assembled, List.flatten_singleton]

theorem usesLast_timesPattern (isIdentifier : grammar.isIdentifier name = true) :
    UsesLast registry grammar name fragment (timesPattern 1 name) := by
  refine ⟨[], ⟨name, none⟩, [], ?_, rfl, by simp, by simp [EndsItsComments], .inr rfl⟩
  rw [pieces_timesPattern isIdentifier]
  rfl

/-! ### Comments that swallow the filter -/

/-- A pattern with a fragment that ends within a comment may name the filter on the line of the
comment and compiles all the same. -/
theorem exists_uses_compiles [Measure] (validated : registry.Validated)
    (isIdentifier : grammar.isIdentifier name = true) (oneLine : '\n' ∉ fragment.toList)
    (unused : ∀ other ∈ holesOf (grammar.pieces text.toList), other.filter ≠ name)
    {sizeLimit : Nat} {pattern : Pattern}
    (compiles : Pattern.tryCompile text (registry.register name fragment) grammar sizeLimit =
      .ok pattern)
    (unended : ¬ EndsItsComments registry (grammar.pieces text.toList)) :
    ∃ longer pattern, Uses grammar name longer ∧
      Pattern.tryCompile longer (registry.register name fragment) grammar sizeLimit =
        .ok pattern := by
  obtain ⟨before, after, regex, _, _, swallows⟩ :=
    tryCompile_swallowing_of_agree validated (pieceSource_register unused) compiles unended
  have admits : grammar.Admits ⟨name, none⟩ := Grammar.admits_of_isIdentifier isIdentifier
  have onLine : '\n' ∉ [Pattern.enclose fragment].flatten := by
    simpa [Pattern.enclose] using oneLine
  obtain ⟨pieces, source, compilesLonger⟩ := swallows (Placeholder.text ⟨name, none⟩)
    [.hole ⟨name, none⟩] [Pattern.enclose fragment] (Grammar.pieces_placeholder admits after)
    (Pattern.mapM_pieceSource_hole Registry.get?_register_self) onLine
  refine ⟨_, _, ⟨⟨name, none⟩, ?_, rfl⟩, compilesLonger⟩
  rw [pieces]
  simp

/-! ### When a pattern fails -/

/-- One filter with any fragment beside validated ones. All patterns in which it comes last fail
exactly if the one fails that names the filter and holds nothing else. If the group of the fragment
never closes, all patterns that use it fail whose fragments end their comments; and all that use it
fail, if the fragment is on one line, exactly if no pattern compiles with a fragment that ends
within a comment. Every fault that is found before the parenthesis that closes the group makes it one
that never closes, but for a parenthesis too many; and a fragment whose group never closes is no
expression by itself, unless it ends within a comment. -/
theorem fails_iff [Measure] (validated : registry.Validated) (grammar : Grammar)
    (isIdentifier : grammar.isIdentifier name = true) (fragment : String) :
    let extended := registry.register name fragment
    ((∀ text, UsesLast registry grammar name fragment text → Fails extended grammar text) ↔
      Fails extended grammar (timesPattern 1 name)) ∧
    (NeverCloses fragment →
      (∀ text, Uses grammar name text →
        EndsItsComments extended (grammar.pieces text.toList) → Fails extended grammar text) ∧
      ('\n' ∉ fragment.toList →
        ((∀ text, Uses grammar name text → Fails extended grammar text) ↔
          ∀ text sizeLimit pattern,
            Pattern.tryCompile text extended grammar sizeLimit = .ok pattern →
              EndsItsComments extended (grammar.pieces text.toList)))) ∧
    (∀ cause, ({} : Reader).read (fragment.toList ++ [')']) = .error cause →
      cause ≠ .unopenedGroup → NeverCloses fragment) ∧
    (NeverCloses fragment → endsInComment fragment = false →
      ∃ cause, Expr.ofText fragment.toList = .error cause) := by
  intro extended
  refine ⟨⟨fun fails => ?_, fun single text usesLast => ?_⟩,
    fun neverCloses => ⟨fun text uses ends => ?_, fun oneLine => ⟨?_, ?_⟩⟩,
    fun _ => neverCloses_of_read, error_of_neverCloses⟩
  · exact fails _ (usesLast_timesPattern isIdentifier)
  · exact fails_of_usesLast validated isIdentifier single usesLast
  · exact fails_of_neverCloses validated neverCloses uses ends
  · intro fails text sizeLimit pattern compiles
    have unused : ∀ other ∈ holesOf (grammar.pieces text.toList), other.filter ≠ name := by
      intro other present namesIt
      exact (fails text ⟨other, present, namesIt⟩).tryCompile_ne sizeLimit pattern compiles
    by_contra unended
    rw [endsItsComments_register unused] at unended
    obtain ⟨longer, other, uses, compilesLonger⟩ :=
      exists_uses_compiles validated isIdentifier oneLine unused compiles unended
    exact (fails longer uses).tryCompile_ne sizeLimit other compilesLonger
  · intro ends text uses
    refine fails_of_tryCompile fun sizeLimit pattern compiles => ?_
    exact (fails_of_neverCloses validated neverCloses uses
      (ends text sizeLimit pattern compiles)).tryCompile_ne sizeLimit pattern compiles

/-- A fragment with an open group and one with a range the wrong way round, used twice, and one with
an open class, used last. -/
theorem fails_iff_open :
    Registry.builtin.Validated ∧ (Grammar.ofBound 64).isIdentifier "f" = true ∧
      (∃ cause, Expr.ofText "(a".toList = .error cause) ∧
      Fails (Registry.builtin.register "f" "(a") (Grammar.ofBound 64) "[f:]-[digit:][f:]" ∧
      Fails (Registry.builtin.register "f" "([b-a])") (Grammar.ofBound 64) "[f:]-[digit:][f:]" ∧
      Fails (Registry.builtin.register "f" "([unclosed") (Grammar.ofBound 64) "[digit:]/[f:]" := by
  have isIdentifier : (Grammar.ofBound 64).isIdentifier "f" = true := by decide +kernel
  have forFragment := fails_iff Registry.validated_builtin (Grammar.ofBound 64) isIdentifier
  refine ⟨Registry.validated_builtin, isIdentifier, ?_, ?_, ?_, ?_⟩
  · exact (forFragment "(a").2.2.2 (by decide +kernel) (by decide +kernel)
  · exact ((forFragment "(a").2.1 (by decide +kernel)).1 _ ⟨⟨"f", none⟩, by decide +kernel, rfl⟩
      (by decide +kernel)
  · have found : ({} : Reader).read ("([b-a])".toList ++ [')']) = .error .classRange := rfl
    obtain ⟨_, uses, breaks, _⟩ := forFragment "([b-a])"
    exact (uses (breaks _ found nofun)).1 _ ⟨⟨"f", none⟩, by decide +kernel, rfl⟩
      (by decide +kernel)
  · refine (forFragment "([unclosed").1.mpr (fails_of_ofText fun sources expr found parsed => ?_) _
      ⟨[.hole ⟨"digit", none⟩, .char '/'], ⟨"f", none⟩, [], by decide +kernel, rfl,
        by decide +kernel, by decide +kernel, .inr rfl⟩
    obtain rfl := Except.ok.inj ((sources_timesPattern isIdentifier).symm.trans found)
    have fails : Expr.ofText (Pattern.assembled [Pattern.enclose "([unclosed"]) =
        .error .unclosedClass := rfl
    rw [fails] at parsed
    simp at parsed

private theorem exists_of_any {result : Except Error Pattern} {holds : Pattern → Bool}
    (any : result.toOption.any holds = true) : ∃ pattern, result = .ok pattern ∧ holds pattern := by
  cases result with
  | error cause => simp [Except.toOption] at any
  | ok pattern => exact ⟨pattern, rfl, any⟩

/-- Two fragments that are no expressions by themselves. The first closes the group around it and
opens another one; the class that the second leaves open is closed by a valid fragment. -/
theorem not_fails_completed :
    (∃ cause, Expr.ofText "x)|(?:y".toList = .error cause) ∧
      Uses (Grammar.ofBound 64) "f" "[f:]" ∧
      (∃ pattern, Pattern.tryCompile "[f:]" (Registry.builtin.register "f" "x)|(?:y")
          (Grammar.ofBound 64) defaultSizeLimit = .ok pattern ∧
        pattern.isNever = false ∧ pattern.isMatch "x" = true) ∧
      (∃ cause, Expr.ofText "([unclosed".toList = .error cause) ∧
      fragmentFault? "(a)(?:])" = none ∧
      Uses (Grammar.ofBound 64) "f" "[f:][g:]" ∧
      ∃ pattern, Pattern.tryCompile "[f:][g:]"
          ((Registry.builtin.register "f" "([unclosed").register "g" "(a)(?:])")
          (Grammar.ofBound 64) defaultSizeLimit = .ok pattern ∧
        pattern.isNever = false ∧ pattern.isMatch "u" = true := by
  refine ⟨⟨.unopenedGroup, rfl⟩, ⟨⟨"f", none⟩, by decide +kernel, rfl⟩, ?_,
    ⟨.unclosedClass, rfl⟩, by decide +kernel, ⟨⟨"f", none⟩, by decide +kernel, rfl⟩, ?_⟩
  · obtain ⟨pattern, compiles, accepts⟩ := exists_of_any (show (Pattern.tryCompile "[f:]"
      (Registry.builtin.register "f" "x)|(?:y") (Grammar.ofBound 64) defaultSizeLimit).toOption.any
        (fun pattern => !pattern.isNever && pattern.isMatch "x") = true by decide +kernel)
    exact ⟨pattern, compiles, by simpa using accepts⟩
  · obtain ⟨pattern, compiles, accepts⟩ := exists_of_any (show (Pattern.tryCompile "[f:][g:]"
      ((Registry.builtin.register "f" "([unclosed").register "g" "(a)(?:])")
      (Grammar.ofBound 64) defaultSizeLimit).toOption.any
        (fun pattern => !pattern.isNever && pattern.isMatch "u") = true by decide +kernel)
    exact ⟨pattern, compiles, by simpa using accepts⟩

end Stencil
