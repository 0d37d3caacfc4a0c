import Stencil.Proofs.Regex.Assembly
import Stencil.Proofs.Regex.Lockstep

/-!
Groups and literal text upon any layers.

Owns `Neutral`, the readers that are between two constructs with the flags that are set at first,
and `Tidy`, those that are between two constructs or between two members of a class, with any flags.
A group without a number is read upon a neutral reader only if it is read alone
(`read_enclose_lockstep`). Escaped literal text neither closes a class or a group nor opens one
(`Tidy.read_escapeChar`).
-/

namespace Stencil.Regex

theorem NoDeeper.trans {parts others more : List Part} (left : NoDeeper parts others)
    (right : NoDeeper others more) : NoDeeper parts more where
  length := left.length.trans right.length
  depth part present := by
    obtain ⟨other, found, le⟩ := left.depth part present
    obtain ⟨last, foundLast, leLast⟩ := right.depth other found
    exact ⟨last, foundLast, le.trans leLast⟩

theorem Layer.Within.refl (layer : Layer) : layer.Within layer := ⟨.refl _, .refl _⟩

theorem Layer.Within.trans {layer other last : Layer} (left : layer.Within other)
    (right : other.Within last) : layer.Within last :=
  ⟨left.parts.trans right.parts, left.finished.trans right.finished⟩

namespace Reader

/-- Between two constructs or two members of a class, outside of comments. -/
structure Tidy (reader : Reader) : Prop where
  mode : reader.mode = .plain
  inComment : reader.inComment = false
  skip : reader.skip = 0

/-- Between two constructs, outside of classes and comments, with the flags that are set at
first. -/
structure Neutral (reader : Reader) : Prop extends reader.Tidy where
  flags : reader.flags = {}
  brackets : reader.brackets = []

instance (reader : Reader) : Decidable reader.Tidy :=
  decidable_of_iff (reader.mode = .plain ∧ reader.inComment = false ∧ reader.skip = 0)
    ⟨fun ⟨mode, inComment, skip⟩ => ⟨mode, inComment, skip⟩,
      fun ⟨mode, inComment, skip⟩ => ⟨mode, inComment, skip⟩⟩

instance (reader : Reader) : Decidable reader.Neutral :=
  decidable_of_iff (reader.Tidy ∧ reader.flags = {} ∧ reader.brackets.isEmpty = true)
    ⟨fun ⟨tidy, flags, brackets⟩ => ⟨tidy, flags, List.isEmpty_iff.mp brackets⟩,
      fun ⟨tidy, flags, brackets⟩ => ⟨tidy, flags, List.isEmpty_iff.mpr brackets⟩⟩

variable {surplus : Nat} {alone whole reader : Reader}

theorem neutral_between (parts : List Part) (groups : Nat) (names : List (List Char)) :
    (between parts groups names).Neutral :=
  { mode := rfl, inComment := rfl, skip := rfl, flags := rfl, brackets := rfl }

/-- A neutral reader is known by what it has put together. -/
theorem Neutral.eq (neutral : reader.Neutral) :
    reader =
      { layer := reader.layer, outer := reader.outer, groups := reader.groups
        names := reader.names } := by
  obtain ⟨⟨mode, inComment, skip⟩, flags, brackets⟩ := neutral
  cases reader
  simp only at mode inComment skip flags brackets
  simp only [mode, inComment, skip, flags, brackets]

end Reader

namespace Tracks

variable {surplus : Nat} {alone whole : Reader}

theorem tidy_iff (tracks : Tracks surplus alone whole) : whole.Tidy ↔ alone.Tidy := by
  constructor
  · rintro ⟨mode, inComment, skip⟩
    exact ⟨tracks.mode ▸ mode, tracks.inComment ▸ inComment, tracks.skip ▸ skip⟩
  · rintro ⟨mode, inComment, skip⟩
    exact ⟨tracks.mode ▸ mode, tracks.inComment ▸ inComment, tracks.skip ▸ skip⟩

theorem neutral (tracks : Tracks surplus alone whole) (neutral : alone.Neutral) :
    whole.Neutral where
  toTidy := tracks.tidy_iff.mpr neutral.toTidy
  flags := tracks.flags.trans neutral.flags
  brackets := tracks.brackets.trans neutral.brackets

/-- The first reader is outside of all groups if the second one is, which then has no more
layers. -/
theorem outermost (tracks : Tracks surplus alone whole) (outermost : whole.outer = []) :
    alone.outer = [] ∧ surplus = 0 := by
  have length := tracks.layers.length_eq
  simp only [List.length_cons, outermost, List.length_nil] at length
  exact ⟨List.length_eq_zero_iff.mp (by omega), by omega⟩

end Tracks

namespace Reader

variable {surplus : Nat} {alone whole reader : Reader}

/-! ### Groups -/

theorem Neutral.read_opening (neutral : reader.Neutral) (text : List Char) :
    reader.read ("(?:".toList ++ text) = (reader.openGroup none {}).read text := by
  rw [neutral.eq]
  rfl

/-- A group is read upon other layers only if it is read alone. -/
theorem read_enclose_lockstep (neutralAlone : alone.Neutral) (neutral : whole.Neutral)
    (outermost : alone.outer = []) (within : alone.layer.Within whole.layer)
    (names : ∀ name ∈ alone.names, name ∈ whole.names) (fragment : String) :
    Lockstep whole.outer.length (alone.read (Pattern.enclose fragment))
      (whole.read (Pattern.enclose fragment)) := by
  rw [Pattern.enclose, List.append_assoc, neutralAlone.read_opening, neutral.read_opening]
  refine read_lockstep ?_ _
  exact {
    flags := rfl
    brackets := neutral.brackets.trans neutralAlone.brackets.symm
    mode := rfl
    inComment := neutral.inComment.trans neutralAlone.inComment.symm
    skip := neutral.skip.trans neutralAlone.skip.symm
    names
    last := .none
    layers := .cons ⟨.nil _, .nil _⟩ (neutral.flags.trans neutralAlone.flags.symm) (by
      change LayersTrack _ (alone.layer :: alone.outer) (whole.layer :: whole.outer)
      rw [outermost]
      exact .base within rfl) }

/-- What follows a group has no say in how the group is read. -/
theorem read_enclose_tail (reader : Reader) (fragment : String) (tail : List Char) :
    reader.read (Pattern.enclose fragment ++ tail) =
      reader.read (Pattern.enclose fragment) >>= fun after => after.read tail := by
  have enclosed : Pattern.enclose fragment ++ tail =
      ("(?:".toList ++ fragment.toList) ++ ')' :: tail := by
    simp [Pattern.enclose]
  rw [enclosed, read_tail, Pattern.enclose]

/-! ### Literal text -/

/-- Parts are added to the innermost layer, or members to the innermost class. -/
structure Adds (before after : Reader) : Prop where
  flags : after.flags = before.flags
  names : after.names = before.names
  outer : after.outer = before.outer
  brackets : after.brackets = [] ↔ before.brackets = []
  layer : before.layer.Within after.layer

theorem Adds.refl (reader : Reader) : reader.Adds reader :=
  ⟨rfl, rfl, rfl, Iff.rfl, .refl _⟩

theorem Adds.trans {first second third : Reader} (left : first.Adds second)
    (right : second.Adds third) : first.Adds third where
  flags := right.flags.trans left.flags
  names := right.names.trans left.names
  outer := right.outer.trans left.outer
  brackets := right.brackets.trans left.brackets
  layer := left.layer.trans right.layer

theorem Neutral.of_adds (neutral : reader.Neutral) {after : Reader} (adds : reader.Adds after)
    (tidy : after.Tidy) : after.Neutral where
  toTidy := tidy
  flags := adds.flags.trans neutral.flags
  brackets := adds.brackets.mpr neutral.brackets

theorem addPart_adds (reader : Reader) (part : Part) : reader.Adds (reader.addPart part) where
  flags := rfl
  names := rfl
  outer := rfl
  brackets := Iff.rfl
  layer := ⟨(NoDeeper.refl _).append_right [part], .refl _⟩

theorem takeChar_adds {c : Char} {isByte : Bool} {after : Reader}
    (takes : reader.takeChar c isByte = .ok after) :
    reader.Adds after ∧ after.mode = .plain ∧ after.inComment = reader.inComment ∧
      after.skip = reader.skip := by
  unfold takeChar at takes
  cases brackets : reader.brackets with
  | nil =>
      simp only [brackets] at takes
      split at takes
      next => simp at takes
      next =>
        obtain rfl := Except.ok.inj takes
        exact ⟨addPart_adds _ _, rfl, rfl, rfl⟩
  | cons bracket outer =>
      simp only [brackets] at takes
      split at takes
      next => simp at takes
      next =>
        obtain ⟨taken, _, takes⟩ := exists_of_bind_ok takes
        obtain rfl := Except.ok.inj takes
        exact ⟨⟨rfl, rfl, rfl, by simp [brackets], .refl _⟩, rfl, rfl, rfl⟩

/-- What a character becomes a member of. -/
theorem stepBracket_member {bracket : Bracket} {outer : List Bracket}
    (inside : reader.brackets = bracket :: outer) {c : Char}
    (ordinary : c ∉ ['[', ']', '\\', '^', '-', '&', '~']) (rest : List Char) :
    ∃ taken : Bracket, reader.stepBracket bracket outer c rest =
      { reader with brackets := taken :: outer }.takeChar c := by
  simp only [List.mem_cons, List.not_mem_nil, or_false, not_or] at ordinary
  have noOperation : SetOperation.ofChar? c = none := by
    unfold SetOperation.ofChar?
    split <;> simp_all
  have member (bracket : Bracket) : reader.stepMember bracket outer c rest =
      { reader with brackets := bracket :: outer }.takeChar c := by
    simp [stepMember, ordinary, noOperation]
  unfold stepBracket
  cases bracket.place with
  | opened => exact ⟨{ bracket with place := .members }, by simp [ordinary, member]⟩
  | leading => exact ⟨{ bracket with place := .members }, by simp [ordinary, member]⟩
  | members => exact ⟨bracket, member bracket⟩
  | afterMember earlier => exact ⟨bracket.addMember earlier, by simp [ordinary, member]⟩
  | inRange low => exact ⟨bracket, by simp [ordinary, ← inside]⟩

theorem stepBetween_adds {c : Char} (ordinary : c ∉ metaChars) {rest : List Char} {after : Reader}
    (steps : reader.stepBetween c rest = .ok after) :
    reader.Adds after ∧ after.mode = .plain ∧ after.inComment = reader.inComment ∧
      after.skip = reader.skip := by
  unfold stepBetween at steps
  cases brackets : reader.brackets with
  | nil =>
      have takes : reader.stepPlain c rest = reader.takeChar c := by
        unfold stepPlain
        split
        all_goals first
          | exact absurd (by decide) ordinary
          | rfl
      simp only [brackets, takes] at steps
      exact takeChar_adds steps
  | cons bracket outer =>
      have notMeta : c ∉ ['[', ']', '\\', '^', '-', '&', '~'] := by
        simp only [metaChars, List.mem_cons, List.not_mem_nil, or_false, not_or] at ordinary ⊢
        simp [ordinary]
      obtain ⟨taken, takes⟩ := stepBracket_member brackets notMeta rest
      simp only [brackets, takes] at steps
      obtain ⟨adds, rest⟩ := takeChar_adds steps
      have sameBrackets : after.brackets = [] ↔ reader.brackets = [] := by
        simpa [brackets] using adds.brackets
      exact ⟨⟨adds.flags, adds.names, adds.outer, sameBrackets, adds.layer⟩, rest⟩

/-- A backslash stands before a character that is to be taken as it is. -/
theorem Tidy.step_backslash (tidy : reader.Tidy) (rest : List Char) :
    ∃ brackets, (brackets = [] ↔ reader.brackets = []) ∧
      reader.step '\\' rest =
        .ok { reader with mode := .escape .opened, brackets } := by
  have notWhite : Unicode.whiteSpace.contains '\\' = false := rfl
  have begins : reader.step '\\' rest = reader.stepBetween '\\' rest := by
    simp [step, stepMode, tidy.skip, tidy.inComment, tidy.mode, notWhite]
  rw [begins, stepBetween]
  cases brackets : reader.brackets with
  | nil => exact ⟨[], Iff.rfl, by simp [brackets, stepPlain]⟩
  | cons bracket outer =>
      have member (bracket : Bracket) : reader.stepMember bracket outer '\\' rest =
          .ok { reader with mode := .escape .opened, brackets := bracket :: outer } := rfl
      simp only [stepBracket]
      cases bracket.place with
      | opened => exact ⟨{ bracket with place := .members } :: outer, by simp, by simp [member]⟩
      | leading => exact ⟨{ bracket with place := .members } :: outer, by simp, by simp [member]⟩
      | members => exact ⟨bracket :: outer, by simp, member bracket⟩
      | afterMember earlier =>
          exact ⟨bracket.addMember earlier :: outer, by simp, by simp [member]⟩
      | inRange low => exact ⟨bracket :: outer, by simp, by simp [brackets]⟩

theorem stepEscaped_adds {c : Char} (special : c ∈ metaChars) {rest : List Char} {after : Reader}
    (steps : reader.stepEscaped c rest = .ok after) :
    reader.Adds after ∧ after.mode = .plain ∧ after.inComment = reader.inComment ∧
      after.skip = reader.skip := by
  have takes : reader.stepEscaped c rest = reader.takeChar c := by
    simp only [metaChars, List.mem_cons, List.not_mem_nil, or_false] at special
    rcases special with rfl | rfl | rfl | rfl | rfl | rfl | rfl | rfl | rfl | rfl | rfl | rfl |
      rfl | rfl | rfl | rfl | rfl | rfl <;> rfl
  rw [takes] at steps
  exact takeChar_adds steps

/-- An escaped character adds to what is open and neither opens nor closes anything. -/
theorem Tidy.read_escapeChar (tidy : reader.Tidy) {c : Char} {tail : List Char} {last : Reader}
    (reads : reader.read (Pattern.escapeChar c ++ tail) = .ok last) :
    ∃ after : Reader, after.Tidy ∧ reader.Adds after ∧ after.read tail = .ok last := by
  unfold Pattern.escapeChar at reads
  split at reads
  next special =>
    rw [List.contains_iff_mem] at special
    obtain ⟨brackets, sameBrackets, begins⟩ := tidy.step_backslash (c :: tail)
    obtain ⟨escaping, begun, reads⟩ := exists_of_bind_ok reads
    obtain rfl := Except.ok.inj (begins.symm.trans begun)
    obtain ⟨after, stepped, reads⟩ := exists_of_bind_ok reads
    have escapes : ({ reader with mode := .escape .opened, brackets } : Reader).stepEscaped c tail =
        .ok after := by
      rw [← stepped]
      simp [step, stepMode, tidy.skip, tidy.inComment, Mode.allowsGaps, stepEscape]
    obtain ⟨adds, mode, inComment, skip⟩ := stepEscaped_adds special escapes
    exact ⟨after, ⟨mode, inComment.trans tidy.inComment, skip.trans tidy.skip⟩,
      ⟨adds.flags, adds.names, adds.outer, adds.brackets.trans sameBrackets, adds.layer⟩, reads⟩
  next plain =>
    rw [List.contains_iff_mem] at plain
    obtain ⟨after, stepped, reads⟩ := exists_of_bind_ok reads
    refine ⟨after, ?_⟩
    have notSign : (c == '#') = false := by
      rw [beq_eq_false_iff_ne]
      rintro rfl
      exact plain (by decide)
    by_cases gap : (reader.flags.verbose && Unicode.whiteSpace.contains c) = true
    · have same : reader.step c tail = .ok reader := by
        simp [step, tidy.skip, tidy.inComment, tidy.mode, Mode.allowsGaps, gap]
      obtain rfl := Except.ok.inj (same.symm.trans stepped)
      exact ⟨tidy, .refl _, reads⟩
    · have between : reader.stepBetween c tail = .ok after := by
        rw [← stepped]
        simp [step, stepMode, tidy.skip, tidy.inComment, tidy.mode, Mode.allowsGaps, gap, notSign]
      obtain ⟨adds, mode, inComment, skip⟩ := stepBetween_adds plain between
      exact ⟨⟨mode, inComment.trans tidy.inComment, skip.trans tidy.skip⟩, adds, reads⟩

theorem Tidy.read_literal (tidy : reader.Tidy) {line tail : List Char} {last : Reader}
    (reads : reader.read ((line.map Pattern.escapeChar).flatten ++ tail) = .ok last) :
    ∃ after : Reader, after.Tidy ∧ reader.Adds after ∧ after.read tail = .ok last := by
  induction line generalizing reader with
  | nil => exact ⟨reader, tidy, .refl reader, reads⟩
  | cons c line inductionHypothesis =>
      rw [List.map_cons, List.flatten_cons, List.append_assoc] at reads
      obtain ⟨next, tidyNext, adds, reads⟩ := tidy.read_escapeChar reads
      obtain ⟨after, tidyAfter, addsMore, reads⟩ := inductionHypothesis tidyNext reads
      exact ⟨after, tidyAfter, adds.trans addsMore, reads⟩

/-- Between two constructs a dollar sign is the end of the text or of a line. -/
theorem Tidy.read_dollar (tidy : reader.Tidy) (outside : reader.brackets = []) :
    reader.read ['$'] = .ok (reader.addExpr (.look (endLook reader.flags))) := by
  have notWhite : Unicode.whiteSpace.contains '$' = false := rfl
  have begins : reader.step '$' [] = reader.takeLook (endLook reader.flags) := by
    simp [step, stepMode, tidy.skip, tidy.inComment, tidy.mode, notWhite, stepBetween, outside,
      stepPlain]
  rw [read, begins, takeLook, outside]
  rfl

/-- In a class it is a member. -/
theorem Tidy.brackets_of_read_dollar (tidy : reader.Tidy) {last : Reader}
    (reads : reader.read ['$'] = .ok last) : last.brackets = [] ↔ reader.brackets = [] := by
  cases brackets : reader.brackets with
  | nil =>
      rw [tidy.read_dollar brackets] at reads
      obtain rfl := Except.ok.inj reads
      exact iff_of_true brackets rfl
  | cons bracket outer =>
      have notWhite : Unicode.whiteSpace.contains '$' = false := rfl
      obtain ⟨after, stepped, reads⟩ := exists_of_bind_ok reads
      obtain rfl := Except.ok.inj reads
      obtain ⟨taken, takes⟩ := stepBracket_member (c := '$') brackets (by decide) []
      have begins : reader.step '$' [] = reader.stepBracket bracket outer '$' [] := by
        simp [step, stepMode, tidy.skip, tidy.inComment, tidy.mode, notWhite, stepBetween, brackets]
      rw [begins, takes] at stepped
      rw [(takeChar_adds stepped).1.brackets]
      simp

/-! ### The end -/

theorem settle_brackets {settled : Reader} (settles : reader.settle = .ok settled) :
    settled.brackets = reader.brackets := by
  unfold settle at settles
  split at settles
  next =>
    obtain rfl := Except.ok.inj settles
    rfl
  next =>
    unfold repeatLast at settles
    grind
  all_goals simp at settles

/-- What can be finished after a dollar sign was outside of groups and classes before it. -/
theorem Tidy.outermost (tidy : reader.Tidy) {last : Reader} {expr : Expr}
    (reads : reader.read ['$'] = .ok last) (finishes : last.finish = .ok expr) :
    reader.outer = [] ∧ reader.brackets = [] := by
  obtain ⟨settled, settles, noBracket, noGroup, _⟩ := finish_ok finishes
  have outside : reader.brackets = [] := by
    rw [← tidy.brackets_of_read_dollar reads, ← settle_brackets settles]
    exact noBracket
  refine ⟨?_, outside⟩
  rw [tidy.read_dollar outside] at reads
  obtain rfl := Except.ok.inj reads
  obtain ⟨_, _, _, sameOuter⟩ := settle_same settles
  exact sameOuter.symm.trans noGroup

/-- Outside of groups and classes one more part puts readers in step again of which the second one
has read literal text. -/
theorem addExpr_tracks_of_adds (tracks : Tracks surplus alone whole) {after : Reader}
    (adds : whole.Adds after) (tidy : alone.Tidy) (tidyAfter : after.Tidy)
    (outermost : after.outer = []) (outside : after.brackets = []) (expr other : Expr) :
    Tracks 0 (alone.addExpr expr) (after.addExpr other) := by
  have within := tracks.layers.within.trans adds.layer
  have outermostAlone : alone.outer = [] :=
    (tracks.outermost (adds.outer.symm.trans outermost)).1
  exact {
    flags := adds.flags.trans tracks.flags
    brackets := outside.trans (tracks.brackets ▸ adds.brackets.mp outside).symm
    mode := rfl
    inComment := tidyAfter.inComment.trans tidy.inComment.symm
    skip := tidyAfter.skip.trans tidy.skip.symm
    names := fun name present => adds.names ▸ tracks.names name present
    last := .some ⟨rfl, Nat.le_refl _⟩
    layers := by
      change LayersTrack 0 ((alone.addExpr expr).layer :: alone.outer)
        ((after.addExpr other).layer :: after.outer)
      rw [outermostAlone, outermost]
      exact .base ⟨within.parts.cons (Nat.le_refl _), within.finished⟩ rfl }

/-- Literal text before the last dollar sign makes no difference to what can be finished. -/
theorem exists_read_dollar_of_literal (tracks : Tracks surplus alone whole) (tidy : alone.Tidy)
    {line : List Char} {last : Reader} {expr : Expr}
    (reads : whole.read ((line.map Pattern.escapeChar).flatten ++ ['$']) = .ok last)
    (finishes : last.finish = .ok expr) :
    ∃ lastAlone, alone.read ['$'] = .ok lastAlone ∧ Tracks 0 lastAlone last := by
  obtain ⟨after, tidyAfter, adds, reads⟩ := (tracks.tidy_iff.mpr tidy).read_literal reads
  obtain ⟨outermost, outside⟩ := tidyAfter.outermost reads finishes
  rw [tidyAfter.read_dollar outside] at reads
  obtain rfl := Except.ok.inj reads
  have outsideAlone : alone.brackets = [] := tracks.brackets.symm.trans (adds.brackets.mp outside)
  exact ⟨_, tidy.read_dollar outsideAlone,
    addExpr_tracks_of_adds tracks adds tidy tidyAfter outermost outside _ _⟩

end Reader

end Stencil.Regex
