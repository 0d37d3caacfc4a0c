import Mathlib.Data.Option.Basic
import Stencil.Proofs.Regex.Progress

/-!
Two readers of one text.

Owns `Tracks`, which says of two readers that they differ only in what lies under the text that they
read: the layers of the second stand on others, and its layers may hold more parts. Every part of a
step has one lemma that the second reader succeeds only if the first does, and that they go on
together. The exception is the parenthesis that closes more groups than the first reader has.

The main statement is `read_lockstep`: what can be read upon other layers can be read on its own.
The converse is not told here, since a name of a group may be taken in one place and not in another.
-/

namespace Stencil.Regex

/-! ### Depths -/

/-- The parts are no more than the others, and none is nested deeper than all of the others. -/
structure NoDeeper (parts others : List Part) : Prop where
  length : parts.length ≤ others.length
  depth : ∀ part ∈ parts, ∃ other ∈ others, part.depth ≤ other.depth

namespace NoDeeper

variable {parts others : List Part} {part other : Part}

theorem refl (parts : List Part) : NoDeeper parts parts :=
  ⟨Nat.le_refl _, fun part present => ⟨part, present, Nat.le_refl _⟩⟩

theorem nil (others : List Part) : NoDeeper [] others := ⟨Nat.zero_le _, by simp⟩

theorem cons (noDeeper : NoDeeper parts others) (le : part.depth ≤ other.depth) :
    NoDeeper (part :: parts) (other :: others) where
  length := Nat.succ_le_succ noDeeper.length
  depth := by
    intro first present
    rcases List.mem_cons.mp present with rfl | later
    · exact ⟨other, List.mem_cons_self, le⟩
    · obtain ⟨second, found, le⟩ := noDeeper.depth first later
      exact ⟨second, List.mem_cons_of_mem _ found, le⟩

theorem append_right (noDeeper : NoDeeper parts others) (more : List Part) :
    NoDeeper parts (more ++ others) where
  length := noDeeper.length.trans (by simp)
  depth part present := by
    obtain ⟨other, found, le⟩ := noDeeper.depth part present
    exact ⟨other, List.mem_append_right _ found, le⟩

/-- The first parts may be nested deeper, if the second one is still nested at least as deep. -/
theorem deepen (noDeeper : NoDeeper (part :: parts) (other :: others)) {deeper deepest : Part}
    (le : deeper.depth ≤ deepest.depth) (grows : other.depth ≤ deepest.depth) :
    NoDeeper (deeper :: parts) (deepest :: others) where
  length := noDeeper.length
  depth := by
    intro first present
    rcases List.mem_cons.mp present with rfl | later
    · exact ⟨deepest, List.mem_cons_self, le⟩
    · obtain ⟨second, found, lower⟩ := noDeeper.depth first (List.mem_cons_of_mem _ later)
      rcases List.mem_cons.mp found with rfl | found
      · exact ⟨deepest, List.mem_cons_self, lower.trans grows⟩
      · exact ⟨second, List.mem_cons_of_mem _ found, lower⟩

theorem reverse (noDeeper : NoDeeper parts others) : NoDeeper parts.reverse others.reverse where
  length := by simpa using noDeeper.length
  depth := by simpa using noDeeper.depth

theorem foldl_max_le (noDeeper : NoDeeper parts others) :
    (parts.map Part.depth).foldl max 0 ≤ (others.map Part.depth).foldl max 0 := by
  rw [← Nat.lt_succ_iff, foldl_max_lt_iff, List.forall_mem_map]
  refine ⟨Nat.succ_pos _, fun part present => ?_⟩
  obtain ⟨other, found, le⟩ := noDeeper.depth part present
  have bounds := ((foldl_max_lt_iff (others.map Part.depth) 0 _).mp (Nat.lt_succ_self _)).2
  exact le.trans_lt (bounds _ (List.mem_map_of_mem found))

theorem inSequence (noDeeper : NoDeeper parts others) :
    (Part.inSequence parts).depth ≤ (Part.inSequence others).depth := by
  have le := noDeeper.foldl_max_le
  have length := noDeeper.length
  simp only [Part.inSequence]
  split <;> split <;> omega

theorem alternatives (noDeeper : NoDeeper parts others) :
    (Part.alternatives parts).depth ≤ (Part.alternatives others).depth := by
  have le := noDeeper.foldl_max_le
  have length := noDeeper.length
  simp only [Part.alternatives]
  split <;> split <;> omega

end NoDeeper

/-- A layer that holds no more and nothing deeper than the other one. -/
structure Layer.Within (layer other : Layer) : Prop where
  parts : NoDeeper layer.parts other.parts
  finished : NoDeeper layer.finished other.finished

theorem Layer.Within.contents {layer other : Layer} (within : layer.Within other) :
    layer.contents.depth ≤ other.contents.depth :=
  (within.finished.cons within.parts.reverse.inSequence).reverse.alternatives

/-! ### The relation -/

/-- The layers of two readers, innermost first: those of the second hold at least as much and stand
on a number of layers more. The flags that are set again where a group closes are the same, but for
the outermost layer of the first reader, which nothing closes. -/
inductive LayersTrack (surplus : Nat) : List Layer → List Layer → Prop where
  | base {layer other : Layer} {below : List Layer} (within : layer.Within other)
    (length : below.length = surplus) : LayersTrack surplus [layer] (other :: below)
  | cons {layer other : Layer} {layers others : List Layer} (within : layer.Within other)
    (flags : other.outerFlags = layer.outerFlags) (rest : LayersTrack surplus layers others) :
    LayersTrack surplus (layer :: layers) (other :: others)

namespace LayersTrack

variable {surplus : Nat} {layer other : Layer} {layers others : List Layer}

theorem within (tracks : LayersTrack surplus (layer :: layers) (other :: others)) :
    layer.Within other := by
  cases tracks with
  | base within _ => exact within
  | cons within _ _ => exact within

/-- What is put together in the innermost layers changes nothing else. -/
theorem replace (tracks : LayersTrack surplus (layer :: layers) (other :: others))
    {newLayer newOther : Layer} (within : newLayer.Within newOther)
    (flags : newLayer.outerFlags = layer.outerFlags)
    (otherFlags : newOther.outerFlags = other.outerFlags) :
    LayersTrack surplus (newLayer :: layers) (newOther :: others) := by
  cases tracks with
  | base _ length => exact .base within length
  | cons _ same rest => exact .cons within (by rw [flags, otherFlags, same]) rest

theorem length_eq (tracks : LayersTrack surplus layers others) :
    others.length = layers.length + surplus := by
  induction tracks with
  | base _ length => simp [length, Nat.add_comm]
  | cons _ _ _ inductionHypothesis =>
      rw [List.length_cons, List.length_cons, inductionHypothesis]
      omega

end LayersTrack

/-- The last parts of two layers may be repeated alike: they are both settings or both none, and the
second one is nested at least as deep. -/
def SameLast (parts others : List Part) : Prop :=
  Option.Rel (fun part other : Part => part.isSetting = other.isSetting ∧ part.depth ≤ other.depth)
    parts.head? others.head?

/-- The second reader reads what the first reads, with a number of layers more under its own. -/
structure Tracks (surplus : Nat) (alone whole : Reader) : Prop where
  flags : whole.flags = alone.flags
  brackets : whole.brackets = alone.brackets
  mode : whole.mode = alone.mode
  inComment : whole.inComment = alone.inComment
  skip : whole.skip = alone.skip
  names : ∀ name ∈ alone.names, name ∈ whole.names
  last : SameLast alone.layer.parts whole.layer.parts
  layers : LayersTrack surplus (alone.layer :: alone.outer) (whole.layer :: whole.outer)

/-- If the second reading succeeds, the first one does and the readers go on together; or there was
no group to be closed for the first. -/
def Lockstep (surplus : Nat) (alone whole : Except SyntaxError Reader) : Prop :=
  ∀ after, whole = .ok after →
    (surplus ≠ 0 ∧ alone = .error .unopenedGroup) ∨
      ∃ afterAlone, alone = .ok afterAlone ∧ Tracks surplus afterAlone after

namespace Lockstep

variable {surplus : Nat} {alone whole : Except SyntaxError Reader}

theorem ok {first second : Reader} (tracks : Tracks surplus first second) :
    Lockstep surplus (.ok first) (.ok second) := by
  rintro after same
  obtain rfl := Except.ok.inj same
  exact .inr ⟨first, rfl, tracks⟩

theorem error (alone : Except SyntaxError Reader) (cause : SyntaxError) :
    Lockstep surplus alone (.error cause) :=
  fun _ same => nomatch same

theorem bind (lockstep : Lockstep surplus alone whole)
    {next nextWhole : Reader → Except SyntaxError Reader}
    (goOn : ∀ first second, Tracks surplus first second →
      Lockstep surplus (next first) (nextWhole second)) :
    Lockstep surplus (alone >>= next) (whole >>= nextWhole) := by
  intro after succeeds
  obtain ⟨second, wholeOk, succeeds⟩ := Reader.exists_of_bind_ok succeeds
  rcases lockstep second wholeOk with ⟨below, fails⟩ | ⟨first, aloneOk, tracks⟩
  · exact .inl ⟨below, by rw [fails]; rfl⟩
  · rw [aloneOk]
    exact goOn first second tracks after succeeds

end Lockstep

namespace Reader

variable {surplus : Nat} {alone whole : Reader}

/-! ### Parts -/

theorem addPart_tracks (tracks : Tracks surplus alone whole) {part other : Part}
    (sameKind : part.isSetting = other.isSetting) (le : part.depth ≤ other.depth) :
    Tracks surplus (alone.addPart part) (whole.addPart other) where
  flags := tracks.flags
  brackets := tracks.brackets
  mode := rfl
  inComment := tracks.inComment
  skip := tracks.skip
  names := tracks.names
  last := .some ⟨sameKind, le⟩
  layers := tracks.layers.replace
    ⟨tracks.layers.within.parts.cons le, tracks.layers.within.finished⟩ rfl rfl

theorem addExpr_tracks (tracks : Tracks surplus alone whole) (expr other : Expr) :
    Tracks surplus (alone.addExpr expr) (whole.addExpr other) :=
  addPart_tracks tracks rfl (Nat.le_refl _)

variable (tracks : Tracks surplus alone whole)

include tracks

theorem takeMember_lockstep (bracket : Bracket) (outer : List Bracket) (member : Member) :
    Lockstep surplus (alone.takeMember bracket outer member)
      (whole.takeMember bracket outer member) := by
  unfold takeMember
  cases bracket.takeMember member with
  | error cause => exact .error _ cause
  | ok taken => exact .ok { tracks with mode := rfl, brackets := rfl }

theorem takeChar_lockstep (c : Char) (isByte : Bool) :
    Lockstep surplus (alone.takeChar c isByte) (whole.takeChar c isByte) := by
  simp only [takeChar, tracks.flags, tracks.brackets]
  cases alone.brackets with
  | nil =>
      simp only
      split
      · exact .error _ _
      · exact .ok (addExpr_tracks tracks _ _)
  | cons bracket outer =>
      simp only
      split
      · exact .error _ _
      · exact takeMember_lockstep tracks bracket outer _

theorem takeSet_lockstep (set : CharSet) :
    Lockstep surplus (alone.takeSet set) (whole.takeSet set) := by
  simp only [takeSet, tracks.brackets]
  split
  next => exact .ok (addExpr_tracks tracks _ _)
  next => exact takeMember_lockstep tracks _ _ _

theorem takeLook_lockstep (condition : Look) :
    Lockstep surplus (alone.takeLook condition) (whole.takeLook condition) := by
  simp only [takeLook, tracks.brackets]
  split
  next => exact .ok (addExpr_tracks tracks _ _)
  next => exact .error _ _

theorem takeWordSide_lockstep (side : WordSide) :
    Lockstep surplus (alone.takeWordSide side) (whole.takeWordSide side) := by
  simp only [takeWordSide, tracks.flags]
  exact takeLook_lockstep tracks _

/-! ### Repetition -/

theorem canRepeat_eq : whole.canRepeat = alone.canRepeat := by
  have last := tracks.last
  unfold SameLast at last
  unfold canRepeat
  cases first : alone.layer.parts with
  | nil =>
      cases second : whole.layer.parts with
      | nil => rfl
      | cons part parts => simp [first, second] at last
  | cons part parts =>
      cases second : whole.layer.parts with
      | nil => simp [first, second] at last
      | cons other others =>
          simp only [first, second, List.head?_cons, Option.rel_some_some] at last
          simp [last.1]

theorem repeatLast_lockstep (least : Nat) (most : Option Nat) (lazy : Bool) :
    Lockstep surplus (alone.repeatLast least most lazy) (whole.repeatLast least most lazy) := by
  have last := tracks.last
  have layers := tracks.layers
  unfold SameLast at last
  unfold repeatLast
  cases second : whole.layer.parts with
  | nil => exact .error _ _
  | cons other others =>
      cases first : alone.layer.parts with
      | nil => simp [first, second] at last
      | cons part parts =>
          simp only [first, second, List.head?_cons, Option.rel_some_some] at last
          simp only [last.1]
          split
          · exact .error _ _
          · have noDeeper := layers.within.parts
            rw [first, second] at noDeeper
            have deeper : part.depth + 1 ≤ other.depth + 1 := Nat.succ_le_succ last.2
            refine .ok { tracks with mode := rfl, last := ?_, layers := ?_ }
            · exact .some ⟨rfl, deeper⟩
            · exact layers.replace ⟨noDeeper.deepen deeper (Nat.le_succ _), layers.within.finished⟩
                rfl rfl

theorem repeatSign_lockstep (least : Nat) (most : Option Nat) (rest : List Char) :
    Lockstep surplus (alone.repeatSign least most rest) (whole.repeatSign least most rest) :=
  (repeatLast_lockstep tracks least most _).bind fun _ _ tracks =>
    .ok { tracks with skip := rfl }

theorem endCount_lockstep (least : Nat) (most : Option Nat) :
    Lockstep surplus (alone.endCount least most) (whole.endCount least most) := by
  unfold endCount
  split
  · exact .error _ _
  · exact .ok { tracks with mode := rfl }

theorem stepCount_lockstep (count : Count) (c : Char) :
    Lockstep surplus (alone.stepCount count c) (whole.stepCount count c) := by
  have goOn (count : Count) : Lockstep surplus (.ok { alone with mode := .counting count })
      (.ok { whole with mode := .counting count }) :=
    .ok { tracks with mode := rfl }
  unfold stepCount
  repeat' split
  all_goals first
    | exact .error _ _
    | exact goOn _
    | exact endCount_lockstep tracks _ _

/-! ### Groups -/

theorem openGroup_tracks (capture other : Option Nat) {flags otherFlags : Flags}
    (same : otherFlags = flags) :
    Tracks surplus (alone.openGroup capture flags) (whole.openGroup other otherFlags) where
  flags := same
  brackets := tracks.brackets
  mode := rfl
  inComment := tracks.inComment
  skip := tracks.skip
  names := tracks.names
  last := .none
  layers := .cons ⟨.nil _, .nil _⟩ tracks.flags tracks.layers

theorem openCapture_tracks : Tracks surplus alone.openCapture whole.openCapture := by
  have counted : Tracks surplus { alone with groups := alone.groups + 1 }
      { whole with groups := whole.groups + 1 } :=
    { tracks with }
  exact openGroup_tracks counted _ _ tracks.flags

theorem closeGroup_lockstep : Lockstep surplus alone.closeGroup whole.closeGroup := by
  have layers := tracks.layers
  unfold closeGroup
  cases wholeOuter : whole.outer with
  | nil => exact .error _ _
  | cons under others =>
      cases aloneOuter : alone.outer with
      | nil =>
          -- The second reader closes a group that lies under the text.
          rw [aloneOuter, wholeOuter] at layers
          have length := layers.length_eq
          simp only [List.length_cons, List.length_nil] at length
          exact fun _ _ => .inl ⟨by omega, rfl⟩
      | cons layer outer =>
          rw [aloneOuter, wholeOuter] at layers
          cases layers with
          | cons within flags rest =>
              have closes : (alone.layer.close).depth ≤ (whole.layer.close).depth :=
                Nat.succ_le_succ within.contents
              refine .ok ?_
              exact {
                tracks with
                flags := flags
                mode := rfl
                last := .some ⟨rfl, closes⟩
                layers := rest.replace ⟨rest.within.parts.cons closes, rest.within.finished⟩
                  rfl rfl }

theorem nextAlternative_tracks : Tracks surplus alone.nextAlternative whole.nextAlternative := by
  have within := tracks.layers.within
  exact {
    tracks with
    last := .none
    layers := tracks.layers.replace
      ⟨.nil _, within.finished.cons within.parts.reverse.inSequence⟩ rfl rfl }

theorem stepName_lockstep (name : List Char) (c : Char) :
    Lockstep surplus (alone.stepName name c) (whole.stepName name c) := by
  unfold stepName
  split
  · by_cases taken : name.isEmpty = true ∨ whole.names.contains name = true
    · rw [if_pos taken]
      exact .error _ _
    · have freeAlone : ¬ (name.isEmpty = true ∨ alone.names.contains name = true) := by
        rw [List.contains_iff_mem] at taken ⊢
        exact fun takenAlone => taken (takenAlone.imp_right (tracks.names name))
      rw [if_neg taken, if_neg freeAlone]
      have named : Tracks surplus { alone with names := name :: alone.names }
          { whole with names := name :: whole.names } := {
        tracks with
        names := fun other present => by
          rcases List.mem_cons.mp present with rfl | earlier
          · exact List.mem_cons_self
          · exact List.mem_cons_of_mem _ (tracks.names other earlier) }
      exact .ok (openCapture_tracks named)
  · split
    · exact .ok { tracks with mode := rfl }
    · exact .error _ _

theorem stepFlags_lockstep (list : FlagList) (c : Char) :
    Lockstep surplus (alone.stepFlags list c) (whole.stepFlags list c) := by
  unfold stepFlags
  rw [tracks.flags]
  split
  · split
    · exact .error _ _
    · split
      · exact .error _ _
      · have set : Tracks surplus { alone with flags := list.apply alone.flags }
            { whole with flags := list.apply alone.flags } :=
          { tracks with flags := rfl }
        exact .ok (addPart_tracks set rfl (Nat.le_refl _))
  · split
    · split
      · exact .error _ _
      · exact .ok (openGroup_tracks tracks _ _ rfl)
    · cases list.read c with
      | error cause => exact .error _ _
      | ok longer => exact .ok { tracks with flags := rfl, mode := rfl }

theorem stepQuestion_lockstep (rest : List Char) :
    Lockstep surplus (alone.stepQuestion rest) (whole.stepQuestion rest) := by
  unfold stepQuestion
  split
  all_goals first
    | exact .error _ _
    | exact .ok { tracks with mode := rfl, skip := rfl }
    | exact .ok { tracks with mode := rfl }

/-! ### Escapes -/

theorem takeCodePoint_lockstep (value : Nat) (isByte : Bool) :
    Lockstep surplus (alone.takeCodePoint value isByte) (whole.takeCodePoint value isByte) := by
  unfold takeCodePoint
  split
  · exact takeChar_lockstep tracks _ _
  · exact .error _ _

theorem takeProperty_lockstep (negated : Bool) (property : Option PropertyClass) :
    Lockstep surplus (alone.takeProperty negated property)
      (whole.takeProperty negated property) := by
  unfold takeProperty
  rw [tracks.flags]
  split
  · exact .error _ _
  · split
    · exact takeSet_lockstep tracks _
    · exact .error _ _

theorem takeLetterClass_lockstep (letter : Char) :
    Lockstep surplus (alone.takeLetterClass letter) (whole.takeLetterClass letter) := by
  simp only [takeLetterClass, tracks.flags]
  cases negateUnder alone.flags (letter != letter.toLower) _ with
  | error cause => exact .error _ _
  | ok set => exact takeSet_lockstep tracks set

theorem stepEscaped_lockstep (c : Char) (rest : List Char) :
    Lockstep surplus (alone.stepEscaped c rest) (whole.stepEscaped c rest) := by
  have enter (escape : Escape) : Lockstep surplus (.ok { alone with mode := .escape escape })
      (.ok { whole with mode := .escape escape }) :=
    .ok { tracks with mode := rfl }
  unfold stepEscaped
  split
  all_goals first
    | exact enter _
    | exact takeLetterClass_lockstep tracks _
    | exact takeChar_lockstep tracks _ _
    | exact takeLook_lockstep tracks _
    | exact takeWordSide_lockstep tracks _
    | split
  all_goals first
    | exact .ok { tracks with mode := rfl, skip := rfl }
    | exact takeWordSide_lockstep tracks _
    | exact takeChar_lockstep tracks _ _
    | exact .error _ _

theorem stepEscape_lockstep (escape : Escape) (c : Char) (rest : List Char) :
    Lockstep surplus (alone.stepEscape escape c rest) (whole.stepEscape escape c rest) := by
  have goOn (escape : Escape) : Lockstep surplus (.ok { alone with mode := .escape escape })
      (.ok { whole with mode := .escape escape }) :=
    .ok { tracks with mode := rfl }
  cases escape with
  | opened => exact stepEscaped_lockstep tracks c rest
  | wordSide =>
      simp only [stepEscape]
      split
      · exact goOn _
      · exact (takeWordSide_lockstep tracks _).bind fun _ _ tracks =>
          stepCount_lockstep tracks {} c
  | _ =>
      simp only [stepEscape]
      repeat' split
      all_goals first
        | exact .error _ _
        | exact goOn _
        | exact takeCodePoint_lockstep tracks _ _
        | exact takeProperty_lockstep tracks _ _
        | exact takeWordSide_lockstep tracks _

/-! ### Classes -/

theorem closeBracket_lockstep (bracket : Bracket) (outer : List Bracket) :
    Lockstep surplus (alone.closeBracket bracket outer) (whole.closeBracket bracket outer) := by
  unfold closeBracket
  rw [tracks.flags]
  cases bracket.close alone.flags with
  | error cause => exact .error _ _
  | ok result =>
      cases outer with
      | nil =>
          have outside : Tracks surplus { alone with brackets := [] }
              { whole with flags := alone.flags, brackets := [] } :=
            { tracks with flags := rfl, brackets := rfl }
          exact .ok (addPart_tracks outside rfl (Nat.le_refl _))
      | cons enclosing others => exact .ok { tracks with flags := rfl, brackets := rfl }

theorem stepMember_lockstep (bracket : Bracket) (outer : List Bracket) (c : Char)
    (rest : List Char) :
    Lockstep surplus (alone.stepMember bracket outer c rest)
      (whole.stepMember bracket outer c rest) := by
  have goOn (brackets : List Bracket) : Tracks surplus { alone with brackets }
      { whole with flags := alone.flags, brackets } :=
    { tracks with flags := rfl, brackets := rfl }
  have chars := takeChar_lockstep (goOn (bracket :: outer)) c false
  simp only [stepMember, tracks.flags]
  split
  · split
    next named _ =>
      cases negateUnder alone.flags named.negated _ with
      | error cause => exact .error _ _
      | ok set => exact .ok { goOn (bracket.addSet set 0 :: outer) with skip := rfl }
    next => exact .ok (goOn _)
  · split
    · exact closeBracket_lockstep tracks _ _
    · split
      · exact .ok { goOn (bracket :: outer) with mode := rfl }
      · split
        · split
          · exact .ok { goOn (bracket.takeOperation alone.flags _ :: outer) with skip := rfl }
          · exact chars
        · exact chars

theorem stepBracket_lockstep (bracket : Bracket) (outer : List Bracket) (c : Char)
    (rest : List Char) :
    Lockstep surplus (alone.stepBracket bracket outer c rest)
      (whole.stepBracket bracket outer c rest) := by
  have members (bracket : Bracket) := stepMember_lockstep tracks bracket outer c rest
  have goOn (brackets : List Bracket) :
      Lockstep surplus (.ok { alone with brackets }) (.ok { whole with brackets }) :=
    .ok { tracks with brackets := rfl }
  unfold stepBracket
  cases bracket.place with
  | afterMember member =>
      rw [show afterHyphen whole.flags rest = afterHyphen alone.flags rest by rw [tracks.flags]]
      simp only
      split
      · exact goOn _
      · exact members _
  | inRange low =>
      simp only
      split
      · exact .ok { tracks with mode := rfl }
      · exact takeChar_lockstep tracks _ _
  | _ =>
      simp only
      repeat' split
      all_goals first
        | exact goOn _
        | exact members _

/-! ### Steps -/

theorem stepPlain_lockstep (c : Char) (rest : List Char) :
    Lockstep surplus (alone.stepPlain c rest) (whole.stepPlain c rest) := by
  simp only [stepPlain, tracks.flags, canRepeat_eq tracks]
  split
  all_goals first
    | exact .ok { tracks with flags := rfl, mode := rfl }
    | exact .ok { tracks with flags := rfl, brackets := rfl }
    | exact closeGroup_lockstep tracks
    | exact .ok (nextAlternative_tracks tracks)
    | exact repeatSign_lockstep tracks _ _ _
    | exact takeLook_lockstep tracks _
    | exact takeChar_lockstep tracks _ _
    | split
  all_goals first
    | exact .ok { tracks with flags := rfl, mode := rfl }
    | exact .ok (addExpr_tracks tracks _ _)
    | exact .error _ _

theorem stepMode_lockstep (c : Char) (rest : List Char) :
    Lockstep surplus (alone.stepMode c rest) (whole.stepMode c rest) := by
  unfold stepMode
  rw [tracks.mode]
  cases alone.mode with
  | plain =>
      simp only [stepBetween, tracks.brackets]
      split
      · exact stepPlain_lockstep tracks c rest
      · exact stepBracket_lockstep tracks _ _ c rest
  | opening =>
      simp only
      split
      · exact stepQuestion_lockstep tracks rest
      · exact stepPlain_lockstep (openCapture_tracks tracks) c rest
  | naming name => exact stepName_lockstep tracks name c
  | setting list => exact stepFlags_lockstep tracks list c
  | escape escape => exact stepEscape_lockstep tracks escape c rest
  | counting count => exact stepCount_lockstep tracks count c
  | counted least most =>
      simp only
      split
      · exact repeatLast_lockstep tracks least most true
      · exact (repeatLast_lockstep tracks least most false).bind fun _ _ tracks =>
          stepPlain_lockstep tracks c rest

theorem step_lockstep (c : Char) (rest : List Char) :
    Lockstep surplus (alone.step c rest) (whole.step c rest) := by
  unfold step
  rw [tracks.skip, tracks.inComment, tracks.flags, tracks.mode]
  split
  · exact .ok { tracks with flags := rfl, mode := rfl, inComment := rfl, skip := rfl }
  · split
    · exact .ok { tracks with flags := rfl, mode := rfl, inComment := rfl, skip := rfl }
    · split
      · exact .ok tracks
      · split
        · exact .ok { tracks with flags := rfl, mode := rfl, inComment := rfl, skip := rfl }
        · exact stepMode_lockstep tracks c rest

omit tracks

/-- What is read upon other layers can be read alone. -/
theorem read_lockstep (tracks : Tracks surplus alone whole) (text : List Char) :
    Lockstep surplus (alone.read text) (whole.read text) := by
  induction text generalizing alone whole with
  | nil => exact .ok tracks
  | cons c rest inductionHypothesis =>
      exact (step_lockstep tracks c rest).bind fun _ _ tracks => inductionHypothesis tracks

theorem settle_lockstep (tracks : Tracks surplus alone whole) :
    Lockstep surplus alone.settle whole.settle := by
  unfold settle
  rw [tracks.mode]
  cases alone.mode with
  | plain => exact .ok tracks
  | counted least most => exact repeatLast_lockstep tracks least most false
  | _ => exact .error _ _

/-- With no layers but its own, what is finished upon more parts can be finished alone. -/
theorem exists_finish (tracks : Tracks 0 alone whole) {expr : Expr}
    (finishes : whole.finish = .ok expr) : ∃ exprAlone, alone.finish = .ok exprAlone := by
  obtain ⟨settled, settles, finishes⟩ := exists_of_bind_ok finishes
  obtain ⟨settledAlone, settlesAlone, tracks⟩ :=
    (settle_lockstep tracks settled settles).resolve_left fun below => below.1 rfl
  have outermost : settledAlone.outer.isEmpty = settled.outer.isEmpty := by
    have length := tracks.layers.length_eq
    simp only [List.length_cons, Nat.add_zero, Nat.add_right_cancel_iff] at length
    rw [Bool.eq_iff_iff, List.isEmpty_iff_length_eq_zero, List.isEmpty_iff_length_eq_zero, length]
  have shallow := tracks.layers.within.contents
  simp only [finish, settlesAlone, bind, Except.bind, outermost, ← tracks.brackets]
  split at finishes
  next => simp at finishes
  next inside =>
    split at finishes
    next => simp at finishes
    next grouped =>
      simp only at finishes
      split at finishes
      next => simp at finishes
      next within =>
        rw [if_neg inside, if_neg grouped, if_neg fun deep => within (deep.trans_le shallow)]
        exact ⟨_, rfl⟩

end Reader

end Stencil.Regex
