import Mathlib.Data.List.Nodup
import Mathlib.Logic.Relation
import Stencil.Proofs.Regex.Groups

/-!
What reading does to the expressions that are put together.

Owns `Frame`, the layers of a reader with its number of groups and its names, and `Move`, the few
things that can happen to a frame. Whatever a step of the reader does besides, its frame changes by
moves alone. What all moves keep: how the outermost layer was opened (`Moves.base`), that no name
comes twice and none is lost (`Moves.names_nodup`, `Moves.names_suffix`), that groups are numbered
within their number (`Moves.numbered`), and that no two have one number
(`Moves.groupsInOrder_nodup`).

That steps are moves is not shown here.
-/

namespace Stencil.Regex

/-- What a reader has put together. -/
structure Frame where
  layer : Layer
  outer : List Layer
  groups : Nat
  names : List (List Char)

def Reader.frame (reader : Reader) : Frame :=
  ⟨reader.layer, reader.outer, reader.groups, reader.names⟩

namespace Frame

/-- One thing that happens to a frame. -/
inductive Move : Frame → Frame → Prop where
  /-- A part without groups is added. -/
  | part {layer : Layer} {outer : List Layer} {groups : Nat} {names : List (List Char)} (part : Part)
    (noGroup : part.expr.groups = []) :
    Move ⟨layer, outer, groups, names⟩
      ⟨{ layer with parts := part :: layer.parts }, outer, groups, names⟩
  /-- The last part is repeated. -/
  | repeated {layer : Layer} {outer : List Layer} {groups : Nat} {names : List (List Char)}
    {part : Part} {parts : List Part} (last : layer.parts = part :: parts) (least : Nat)
    (most : Option Nat) (greedy : Bool) (depth : Nat) :
    Move ⟨layer, outer, groups, names⟩
      ⟨{ layer with parts := { expr := .repeated least most greedy part.expr, depth } :: parts },
        outer, groups, names⟩
  | alternative {layer : Layer} {outer : List Layer} {groups : Nat} {names : List (List Char)} :
    Move ⟨layer, outer, groups, names⟩
      ⟨{ layer with finished := Part.inSequence layer.parts.reverse :: layer.finished, parts := [] },
        outer, groups, names⟩
  /-- A group without a number is opened. -/
  | opened {layer : Layer} {outer : List Layer} {groups : Nat} {names : List (List Char)}
    (flags : Flags) :
    Move ⟨layer, outer, groups, names⟩ ⟨{ outerFlags := flags }, layer :: outer, groups, names⟩
  /-- A group is opened that takes the next number. -/
  | captured {layer : Layer} {outer : List Layer} {groups : Nat} {names : List (List Char)}
    (flags : Flags) :
    Move ⟨layer, outer, groups, names⟩
      ⟨{ capture := some (groups + 1), outerFlags := flags }, layer :: outer, groups + 1, names⟩
  /-- A name is taken that no group has. -/
  | named {layer : Layer} {outer : List Layer} {groups : Nat} {names : List (List Char)}
    {name : List Char} (fresh : name ∉ names) :
    Move ⟨layer, outer, groups, names⟩ ⟨layer, outer, groups, name :: names⟩
  /-- The innermost group is closed and becomes a part. -/
  | closed {layer next : Layer} {outer : List Layer} {groups : Nat} {names : List (List Char)} :
    Move ⟨layer, next :: outer, groups, names⟩
      ⟨{ next with parts := layer.close :: next.parts }, outer, groups, names⟩

/-- Any number of moves one after another. -/
abbrev Moves : Frame → Frame → Prop := Relation.ReflTransGen Move

/-! ### The outermost layer -/

/-- How a layer was opened: the number under which it captures, and the flags outside of it. -/
def opening (layer : Layer) : Option Nat × Flags := (layer.capture, layer.outerFlags)

/-- How the outermost of the given layers was opened. -/
def baseOpening : Layer → List Layer → Option Nat × Flags
  | layer, [] => opening layer
  | _, next :: outer => baseOpening next outer

def base (frame : Frame) : Option Nat × Flags := baseOpening frame.layer frame.outer

theorem Move.base {before after : Frame} (move : Move before after) : after.base = before.base := by
  cases move with
  | @part layer outer => cases outer <;> rfl
  | @repeated layer outer => cases outer <;> rfl
  | @alternative layer outer => cases outer <;> rfl
  | @closed layer next outer => cases outer <;> rfl
  | _ => rfl

theorem Moves.base {before after : Frame} (moves : Moves before after) :
    after.base = before.base := by
  induction moves with
  | refl => rfl
  | tail _ move inductionHypothesis => exact move.base.trans inductionHypothesis

/-! ### Names -/

theorem Move.names {before after : Frame} (move : Move before after) :
    after.names = before.names ∨ ∃ name, name ∉ before.names ∧ after.names = name :: before.names := by
  cases move with
  | named fresh => exact .inr ⟨_, fresh, rfl⟩
  | _ => exact .inl rfl

theorem Moves.names_nodup {before after : Frame} (moves : Moves before after)
    (distinct : before.names.Nodup) : after.names.Nodup := by
  induction moves with
  | refl => exact distinct
  | tail _ move inductionHypothesis =>
      rcases move.names with same | ⟨name, fresh, added⟩
      · rw [same]
        exact inductionHypothesis
      · rw [added]
        exact List.nodup_cons.mpr ⟨fresh, inductionHypothesis⟩

theorem Moves.names_suffix {before after : Frame} (moves : Moves before after) :
    before.names <:+ after.names := by
  induction moves with
  | refl => exact List.suffix_rfl
  | tail _ move inductionHypothesis =>
      rcases move.names with same | ⟨name, _, added⟩
      · rw [same]
        exact inductionHypothesis
      · rw [added]
        exact inductionHypothesis.trans (List.suffix_cons _ _)

end Frame

/-! ### Numbers -/

/-- The groups of a layer have numbers from one up to the given one. -/
structure Layer.NumberedUpTo (layer : Layer) (count : Nat) : Prop where
  capture : ∀ index, layer.capture = some index → 1 ≤ index ∧ index ≤ count
  parts : ∀ part ∈ layer.parts, ∀ index ∈ part.expr.groups, 1 ≤ index ∧ index ≤ count
  finished : ∀ part ∈ layer.finished, ∀ index ∈ part.expr.groups, 1 ≤ index ∧ index ≤ count

namespace Layer.NumberedUpTo

variable {layer : Layer} {count : Nat}

theorem mono (numbered : layer.NumberedUpTo count) {greater : Nat} (le : count ≤ greater) :
    layer.NumberedUpTo greater where
  capture index captures :=
    ⟨(numbered.capture index captures).1, (numbered.capture index captures).2.trans le⟩
  parts part present index member :=
    ⟨(numbered.parts part present index member).1,
      (numbered.parts part present index member).2.trans le⟩
  finished part present index member :=
    ⟨(numbered.finished part present index member).1,
      (numbered.finished part present index member).2.trans le⟩

/-- A layer in which no part stands yet. -/
theorem of_empty {capture : Option Nat} {flags : Flags}
    (within : ∀ index, capture = some index → 1 ≤ index ∧ index ≤ count) :
    NumberedUpTo { capture, outerFlags := flags } count where
  capture := within
  parts := by simp
  finished := by simp

theorem addPart (numbered : layer.NumberedUpTo count) {part : Part}
    (within : ∀ index ∈ part.expr.groups, 1 ≤ index ∧ index ≤ count) :
    NumberedUpTo { layer with parts := part :: layer.parts } count where
  capture := numbered.capture
  parts := List.forall_mem_cons.mpr ⟨within, numbered.parts⟩
  finished := numbered.finished

theorem contents (numbered : layer.NumberedUpTo count) :
    ∀ index ∈ layer.contents.expr.groups, 1 ≤ index ∧ index ≤ count := by
  intro index member
  simp only [Layer.contents, Part.alternatives, Expr.groups_alternatives, List.mem_flatMap,
    List.mem_map, List.mem_reverse, List.mem_cons] at member
  obtain ⟨_, ⟨part, rfl | earlier, rfl⟩, member⟩ := member
  · simp only [Part.inSequence, Expr.groups_inSequence, List.mem_flatMap, List.mem_map,
      List.mem_reverse] at member
    obtain ⟨_, ⟨part, present, rfl⟩, member⟩ := member
    exact numbered.parts part present index member
  · exact numbered.finished part earlier index member

theorem close (numbered : layer.NumberedUpTo count) :
    ∀ index ∈ layer.close.expr.groups, 1 ≤ index ∧ index ≤ count := by
  intro index member
  unfold Layer.close at member
  cases captures : layer.capture with
  | none =>
      rw [captures] at member
      exact numbered.contents index member
  | some own =>
      rw [captures] at member
      rcases List.mem_cons.mp member with rfl | inside
      · exact numbered.capture index captures
      · exact numbered.contents index inside

theorem nextAlternative (numbered : layer.NumberedUpTo count) :
    NumberedUpTo
      { layer with finished := Part.inSequence layer.parts.reverse :: layer.finished, parts := [] }
      count where
  capture := numbered.capture
  parts := by simp
  finished := by
    refine List.forall_mem_cons.mpr ⟨fun index member => ?_, numbered.finished⟩
    simp only [Part.inSequence, Expr.groups_inSequence, List.mem_flatMap, List.mem_map,
      List.mem_reverse] at member
    obtain ⟨_, ⟨part, present, rfl⟩, member⟩ := member
    exact numbered.parts part present index member

end Layer.NumberedUpTo

namespace Frame

/-- The groups of a frame have numbers from one up to the number of groups. -/
def Numbered (frame : Frame) : Prop :=
  ∀ layer ∈ frame.layer :: frame.outer, layer.NumberedUpTo frame.groups

theorem Move.numbered {before after : Frame} (move : Move before after)
    (numbered : before.Numbered) : after.Numbered := by
  unfold Numbered at numbered ⊢
  rw [List.forall_mem_cons] at numbered ⊢
  obtain ⟨innermost, around⟩ := numbered
  cases move with
  | part part noGroup => exact ⟨innermost.addPart (by simp [noGroup]), around⟩
  | repeated last least most greedy depth =>
      have parts := innermost.parts
      simp only [last, List.forall_mem_cons] at parts
      refine ⟨⟨innermost.capture, ?_, innermost.finished⟩, around⟩
      refine List.forall_mem_cons.mpr ⟨fun index member => ?_, parts.2⟩
      exact parts.1 index ((Expr.groups_repeated_sublist _ _ _ _).subset member)
  | alternative => exact ⟨innermost.nextAlternative, around⟩
  | opened flags =>
      exact ⟨.of_empty (by simp), List.forall_mem_cons.mpr ⟨innermost, around⟩⟩
  | captured flags =>
      refine ⟨.of_empty (fun index captures => ?_), List.forall_mem_cons.mpr ⟨?_, ?_⟩⟩
      · obtain rfl := Option.some.inj captures
        exact ⟨Nat.le_add_left _ _, Nat.le_refl _⟩
      · exact innermost.mono (Nat.le_succ _)
      · exact fun layer present => (around layer present).mono (Nat.le_succ _)
  | named fresh => exact ⟨innermost, around⟩
  | closed =>
      rw [List.forall_mem_cons] at around
      exact ⟨around.1.addPart innermost.close, around.2⟩

theorem Moves.numbered {before after : Frame} (moves : Moves before after)
    (numbered : before.Numbered) : after.Numbered := by
  induction moves with
  | refl => exact numbered
  | tail _ move inductionHypothesis => exact move.numbered inductionHypothesis

end Frame

/-! ### Order -/

theorem Part.groups_inSequence (parts : List Part) :
    (Part.inSequence parts).expr.groups = parts.flatMap fun part => part.expr.groups := by
  rw [Part.inSequence, Expr.groups_inSequence, List.flatMap_map]

theorem Layer.groups_contents (layer : Layer) :
    layer.contents.expr.groups =
      layer.finished.reverse.flatMap (fun part => part.expr.groups) ++
        layer.parts.reverse.flatMap fun part => part.expr.groups := by
  rw [Layer.contents, Part.alternatives, Expr.groups_alternatives, List.flatMap_map,
    List.reverse_cons, List.flatMap_append, List.flatMap_singleton, Part.groups_inSequence]

theorem Layer.groups_close (layer : Layer) :
    layer.close.expr.groups = layer.capture.toList ++ layer.contents.expr.groups := by
  rw [Layer.close]
  cases layer.capture <;> rfl

namespace Frame

/-- The groups that a frame has kept, in the order of their opening. -/
def groupsInOrder (frame : Frame) : List Nat :=
  (frame.layer :: frame.outer).reverse.flatMap fun layer => layer.close.expr.groups

/-- A move keeps groups, drops some or opens the next one. -/
theorem Move.groupsInOrder {before after : Frame} (move : Move before after) :
    after.groupsInOrder.Sublist before.groupsInOrder ∨
      after.groupsInOrder = before.groupsInOrder ++ [before.groups + 1] := by
  cases move with
  | repeated last least most greedy depth =>
      left
      simp only [Frame.groupsInOrder, List.reverse_cons, List.flatMap_append,
        List.flatMap_singleton, Layer.groups_close, Layer.groups_contents, last]
      refine (((List.Sublist.append_left ?_ _).append_left _).append_left _).append_left _
      exact Expr.groups_repeated_sublist _ _ _ _
  | captured flags =>
      right
      simp [Frame.groupsInOrder, Layer.groups_close, Layer.groups_contents]
  | part part noGroup =>
      left
      simp [Frame.groupsInOrder, Layer.groups_close, Layer.groups_contents, noGroup]
  | _ =>
      left
      simp [Frame.groupsInOrder, Layer.groups_close, Layer.groups_contents, Part.groups_inSequence]

/-- No two groups have one number. -/
theorem Moves.groupsInOrder_nodup {before after : Frame} (moves : Moves before after)
    (numbered : before.Numbered) (distinct : before.groupsInOrder.Nodup) :
    after.groupsInOrder.Nodup := by
  induction moves with
  | refl => exact distinct
  | @tail between after first move inductionHypothesis =>
      rcases move.groupsInOrder with dropped | opened
      · exact inductionHypothesis.sublist dropped
      · have fresh : between.groups + 1 ∉ between.groupsInOrder := by
          intro member
          obtain ⟨layer, present, member⟩ := List.mem_flatMap.mp member
          have within := Moves.numbered first numbered layer (List.mem_reverse.mp present)
          exact Nat.not_succ_le_self _ (within.close _ member).2
        rw [opened, ← List.concat_eq_append]
        exact inductionHypothesis.concat fresh

end Frame

end Stencil.Regex
