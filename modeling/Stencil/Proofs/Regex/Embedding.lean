import Stencil.Proofs.Regex.Lookahead
import Stencil.Proofs.Regex.Numbering
import Stencil.Proofs.Regex.Progress

/-!
The reading of a text inside of another one.

Owns `Context`, what surrounds a text that is enclosed in a group, and `Context.embed`, which
carries the reader of the text alone over to the reader of the whole. The groups of the text are
numbered further on and its layers lie upon those of the context; all else is the same.

The main statement is `read_embed`: a text that can be read alone is read before a closing
parenthesis as it is alone, whatever comes after the parenthesis, unless a name of a group is taken.
What the reader does with the parenthesis is not told here.
-/

namespace Stencil.Regex

/-- What surrounds a text: the layers around it, the captures and the names before it. -/
structure Context where
  layer : Layer
  outer : List Layer
  groups : Nat
  names : List (List Char)

/-- The reader of the whole where the reader of the text alone is the given one. -/
def Context.embed (context : Context) (reader : Reader) : Reader :=
  { reader with
    layer := reader.layer.shift context.groups
    outer := reader.outer.map (Layer.shift context.groups) ++ context.layer :: context.outer
    groups := reader.groups + context.groups
    names := reader.names ++ context.names }

/-- A name of a group in the text is taken by a group before the text. -/
def Context.Clashes (context : Context) (reader : Reader) : Prop :=
  ∃ name ∈ reader.names, name ∈ context.names

namespace Reader

private theorem map_bind {α : Type} (embed : Reader → Reader) (result : Except SyntaxError α)
    (next : α → Except SyntaxError Reader) :
    (result >>= next).map embed = result >>= fun value => (next value).map embed := by
  cases result <;> rfl

section Embedding

variable (context : Context) (reader : Reader)

@[simp] theorem embed_flags : (context.embed reader).flags = reader.flags := rfl

@[simp] theorem embed_brackets : (context.embed reader).brackets = reader.brackets := rfl

@[simp] theorem embed_mode : (context.embed reader).mode = reader.mode := rfl

@[simp] theorem embed_skip : (context.embed reader).skip = reader.skip := rfl

@[simp] theorem embed_inComment : (context.embed reader).inComment = reader.inComment := rfl

/-! ### Parts -/

theorem addPart_embed (part : Part) :
    (context.embed reader).addPart (part.shift context.groups) =
      context.embed (reader.addPart part) :=
  rfl

theorem addExpr_embed {expr : Expr} (noGroup : expr.shift context.groups = expr) :
    (context.embed reader).addExpr expr = context.embed (reader.addExpr expr) := by
  unfold addExpr
  rw [← addPart_embed, Part.shift]
  simp only [noGroup]

private theorem charExpr_shift (offset : Nat) (flags : Flags) (c : Char) :
    (charExpr flags c).shift offset = charExpr flags c := by
  unfold charExpr
  repeat' split
  all_goals rfl

theorem takeMember_embed (bracket : Bracket) (outer : List Bracket) (member : Member) :
    (context.embed reader).takeMember bracket outer member =
      (reader.takeMember bracket outer member).map context.embed := by
  unfold takeMember
  cases bracket.takeMember member <;> rfl

theorem takeChar_embed (c : Char) (isByte : Bool) :
    (context.embed reader).takeChar c isByte = (reader.takeChar c isByte).map context.embed := by
  simp only [takeChar, embed_flags, embed_brackets]
  cases reader.brackets with
  | nil =>
      simp only [addExpr_embed context reader (charExpr_shift _ _ _)]
      split <;> rfl
  | cons bracket outer =>
      simp only [takeMember_embed]
      split <;> rfl

theorem takeSet_embed (set : CharSet) :
    (context.embed reader).takeSet set = (reader.takeSet set).map context.embed := by
  simp only [takeSet, embed_brackets]
  split
  next => exact congrArg _ (addExpr_embed context reader rfl)
  next => rw [takeMember_embed]

theorem takeLook_embed (condition : Look) :
    (context.embed reader).takeLook condition = (reader.takeLook condition).map context.embed := by
  simp only [takeLook, embed_brackets]
  split
  next => exact congrArg _ (addExpr_embed context reader rfl)
  next => rfl

theorem takeWordSide_embed (side : WordSide) :
    (context.embed reader).takeWordSide side = (reader.takeWordSide side).map context.embed :=
  takeLook_embed context reader _

/-! ### Repetition -/

theorem canRepeat_embed : (context.embed reader).canRepeat = reader.canRepeat := by
  simp only [canRepeat, Context.embed, Layer.shift]
  cases reader.layer.parts <;> rfl

theorem repeatLast_embed (least : Nat) (most : Option Nat) (lazy : Bool) :
    (context.embed reader).repeatLast least most lazy =
      (reader.repeatLast least most lazy).map context.embed := by
  simp only [repeatLast, Context.embed, Layer.shift]
  cases reader.layer.parts with
  | nil => rfl
  | cons part parts =>
      cases setting : part.isSetting with
      | true => simp [setting, Except.map]
      | false =>
          simp [setting, Except.map, Context.embed, Layer.shift, Part.shift, Expr.shift_repeated]

theorem repeatSign_embed (least : Nat) (most : Option Nat) (rest tail : List Char) :
    (context.embed reader).repeatSign least most (rest ++ ')' :: tail) =
      (reader.repeatSign least most rest).map context.embed := by
  have sameSign : ((rest ++ ')' :: tail).head? == some '?') = (rest.head? == some '?') := by
    cases rest <;> rfl
  simp only [repeatSign, sameSign, repeatLast_embed]
  cases reader.repeatLast least most (rest.head? == some '?') <;> rfl

theorem endCount_embed (least : Nat) (most : Option Nat) :
    (context.embed reader).endCount least most =
      (reader.endCount least most).map context.embed := by
  unfold endCount
  split <;> rfl

theorem stepCount_embed (count : Count) (c : Char) :
    (context.embed reader).stepCount count c = (reader.stepCount count c).map context.embed := by
  simp only [stepCount, endCount_embed]
  repeat' split
  all_goals rfl

theorem settle_embed : (context.embed reader).settle = reader.settle.map context.embed := by
  unfold settle
  simp only [embed_mode, repeatLast_embed]
  split <;> rfl

/-! ### Groups -/

theorem openGroup_embed (capture : Option Nat) (flags : Flags) :
    (context.embed reader).openGroup (capture.map (· + context.groups)) flags =
      context.embed (reader.openGroup capture flags) :=
  rfl

theorem openCapture_embed :
    (context.embed reader).openCapture = context.embed reader.openCapture := by
  have sameNumber : reader.groups + context.groups + 1 = reader.groups + 1 + context.groups := by
    omega
  unfold openCapture
  rw [← openGroup_embed, Option.map_some, ← sameNumber]
  simp only [Context.embed, sameNumber]

theorem closeGroup_embed {after : Reader} (alone : reader.closeGroup = .ok after) :
    (context.embed reader).closeGroup = .ok (context.embed after) := by
  unfold closeGroup at alone
  split at alone
  next => simp at alone
  next layer outer stack =>
    obtain rfl := Except.ok.inj alone
    simp only [closeGroup, Context.embed, stack, List.map_cons, List.cons_append,
      Layer.shift_close]
    rfl

theorem nextAlternative_embed :
    (context.embed reader).nextAlternative = context.embed reader.nextAlternative := by
  simp only [nextAlternative, Context.embed, Layer.shift, List.map_cons, Part.shift_inSequence,
    List.map_reverse]
  rfl

/-- A name that is fresh in the text alone may be taken in the context. -/
theorem stepName_embed {name : List Char} {c : Char} {after : Reader}
    (alone : reader.stepName name c = .ok after) :
    (context.embed reader).stepName name c = .ok (context.embed after) ∨
      context.Clashes after ∧ (context.embed reader).stepName name c = .error .groupName := by
  unfold stepName at alone ⊢
  split at alone
  next ends =>
    rw [if_pos ends]
    split at alone
    next => simp at alone
    next fresh =>
      obtain rfl := Except.ok.inj alone
      split
      next taken =>
        refine .inr ⟨⟨name, List.mem_cons_self, ?_⟩, rfl⟩
        simp only [List.contains_iff_mem, not_or] at fresh
        simpa [Context.embed, fresh] using taken
      next =>
        left
        exact congrArg Except.ok
          (openCapture_embed context { reader with names := name :: reader.names })
  next goesOn =>
    rw [if_neg goesOn]
    split at alone
    next isNameChar =>
      obtain rfl := Except.ok.inj alone
      rw [if_pos isNameChar]
      exact .inl rfl
    next => simp at alone

theorem stepFlags_embed (list : FlagList) (c : Char) :
    (context.embed reader).stepFlags list c = (reader.stepFlags list c).map context.embed := by
  unfold stepFlags
  split
  · repeat' split
    all_goals rfl
  · split
    · split <;> rfl
    · cases list.read c <;> rfl

theorem stepQuestion_embed {rest : List Char} {after : Reader}
    (alone : reader.stepQuestion rest = .ok after) (tail : List Char) :
    (context.embed reader).stepQuestion (rest ++ ')' :: tail) = .ok (context.embed after) := by
  have inside : (context.embed reader).stepQuestion rest = .ok (context.embed after) := by
    unfold stepQuestion at alone ⊢
    split at alone
    all_goals first
      | (obtain rfl := Except.ok.inj alone; rfl)
      | simp at alone
  exact stepQuestion_append inside tail

/-! ### Escapes -/

theorem takeCodePoint_embed (value : Nat) (isByte : Bool) :
    (context.embed reader).takeCodePoint value isByte =
      (reader.takeCodePoint value isByte).map context.embed := by
  simp only [takeCodePoint, takeChar_embed]
  split <;> rfl

theorem takeProperty_embed (negated : Bool) (property : Option PropertyClass) :
    (context.embed reader).takeProperty negated property =
      (reader.takeProperty negated property).map context.embed := by
  cases property with
  | none => rfl
  | some property =>
      simp only [takeProperty, takeSet_embed, embed_flags]
      split <;> rfl

theorem takeLetterClass_embed (letter : Char) :
    (context.embed reader).takeLetterClass letter =
      (reader.takeLetterClass letter).map context.embed := by
  simp only [takeLetterClass, map_bind, takeSet_embed]
  rfl

theorem stepEscaped_embed (c : Char) (rest tail : List Char) :
    (context.embed reader).stepEscaped c (rest ++ ')' :: tail) =
      (reader.stepEscaped c rest).map context.embed := by
  have sameBrace :
      ((rest ++ ')' :: tail).head? == some '\x7b') = (rest.head? == some '\x7b') := by
    cases rest <;> rfl
  simp only [stepEscaped, sameBrace, takeLetterClass_embed, takeChar_embed, takeLook_embed,
    takeWordSide_embed]
  split
  all_goals first | rfl | (split <;> rfl)

theorem stepEscape_embed (escape : Escape) (c : Char) (rest tail : List Char) :
    (context.embed reader).stepEscape escape c (rest ++ ')' :: tail) =
      (reader.stepEscape escape c rest).map context.embed := by
  cases escape with
  | opened => exact stepEscaped_embed context reader c rest tail
  | wordSide =>
      simp only [stepEscape, takeWordSide_embed]
      split
      · rfl
      · cases reader.takeWordSide .boundary with
        | error cause => rfl
        | ok reader => exact stepCount_embed context reader {} c
  | _ =>
      simp only [stepEscape, takeCodePoint_embed, takeProperty_embed, takeWordSide_embed]
      repeat' split
      all_goals rfl

/-! ### Classes -/

theorem closeBracket_embed (bracket : Bracket) (outer : List Bracket) :
    (context.embed reader).closeBracket bracket outer =
      (reader.closeBracket bracket outer).map context.embed := by
  simp only [closeBracket, embed_flags]
  cases bracket.close reader.flags with
  | error cause => rfl
  | ok result => cases outer <;> rfl

theorem stepMember_embed (bracket : Bracket) (outer : List Bracket) (c : Char)
    (rest tail : List Char) :
    (context.embed reader).stepMember bracket outer c (rest ++ ')' :: tail) =
      (reader.stepMember bracket outer c rest).map context.embed := by
  have sameNext : ∀ operation, SetOperation.ofChar? c = some operation →
      ((rest ++ ')' :: tail).head? == some c) = (rest.head? == some c) := by
    intro operation isSign
    cases rest with
    | nil =>
        have notClosing : c ≠ ')' := by
          rintro rfl
          simp [SetOperation.ofChar?] at isSign
        simpa using notClosing.symm
    | cons d rest => rfl
  have chars := takeChar_embed context { reader with brackets := bracket :: outer } c false
  simp only [stepMember, ofText?_append, embed_flags, closeBracket_embed]
  split
  · split
    next named _ => cases negateUnder reader.flags named.negated _ <;> rfl
    next => rfl
  · split
    · rfl
    · split
      · rfl
      · split
        next operation isSign =>
          rw [sameNext operation isSign]
          split
          · rfl
          · exact chars
        next => exact chars

theorem stepBracket_embed (bracket : Bracket) (outer : List Bracket) (c : Char)
    (rest tail : List Char) :
    (context.embed reader).stepBracket bracket outer c (rest ++ ')' :: tail) =
      (reader.stepBracket bracket outer c rest).map context.embed := by
  have members := fun bracket => stepMember_embed context reader bracket outer c rest tail
  unfold stepBracket
  cases bracket.place with
  | members => exact members bracket
  | afterMember member =>
      have closing : afterHyphen reader.flags (rest ++ ')' :: tail) = some ']' ↔ _ :=
        afterHyphen_append reader.flags rest tail rfl (by decide) (by decide)
      have hyphen : afterHyphen reader.flags (rest ++ ')' :: tail) = some '-' ↔ _ :=
        afterHyphen_append reader.flags rest tail rfl (by decide) (by decide)
      simp only [members, embed_flags, ne_eq, closing, hyphen]
      split <;> rfl
  | inRange low =>
      simp only [takeChar_embed]
      split <;> rfl
  | _ =>
      simp only [members]
      repeat' split
      all_goals rfl

/-! ### Steps -/

theorem stepPlain_embed {c : Char} {rest : List Char} {after : Reader}
    (alone : reader.stepPlain c rest = .ok after) (tail : List Char) :
    (context.embed reader).stepPlain c (rest ++ ')' :: tail) = .ok (context.embed after) := by
  by_cases closes : c = ')'
  · rw [closes] at alone ⊢
    exact closeGroup_embed context reader alone
  · have inside : (context.embed reader).stepPlain c (rest ++ ')' :: tail) =
        (reader.stepPlain c rest).map context.embed := by
      have dot : (context.embed reader).addExpr (.oneOf (dotSet reader.flags)) =
          context.embed (reader.addExpr (.oneOf (dotSet reader.flags))) :=
        addExpr_embed context reader rfl
      simp only [stepPlain, repeatSign_embed, canRepeat_embed, takeLook_embed, takeChar_embed,
        embed_flags, nextAlternative_embed, dot]
      split
      all_goals first
        | rfl
        | contradiction
        | (split <;> rfl)
    rw [inside, alone]
    rfl

end Embedding

section Reading

variable (context : Context) {reader after : Reader}

/-- Whatever follows, the outcome is the given reader, carried over to the context, or a name in it is
taken. -/
def EndsAs (context : Context) (after : Reader)
    (inside : List Char → Except SyntaxError Reader) : Prop :=
  (∀ tail, inside tail = .ok (context.embed after)) ∨
    context.Clashes after ∧ ∀ tail, inside tail = .error .groupName

theorem stepMode_embed {c : Char} {rest : List Char} (alone : reader.stepMode c rest = .ok after) :
    EndsAs context after fun tail => (context.embed reader).stepMode c (rest ++ ')' :: tail) := by
  unfold stepMode at alone
  unfold EndsAs stepMode
  simp only [embed_mode]
  cases mode : reader.mode with
  | plain =>
      left
      intro tail
      simp only [mode, stepBetween, embed_brackets] at alone ⊢
      cases brackets : reader.brackets with
      | nil =>
          simp only [brackets] at alone
          exact stepPlain_embed context reader alone tail
      | cons bracket outer =>
          simp only [brackets] at alone
          simp only [stepBracket_embed, alone]
          rfl
  | opening =>
      left
      intro tail
      simp only [mode] at alone
      by_cases mark : c = '?'
      · simp only [mark, ↓reduceIte] at alone ⊢
        exact stepQuestion_embed context reader alone tail
      · simp only [mark, ↓reduceIte] at alone ⊢
        rw [openCapture_embed]
        exact stepPlain_embed context _ alone tail
  | naming name =>
      simp only [mode] at alone
      cases stepName_embed context reader alone with
      | inl carries => exact .inl fun _ => carries
      | inr taken => exact .inr ⟨taken.1, fun _ => taken.2⟩
  | setting list =>
      left
      intro tail
      simp only [mode] at alone
      simp only [stepFlags_embed, alone]
      rfl
  | escape escape =>
      left
      intro tail
      simp only [mode] at alone
      simp only [stepEscape_embed, alone]
      rfl
  | counting count =>
      left
      intro tail
      simp only [mode] at alone
      simp only [stepCount_embed, alone]
      rfl
  | counted least most =>
      left
      intro tail
      simp only [mode] at alone
      simp only [repeatLast_embed]
      split at alone
      next mark =>
        rw [if_pos mark, alone]
        rfl
      next other =>
        rw [if_neg other]
        obtain ⟨repeated, repeats, plain⟩ := exists_of_bind_ok alone
        rw [repeats]
        exact stepPlain_embed context repeated plain tail

theorem step_embed {c : Char} {rest : List Char} (alone : reader.step c rest = .ok after) :
    EndsAs context after fun tail => (context.embed reader).step c (rest ++ ')' :: tail) := by
  unfold step at alone
  unfold EndsAs step
  simp only [embed_skip, embed_inComment, embed_flags, embed_mode]
  split at alone
  next skip _ =>
    obtain rfl := Except.ok.inj alone
    exact .inl fun _ => rfl
  next =>
    split at alone
    next inComment =>
      obtain rfl := Except.ok.inj alone
      simp only [inComment, ↓reduceIte]
      exact .inl fun _ => rfl
    next notInComment =>
      split at alone
      next isGap =>
        obtain rfl := Except.ok.inj alone
        simp only [notInComment, isGap, ↓reduceIte]
        exact .inl fun _ => rfl
      next notGap =>
        split at alone
        next begins =>
          obtain rfl := Except.ok.inj alone
          simp only [notInComment, notGap, begins, ↓reduceIte]
          exact .inl fun _ => rfl
        next notSign =>
          simp only [notInComment, notGap, notSign]
          exact stepMode_embed context alone

/-- Before a closing parenthesis a text is read as it is alone, whatever comes after the
parenthesis, unless a name of a group is taken. -/
theorem read_embed {text : List Char} (alone : reader.read text = .ok after)
    (accounted : reader.skip ≤ text.length) :
    (∀ tail, (context.embed reader).read (text ++ ')' :: tail) =
      (context.embed after).read (')' :: tail)) ∨
      context.Clashes after ∧
        ∀ tail, (context.embed reader).read (text ++ ')' :: tail) = .error .groupName := by
  induction text generalizing reader with
  | nil =>
      obtain rfl := Except.ok.inj alone
      exact .inl fun _ => rfl
  | cons c rest inductionHypothesis =>
      obtain ⟨next, stepped, alone⟩ := exists_of_bind_ok alone
      simp only [List.cons_append, read]
      have accountedNext := (step_keeps stepped accounted).2
      rcases step_embed context stepped with carries | ⟨⟨name, present, taken⟩, fails⟩
      · simp only [carries]
        exact inductionHypothesis alone accountedNext
      · simp only [fails]
        have stays := (read_keeps alone accountedNext).1.names_suffix
        exact .inr ⟨⟨name, stays.mem present, taken⟩, fun _ => rfl⟩

end Reading

end Reader

end Stencil.Regex
