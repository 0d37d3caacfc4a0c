import Stencil.ConfigFormat

/-!
Settings by name, whatever the order in which a map gives them.

Owns:
- `Entries`, what a map says, and `GivesOnce`, the maps in which no setting is given twice;
- `Fields.inTurn`, which asks a map for one setting after another.

The main statement is `Fields.ofEntries?_eq_inTurn`: where the settings do not stand in each other's
way, the entries of a map, taken in their order, come to what the map says on each setting, taken in
the order of the settings. So neither the order of the entries nor those under other names make a
difference.
-/

namespace Stencil

/-- What a map says: documents under names, in the order of the text. -/
abbrev Entries := List (Option String × Document)

/-- Every entry has a name, and none of the given names comes twice. -/
structure GivesOnce (names : List String) (entries : Entries) : Prop where
  named : ∀ entry ∈ entries, entry.1 ≠ none
  once : ∀ name ∈ names, (entries.map Prod.fst).count (some name) ≤ 1

/-! ### Entries -/

namespace GivesOnce

variable {names : List String} {entries other : Entries}

theorem tail {entry : Option String × Document} (gives : GivesOnce names (entry :: entries)) :
    GivesOnce names entries where
  named := fun later member => gives.named later (List.mem_cons_of_mem entry member)
  once := fun name known =>
    Nat.le_trans (List.count_le_count_cons) (gives.once name known)

/-- A setting that is given is not given again, before or after. -/
theorem not_mem_others {before after : Entries} {name : String} {document : Document}
    (known : name ∈ names) (gives : GivesOnce names (before ++ (some name, document) :: after)) :
    some name ∉ (before ++ after).map Prod.fst := by
  have once := gives.once name known
  rw [List.map_append, List.map_cons, List.count_append, List.count_cons_self] at once
  rw [List.map_append, ← List.count_eq_zero, List.count_append]
  omega

theorem perm (gives : GivesOnce names entries) (reordered : entries.Perm other) :
    GivesOnce names other where
  named := fun entry member => gives.named entry (reordered.mem_iff.mpr member)
  once := fun name known => (reordered.map Prod.fst).count_eq (some name) ▸ gives.once name known

end GivesOnce

theorem lookup_eq_none_of_not_mem {name : Option String} {entries : Entries}
    (absent : name ∉ entries.map Prod.fst) : entries.lookup name = none := by
  rw [List.lookup_eq_none_iff]
  intro entry member
  exact bne_iff_ne.mpr fun same => absent (same ▸ List.mem_map_of_mem member)

theorem lookup_cons_of_ne {name other : Option String} (differs : name ≠ other)
    (document : Document) (entries : Entries) :
    List.lookup name ((other, document) :: entries) = entries.lookup name := by
  rw [List.lookup_cons, beq_false_of_ne differs]

/-- Under a name that comes once at most, a map says the same in every order. -/
theorem lookup_perm {name : Option String} {entries other : Entries}
    (reordered : entries.Perm other) (once : (entries.map Prod.fst).count name ≤ 1) :
    entries.lookup name = other.lookup name := by
  induction reordered with
  | nil => rfl
  | @cons entry before after _ inductionHypothesis =>
      obtain ⟨key, document⟩ := entry
      by_cases same : name = key
      · subst same
        rw [List.lookup_cons_self, List.lookup_cons_self]
      · rw [lookup_cons_of_ne same, lookup_cons_of_ne same]
        exact inductionHypothesis (Nat.le_trans List.count_le_count_cons once)
  | swap first second rest =>
      obtain ⟨firstKey, firstDocument⟩ := first
      obtain ⟨secondKey, secondDocument⟩ := second
      by_cases isFirst : name = firstKey
      · by_cases isSecond : name = secondKey
        · subst isFirst isSecond
          simp at once
        · subst isFirst
          rw [lookup_cons_of_ne isSecond, List.lookup_cons_self, List.lookup_cons_self]
      · simp only [List.lookup_cons, beq_false_of_ne isFirst]
  | trans first _ firstHypothesis secondHypothesis =>
      rw [firstHypothesis once]
      exact secondHypothesis ((first.map Prod.fst).count_eq name ▸ once)

/-! ### Settings in turn -/

namespace Fields

variable {α : Type}

/-- What becomes of a target by a setting, if a value is given for it. -/
def give (set : α → Document → Option α) (document : Option Document) (target : α) : Option α :=
  match document with
  | none => some target
  | some document => set target document

/-- Asks a map for one setting after another, in the order of the settings. -/
def inTurn (entries : Entries) : Fields α → α → Option α
  | [], target => some target
  | (name, set) :: fields, target =>
    (give set (entries.lookup (some name)) target).bind (inTurn entries fields)

/-- Settings of different names that do not stand in each other's way: whichever of two is given
first, they come to the same. -/
def Independent (fields : Fields α) : Prop :=
  fields.Pairwise fun first second => first.1 ≠ second.1 ∧
    ∀ target firstDocument secondDocument,
      (first.2 target firstDocument).bind (second.2 · secondDocument) =
        (second.2 target secondDocument).bind (first.2 · firstDocument)

theorem mem_names_of_lookup {fields : Fields α} {name : String} {set : α → Document → Option α}
    (known : List.lookup name fields = some set) : name ∈ fields.map Prod.fst := by
  obtain ⟨before, after, rfl, _⟩ := List.lookup_eq_some_iff.mp known
  simp

theorem inTurn_nil (fields : Fields α) (target : α) : inTurn [] fields target = some target := by
  induction fields with
  | nil => rfl
  | cons field fields inductionHypothesis => exact inductionHypothesis

/-- Two maps that do the same to each setting come to the same. -/
theorem inTurn_congr {fields : Fields α} {entries other : Entries}
    (same : ∀ field ∈ fields, give field.2 (entries.lookup (some field.1)) =
      give field.2 (other.lookup (some field.1))) :
    inTurn entries fields = inTurn other fields := by
  induction fields with
  | nil => rfl
  | cons field fields inductionHypothesis =>
      obtain ⟨name, set⟩ := field
      rw [List.forall_mem_cons] at same
      funext target
      rw [inTurn, inTurn, same.1, inductionHypothesis same.2]

/-- An entry under a name that is not known makes no difference. -/
theorem inTurn_cons_unknown {fields : Fields α} {name : String}
    (unknown : name ∉ fields.map Prod.fst) (document : Document) (entries : Entries) :
    inTurn ((some name, document) :: entries) fields = inTurn entries fields := by
  refine inTurn_congr fun field known => congrArg (give field.2) ?_
  refine lookup_cons_of_ne (fun same => unknown ?_) document entries
  exact Option.some.inj same ▸ List.mem_map_of_mem known

/-- A setting may be given by another document that does the same. -/
theorem inTurn_replace {fields : Fields α} {before after : Entries} {name : String}
    {document substitute : Document} (absent : some name ∉ before.map Prod.fst)
    (same : ∀ field ∈ fields, field.1 = name →
      give field.2 (some substitute) = give field.2 (some document)) :
    inTurn (before ++ (some name, substitute) :: after) fields =
      inTurn (before ++ (some name, document) :: after) fields := by
  refine inTurn_congr fun field listed => ?_
  rw [List.lookup_append, List.lookup_append]
  by_cases isThis : field.1 = name
  · rw [isThis, lookup_eq_none_of_not_mem absent, Option.none_or, Option.none_or,
      List.lookup_cons_self, List.lookup_cons_self]
    exact same field listed isThis
  · have differs : some field.1 ≠ some name := fun equal => isThis (Option.some.inj equal)
    rw [lookup_cons_of_ne differs, lookup_cons_of_ne differs]

/-- The first entry may as well be taken before all settings. -/
theorem inTurn_cons_known {fields : Fields α} (independent : Independent fields) {name : String}
    {set : α → Document → Option α} (known : List.lookup name fields = some set)
    {entries : Entries} (absent : some name ∉ entries.map Prod.fst) (document : Document)
    (target : α) :
    inTurn ((some name, document) :: entries) fields target =
      (set target document).bind (inTurn entries fields) := by
  -- The setting of the entry is moved to the front, past the settings that come before it.
  induction fields generalizing target with
  | nil => simp at known
  | cons field fields inductionHypothesis =>
      obtain ⟨first, setFirst⟩ := field
      obtain ⟨apart, others⟩ := List.pairwise_cons.mp independent
      by_cases isFirst : name = first
      · subst isFirst
        rw [List.lookup_cons_self] at known
        obtain rfl := Option.some.inj known
        have unknown : name ∉ fields.map Prod.fst := by
          intro member
          obtain ⟨other, memberField, same⟩ := List.mem_map.mp member
          exact (apart other memberField).1 same.symm
        rw [inTurn, List.lookup_cons_self, inTurn_cons_unknown unknown]
        refine congrArg _ (funext fun between => ?_)
        rw [inTurn, lookup_eq_none_of_not_mem absent]
        rfl
      · have knownLater : List.lookup name fields = some set := by
          rwa [List.lookup_cons, beq_false_of_ne isFirst] at known
        obtain ⟨before, after, rfl, _⟩ := List.lookup_eq_some_iff.mp knownLater
        have commute := (apart (name, set) (by simp)).2
        have moved : ∀ between : α,
            inTurn ((some name, document) :: entries) (before ++ (name, set) :: after) between =
              (set between document).bind (inTurn entries (before ++ (name, set) :: after)) :=
          fun between => inductionHypothesis others knownLater between
        have differs : some first ≠ some name := fun same => isFirst (Option.some.inj same).symm
        have exchanged : (give setFirst (entries.lookup (some first)) target).bind
              (fun between => set between document) =
            (set target document).bind (give setFirst (entries.lookup (some first))) := by
          cases entries.lookup (some first) with
          | none => exact (Option.bind_fun_some (set target document)).symm
          | some given => exact commute target given document
        rw [inTurn, lookup_cons_of_ne differs, funext moved, ← Option.bind_assoc, exchanged,
          Option.bind_assoc]
        rfl

/-- The entries of a map in their order come to what the map says on each setting in turn. -/
theorem ofEntries?_eq_inTurn {fields : Fields α} (independent : Independent fields)
    {entries : Entries} (gives : GivesOnce (fields.map Prod.fst) entries) {seen : List String}
    (fresh : ∀ name ∈ seen, some name ∉ entries.map Prod.fst) (target : α) :
    fields.ofEntries? seen target entries = inTurn entries fields target := by
  induction entries generalizing seen target with
  | nil => rw [inTurn_nil, ofEntries?]
  | cons entry rest inductionHypothesis =>
      obtain ⟨key, document⟩ := entry
      obtain ⟨name, rfl⟩ := Option.ne_none_iff_exists'.mp (gives.named _ List.mem_cons_self)
      have freshLater : ∀ other ∈ seen, some other ∉ rest.map Prod.fst :=
        fun other member present => fresh other member (List.mem_cons_of_mem _ present)
      cases known : List.lookup name fields with
      | none =>
          have unknown : name ∉ fields.map Prod.fst := by
            intro member
            obtain ⟨field, memberField, same⟩ := List.mem_map.mp member
            have differs := List.lookup_eq_none_iff.mp known field memberField
            exact bne_iff_ne.mp differs same.symm
          rw [ofEntries?, known, inTurn_cons_unknown unknown]
          exact inductionHypothesis gives.tail freshLater target
      | some set =>
          have absent : some name ∉ rest.map Prod.fst :=
            @GivesOnce.not_mem_others _ [] rest _ _ (mem_names_of_lookup known) gives
          have notSeen : seen.contains name = false := by
            rw [List.contains_eq_mem, decide_eq_false_iff_not]
            exact fun member => fresh name member List.mem_cons_self
          have freshNow : ∀ other ∈ name :: seen, some other ∉ rest.map Prod.fst :=
            List.forall_mem_cons.mpr ⟨absent, freshLater⟩
          rw [ofEntries?, known, inTurn_cons_known independent known absent]
          simp only [notSeen, Bool.false_eq_true, if_false]
          cases set target document with
          | none => rfl
          | some next => exact inductionHypothesis gives.tail freshNow next

/-- A document that is a map is laid over a target by what it says on each setting. -/
theorem layOver?_eq_inTurn {fields : Fields α} (independent : Independent fields)
    {document : Document} {entries : Entries} (isMap : document.entries? = some entries)
    (gives : GivesOnce (fields.map Prod.fst) entries) (target : α) :
    fields.layOver? target document = inTurn entries fields target := by
  have taken : fields.ofEntries? [] target entries = inTurn entries fields target :=
    ofEntries?_eq_inTurn independent gives (by simp) target
  unfold layOver?
  split
  next items => simp [Document.entries?] at isMap
  next =>
    rw [isMap]
    exact taken

/-- The order in which a map gives settings makes no difference. -/
theorem layOver?_perm {fields : Fields α} (independent : Independent fields)
    {entries reordered : Entries} (gives : GivesOnce (fields.map Prod.fst) entries)
    (order : entries.Perm reordered) (target : α) :
    fields.layOver? target (.map reordered) = fields.layOver? target (.map entries) := by
  rw [layOver?_eq_inTurn independent rfl (gives.perm order),
    layOver?_eq_inTurn independent rfl gives]
  refine congrFun (inTurn_congr fun field known => congrArg (give field.2) ?_) target
  exact (lookup_perm order (gives.once field.1 (List.mem_map_of_mem known))).symm

/-! ### Settings that are read and put in their place -/

/-- The value that a map gives under a name, or another one if it gives none. -/
def valueOr {β : Type} (entries : Entries) (name : String) (read : Document → Option β)
    (default : β) : β :=
  ((entries.lookup (some name)).bind read).getD default

/-- A setting that is read is put in its place if it is given, and stays as it is if it is not. -/
theorem inTurn_cons_read {β : Type} (name : String) (read : Document → Option β) (put : α → β → α)
    {entries : Entries}
    (readable : ∀ document, entries.lookup (some name) = some document →
      ∃ value, read document = some value)
    {target : α} {value : β} (stays : put target value = target) (fields : Fields α) :
    inTurn entries ((name, fun target document => (read document).map (put target)) :: fields)
        target =
      inTurn entries fields (put target (valueOr entries name read value)) := by
  unfold valueOr
  rw [inTurn]
  cases given : entries.lookup (some name) with
  | none => exact congrArg (inTurn entries fields) stays.symm
  | some document =>
      obtain ⟨found, reads⟩ := readable document given
      simp [give, reads]

end Fields

end Stencil
