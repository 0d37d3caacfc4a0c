import Mathlib.Data.List.Induction
import Stencil.Proofs.Config.Fields
import Stencil.Proofs.Matcher.Construction

/-!
Settings that are loaded from a text.

Owns:
- `Schema`, the settings that a map may give with the kinds of their values, and
  `Schema.Admits`, the maps that give each of them once at most and with a value of its kind;
- `Config.Overlays`, which says what settings a map makes of the default ones, name by name and
  apart from any order;
- `Rearranges`, maps that give the same settings in another order.

The main statement is `ofText_overlays`: what is loaded are the default settings with those that the
text gives in their place, if they are usable, and an error else; the order of the text has no say
in this, and settings that were loaded are usable for a matcher.

How a text is divided into entries is not told here: `Format.document?` does that.
-/

namespace Stencil

/-! ### The kinds of settings -/

/-- Settings by name, each with the documents that are values of its kind. -/
abbrev Schema := List (String × (Document → Bool))

/-- The map has a name for every entry. It gives each setting once at most, and a value of its kind.
What it says under other names may be anything. -/
structure Schema.Admits (schema : Schema) (entries : Entries) : Prop
    extends GivesOnce (schema.map Prod.fst) entries where
  typed : ∀ setting ∈ schema, ∀ entry ∈ entries, entry.1 = some setting.1 →
    setting.2 entry.2 = true

instance (schema : Schema) (entries : Entries) : Decidable (schema.Admits entries) :=
  decidable_of_iff
    (((∀ entry ∈ entries, entry.1 ≠ none) ∧
      ∀ name ∈ schema.map Prod.fst, (entries.map Prod.fst).count (some name) ≤ 1) ∧
      ∀ setting ∈ schema, ∀ entry ∈ entries, entry.1 = some setting.1 → setting.2 entry.2 = true)
    ⟨fun ⟨⟨named, once⟩, typed⟩ => ⟨⟨named, once⟩, typed⟩,
      fun ⟨⟨named, once⟩, typed⟩ => ⟨⟨named, once⟩, typed⟩⟩

namespace Document

def isNatural (document : Document) : Bool := document.natural?.isSome

def isFlag (document : Document) : Bool := document.flag?.isSome

/-- Whether the document is a map of texts. -/
def isTextMap (document : Document) : Bool :=
  document.entries?.any fun entries =>
    entries.all fun entry => entry.1.isSome && entry.2.text?.isSome

/-- Whether the document is a map that a schema admits. -/
def isMapOf (schema : Schema) (document : Document) : Bool :=
  document.entries?.any fun entries => decide (schema.Admits entries)

end Document

/-- The settings of a cache. -/
def CacheConfig.schema : Schema :=
  [("enabled", Document.isFlag), ("max_size", Document.isNatural)]

/-- The settings of a matcher. -/
def Config.schema : Schema := [
  ("max_input_len", Document.isNatural),
  ("max_identifier_len", Document.isNatural),
  ("regex_size_limit", Document.isNatural),
  ("parallel_threshold", Document.isNatural),
  ("cache", Document.isMapOf CacheConfig.schema),
  ("filters", Document.isTextMap)
]

/-! ### What a map makes of the default settings -/

open Fields (valueOr)

/-- The entries of the map that is given under a name. -/
def Entries.within (entries : Entries) (name : String) : Entries :=
  valueOr entries name Document.entries? []

/-- The default settings of a cache, with those that the map gives in their place. -/
structure CacheConfig.Overlays (entries : Entries) (config : CacheConfig) : Prop where
  enabled : config.enabled = valueOr entries "enabled" Document.flag? true
  maxSize : config.maxSize = valueOr entries "max_size" Document.natural? 256

/-- The default settings of a matcher, with those that the map gives in their place. Of several
filters under one name the last counts. -/
structure Config.Overlays (entries : Entries) (config : Config) : Prop where
  maxInputLength : config.maxInputLength = valueOr entries "max_input_len" Document.natural? 65536
  maxIdentifierLength :
    config.maxIdentifierLength = valueOr entries "max_identifier_len" Document.natural? 64
  regexSizeLimit :
    config.regexSizeLimit = valueOr entries "regex_size_limit" Document.natural? 10485760
  parallelThreshold :
    config.parallelThreshold = valueOr entries "parallel_threshold" Document.natural? 64
  cache : CacheConfig.Overlays (Entries.within entries "cache") config.cache
  filters : ∀ name, config.filters[name]? =
    ((Entries.within entries "filters").reverse.lookup (some name)).bind Document.text?

/-- The maps that give the same settings in another order, also among those of the cache. -/
inductive Rearranges : Entries → Entries → Prop where
  | perm {entries reordered : Entries} : entries.Perm reordered → Rearranges entries reordered
  | cache {before after inside reordered : Entries} : inside.Perm reordered →
      Rearranges (before ++ (some "cache", .map inside) :: after)
        (before ++ (some "cache", .map reordered) :: after)
  | trans {first second third : Entries} :
      Rearranges first second → Rearranges second third → Rearranges first third

/-- The bounds with which a matcher can be made. -/
def Config.Usable (config : Config) : Prop :=
  1 ≤ config.maxIdentifierLength ∧ config.maxIdentifierLength ≤ 1000 ∧ 1 ≤ config.regexSizeLimit

/-- The document that a text in a format denotes. -/
def Format.document? : Format → String → Option Document
  | .json => Json.document?
  | .yaml => Yaml.document?

/-- Settings from a text in a format. -/
def Config.ofText : Format → String → Except Error Config
  | .json => ofJson
  | .yaml => ofYaml

/-- The settings come from a text or from a file. -/
def Config.IsLoaded (config : Config) : Prop :=
  (∃ format text, ofText format text = .ok config) ∨
    ∃ fileName contents, ofFile fileName contents = .ok config

/-! ### Settings do not stand in each other's way -/

theorem CacheConfig.independent_fields : CacheConfig.fields.Independent := by
  simp only [Fields.Independent, CacheConfig.fields, List.pairwise_cons, List.forall_mem_cons,
    List.Pairwise.nil, List.not_mem_nil, false_implies, implies_true, and_true]
  refine ⟨by decide, fun target first second => ?_⟩
  simp only [Option.map_eq_bind, Option.bind_assoc, Function.comp_apply, Option.bind_some]
  exact Option.bind_comm _ _

theorem Config.independent_fields : Config.fields.Independent := by
  simp only [Fields.Independent, Config.fields, List.pairwise_cons, List.forall_mem_cons,
    List.Pairwise.nil, List.not_mem_nil, false_implies, implies_true, and_true]
  refine ⟨⟨?_, ?_, ?_, ?_, ?_⟩, ⟨?_, ?_, ?_, ?_⟩, ⟨?_, ?_, ?_⟩, ⟨?_, ?_⟩, ?_⟩
  all_goals
    refine ⟨by decide, fun target first second => ?_⟩
    simp only [Option.map_eq_bind, Option.bind_assoc, Function.comp_apply, Option.bind_some]
    exact Option.bind_comm _ _

/-! ### What is laid over the default settings -/

namespace Schema.Admits

variable {schema : Schema} {entries reordered : Entries}

/-- What a map gives for a setting is of its kind. -/
theorem kind_of_lookup (admits : schema.Admits entries) {name : String} {kind : Document → Bool}
    (listed : (name, kind) ∈ schema) {document : Document}
    (given : entries.lookup (some name) = some document) : kind document = true := by
  obtain ⟨before, after, whole, _⟩ := List.lookup_eq_some_iff.mp given
  have member : (some name, document) ∈ entries := by simp [whole]
  exact admits.typed _ listed _ member rfl

theorem readable {β : Type} (admits : schema.Admits entries) {name : String}
    {kind : Document → Bool} (listed : (name, kind) ∈ schema) {read : Document → Option β}
    (reads : ∀ document, kind document = true → ∃ value, read document = some value)
    (document : Document) (given : entries.lookup (some name) = some document) :
    ∃ value, read document = some value :=
  reads document (admits.kind_of_lookup listed given)

theorem perm (admits : schema.Admits entries) (order : entries.Perm reordered) :
    schema.Admits reordered where
  toGivesOnce := admits.toGivesOnce.perm order
  typed := fun setting listed entry member =>
    admits.typed setting listed entry (order.mem_iff.mpr member)

/-- One document may give way to another one of its kind. -/
theorem replace {before after : Entries} {name : String} {document substitute : Document}
    (admits : schema.Admits (before ++ (some name, document) :: after))
    (sameKind : ∀ setting ∈ schema, setting.1 = name → setting.2 document = true →
      setting.2 substitute = true) :
    schema.Admits (before ++ (some name, substitute) :: after) := by
  obtain ⟨⟨named, once⟩, typed⟩ := admits
  simp only [List.forall_mem_append, List.forall_mem_cons] at named typed
  refine ⟨⟨?_, ?_⟩, ?_⟩
  · simpa only [List.forall_mem_append, List.forall_mem_cons] using named
  · simpa only [List.map_append, List.map_cons] using once
  · intro setting listed
    obtain ⟨early, here, late⟩ := typed setting listed
    simp only [List.forall_mem_append, List.forall_mem_cons]
    refine ⟨early, fun same => ?_, late⟩
    exact sameKind setting listed (Option.some.inj same).symm (here same)

end Schema.Admits

namespace Document

variable {document : Document}

theorem exists_natural (isNatural : document.isNatural = true) :
    ∃ value, document.natural? = some value :=
  Option.isSome_iff_exists.mp isNatural

theorem exists_flag (isFlag : document.isFlag = true) : ∃ value, document.flag? = some value :=
  Option.isSome_iff_exists.mp isFlag

theorem exists_map {schema : Schema} (isMapOf : document.isMapOf schema = true) :
    ∃ entries, document.entries? = some entries ∧ schema.Admits entries := by
  simpa [Document.isMapOf, Option.any_eq_true] using isMapOf

end Document

theorem CacheConfig.layOver?_eq {document : Document} {entries : Entries}
    (isMap : document.entries? = some entries) (admits : CacheConfig.schema.Admits entries) :
    CacheConfig.fields.layOver? {} document =
      some ⟨valueOr entries "enabled" Document.flag? true,
        valueOr entries "max_size" Document.natural? 256⟩ := by
  rw [Fields.layOver?_eq_inTurn independent_fields isMap admits.toGivesOnce]
  refine (Fields.inTurn_cons_read "enabled" _
    (fun (config : CacheConfig) enabled => { config with enabled })
    (admits.readable (by simp [schema]) fun _ => Document.exists_flag) rfl _).trans ?_
  refine (Fields.inTurn_cons_read "max_size" _
    (fun (config : CacheConfig) maxSize => { config with maxSize })
    (admits.readable (by simp [schema]) fun _ => Document.exists_natural) rfl _).trans ?_
  rfl

namespace Config

/-- A map of texts makes filters, and of several under one name the last counts. -/
theorem exists_filters {document : Document} (isTextMap : document.isTextMap = true) :
    ∃ entries filters, document.entries? = some entries ∧ filtersOf? document = some filters ∧
      ∀ name, filters[name]? = (entries.reverse.lookup (some name)).bind Document.text? := by
  obtain ⟨entries, isMap, texts⟩ := (Option.any_eq_true _ _).mp isTextMap
  have filled : ∃ filters, filtersOf? document = some filters ∧
      ∀ name, filters[name]? = (entries.reverse.lookup (some name)).bind Document.text? := by
    unfold filtersOf?
    rw [isMap]
    clear isMap
    -- The entry that is laid over last is the first one from the end.
    induction entries using List.reverseRecOn with
    | nil => exact ⟨∅, rfl, fun name => Std.ExtTreeMap.getElem?_empty⟩
    | append_singleton entries entry inductionHypothesis =>
        obtain ⟨key, last⟩ := entry
        rw [List.all_append, Bool.and_eq_true] at texts
        obtain ⟨filters, filled, holds⟩ := inductionHypothesis texts.1
        have lastText := texts.2
        simp only [List.all_cons, List.all_nil, Bool.and_true, Bool.and_eq_true,
          Option.isSome_iff_exists] at lastText
        obtain ⟨⟨name, rfl⟩, fragment, reads⟩ := lastText
        refine ⟨filters.insert name fragment, ?_, fun other => ?_⟩
        · simp only [Option.bind_eq_bind, Option.bind_some] at filled ⊢
          rw [List.foldlM_append, filled]
          simp [reads]
        · rw [Std.ExtTreeMap.getElem?_insert, List.reverse_append, List.reverse_singleton,
            List.singleton_append]
          by_cases same : name = other
          · subst same
            simp [reads]
          · have differs : some other ≠ some name := fun equal => same (Option.some.inj equal).symm
            rw [lookup_cons_of_ne differs, ← holds]
            simp [same]
  obtain ⟨filters, laid, holds⟩ := filled
  exact ⟨entries, filters, isMap, laid, holds⟩

/-- A map that is admitted is laid over the default settings. -/
theorem exists_overlays {entries : Entries} (admits : schema.Admits entries) :
    ∃ config, ofDocument? (.map entries) = some config ∧ Overlays entries config := by
  have cacheReads : ∀ document : Document, document.isMapOf CacheConfig.schema = true →
      ∃ cache, CacheConfig.fields.layOver? {} document = some cache := by
    intro document isMapOf
    obtain ⟨inside, isMap, admitsInside⟩ := Document.exists_map isMapOf
    exact ⟨_, CacheConfig.layOver?_eq isMap admitsInside⟩
  have filtersRead : ∀ document : Document, document.isTextMap = true →
      ∃ filters, filtersOf? document = some filters := by
    intro document isTextMap
    obtain ⟨_, filters, _, reads, _⟩ := exists_filters isTextMap
    exact ⟨filters, reads⟩
  have laid : ofDocument? (.map entries) = some
      { maxInputLength := valueOr entries "max_input_len" Document.natural? 65536
        maxIdentifierLength := valueOr entries "max_identifier_len" Document.natural? 64
        regexSizeLimit := valueOr entries "regex_size_limit" Document.natural? 10485760
        parallelThreshold := valueOr entries "parallel_threshold" Document.natural? 64
        cache := valueOr entries "cache" (CacheConfig.fields.layOver? {}) {}
        filters := valueOr entries "filters" filtersOf? ∅ } := by
    unfold ofDocument?
    rw [Fields.layOver?_eq_inTurn independent_fields rfl admits.toGivesOnce]
    refine (Fields.inTurn_cons_read "max_input_len" _
      (fun (config : Config) maxInputLength => { config with maxInputLength })
      (admits.readable (by simp [schema]) fun _ => Document.exists_natural) rfl _).trans ?_
    refine (Fields.inTurn_cons_read "max_identifier_len" _
      (fun (config : Config) maxIdentifierLength => { config with maxIdentifierLength })
      (admits.readable (by simp [schema]) fun _ => Document.exists_natural) rfl _).trans ?_
    refine (Fields.inTurn_cons_read "regex_size_limit" _
      (fun (config : Config) regexSizeLimit => { config with regexSizeLimit })
      (admits.readable (by simp [schema]) fun _ => Document.exists_natural) rfl _).trans ?_
    refine (Fields.inTurn_cons_read "parallel_threshold" _
      (fun (config : Config) parallelThreshold => { config with parallelThreshold })
      (admits.readable (by simp [schema]) fun _ => Document.exists_natural) rfl _).trans ?_
    refine (Fields.inTurn_cons_read "cache" _
      (fun (config : Config) cache => { config with cache })
      (admits.readable (by simp [schema]) cacheReads) rfl _).trans ?_
    refine (Fields.inTurn_cons_read "filters" _
      (fun (config : Config) filters => { config with filters })
      (admits.readable (by simp [schema]) filtersRead) rfl _).trans ?_
    rfl
  refine ⟨_, laid, rfl, rfl, rfl, rfl, ?_, fun name => ?_⟩
  · unfold Entries.within valueOr
    cases given : entries.lookup (some "cache") with
    | none => exact ⟨rfl, rfl⟩
    | some document =>
        have kind : document.isMapOf CacheConfig.schema = true :=
          admits.kind_of_lookup (by simp [schema]) given
        obtain ⟨inside, isMap, admitsInside⟩ := Document.exists_map kind
        simp only [Option.bind_some, isMap, CacheConfig.layOver?_eq isMap admitsInside]
        exact ⟨rfl, rfl⟩
  · unfold Entries.within valueOr
    cases given : entries.lookup (some "filters") with
    | none => exact Std.ExtTreeMap.getElem?_empty
    | some document =>
        have kind : document.isTextMap = true :=
          admits.kind_of_lookup (by simp [schema]) given
        obtain ⟨inside, filters, isMap, reads, holds⟩ := exists_filters kind
        simp only [Option.bind_some, isMap, reads, Option.getD_some]
        exact holds name

/-! ### Other orders -/

/-- A cache is the same in whatever order its settings are given. -/
theorem give_cache_perm {inside reordered : Entries} (order : inside.Perm reordered)
    (admits : CacheConfig.schema.Admits inside) :
    ∀ field ∈ fields, field.1 = "cache" →
      Fields.give field.2 (some (.map reordered)) = Fields.give field.2 (some (.map inside)) := by
  have same := Fields.layOver?_perm CacheConfig.independent_fields admits.toGivesOnce order {}
  simp only [fields, List.forall_mem_cons, List.not_mem_nil, false_implies, implies_true, and_true]
  refine ⟨by simp, by simp, by simp, by simp, fun _ => ?_, by simp⟩
  funext target
  simp only [Fields.give, same]

/-- In whatever order the settings of a matcher and of its cache are given, they are the same. -/
theorem ofDocument?_rearranged {entries reordered : Entries}
    (rearranges : Rearranges entries reordered) (admits : schema.Admits entries) :
    schema.Admits reordered ∧ ofDocument? (.map reordered) = ofDocument? (.map entries) := by
  induction rearranges with
  | perm order =>
      exact ⟨admits.perm order,
        Fields.layOver?_perm independent_fields admits.toGivesOnce order {}⟩
  | @cache before after inside reordered order =>
      have isMapOf : Document.isMapOf CacheConfig.schema (.map inside) = true :=
        admits.typed ("cache", Document.isMapOf CacheConfig.schema) (by simp [schema])
          (some "cache", .map inside) (by simp) rfl
      have admitsInside : CacheConfig.schema.Admits inside := of_decide_eq_true isMapOf
      have admitsOther : schema.Admits (before ++ (some "cache", .map reordered) :: after) := by
        refine admits.replace ?_
        simp only [schema, List.forall_mem_cons, List.not_mem_nil, false_implies, implies_true,
          and_true]
        exact ⟨by simp, by simp, by simp, by simp,
          fun _ _ => decide_eq_true (admitsInside.perm order), by simp⟩
      have absent : some "cache" ∉ before.map Prod.fst := by
        have others := admits.toGivesOnce.not_mem_others (by simp [schema])
        rw [List.map_append, List.mem_append, not_or] at others
        exact others.1
      refine ⟨admitsOther, ?_⟩
      unfold ofDocument?
      rw [Fields.layOver?_eq_inTurn independent_fields rfl admitsOther.toGivesOnce,
        Fields.layOver?_eq_inTurn independent_fields rfl admits.toGivesOnce,
        Fields.inTurn_replace absent (give_cache_perm order admitsInside)]
  | trans _ _ firstHypothesis secondHypothesis =>
      obtain ⟨admitsSecond, first⟩ := firstHypothesis admits
      obtain ⟨admitsThird, second⟩ := secondHypothesis admitsSecond
      exact ⟨admitsThird, second.trans first⟩

/-! ### Texts -/

variable {config : Config}

theorem ofText_eq (format : Format) (text : String) :
    ofText format text = ofReading format (format.document? text) := by
  cases format <;> rfl

theorem fault?_eq_none_iff : config.fault? = none ↔ config.Usable := by
  unfold fault? Usable identifierLengthLimit
  split_ifs <;> simp <;> omega

/-- Settings that a document gives are refused if they are not usable, and for no other cause. -/
theorem ofReading_eq {format : Format} {document : Document}
    (laid : ofDocument? document = some config) :
    ofReading format (some document) =
      match config.fault? with
      | some fault => .error (.invalidConfig fault.message)
      | none => .ok config := by
  have validated : ofReading format (some document) = (do config.validate; pure config) := by
    unfold ofReading
    rw [Option.bind_some, laid]
  rw [validated, validate]
  cases config.fault? <;> rfl

theorem usable_of_ofReading {format : Format} {document : Option Document}
    (loads : ofReading format document = .ok config) : config.Usable := by
  unfold ofReading at loads
  cases laid : document.bind ofDocument? with
  | none => simp [laid] at loads
  | some found =>
      simp only [laid, validate] at loads
      cases fault : found.fault? with
      | some fault => simp [fault, bind, Except.bind] at loads
      | none =>
          simp only [fault] at loads
          obtain rfl := Except.ok.inj loads
          exact fault?_eq_none_iff.mp fault

/-- Settings are loaded only if they are usable, from wherever they come. -/
theorem IsLoaded.usable (loaded : config.IsLoaded) : config.Usable := by
  rcases loaded with ⟨format, text, loads⟩ | ⟨fileName, contents, loads⟩
  · rw [ofText_eq] at loads
    exact usable_of_ofReading loads
  · unfold ofFile at loads
    split at loads
    next => simp at loads
    next bytes =>
      split at loads
      next => simp at loads
      next text =>
        split at loads
        next => exact usable_of_ofReading loads
        next => exact usable_of_ofReading loads

/-- What a text that gives well-typed settings comes to: the default settings with exactly those in
their place if they are usable, and an error that says why they are not else. Another text, in the
same format or another one, that gives the same settings in another order comes to the same. No
settings that were loaded are refused as not usable when a matcher is made. -/
theorem ofText_overlays [Regex.Measure] {entries : Entries} (admits : schema.Admits entries) :
    (∃ config, Overlays entries config ∧
      ∀ format text, format.document? text = some (.map entries) →
        (config.Usable → ofText format text = .ok config) ∧
        (¬ config.Usable → ∃ reason, ofText format text = .error (.invalidConfig reason))) ∧
    (∀ reordered, Rearranges entries reordered → ∀ format text otherFormat otherText,
      format.document? text = some (.map entries) →
      otherFormat.document? otherText = some (.map reordered) →
      ofText otherFormat otherText = ofText format text) ∧
    ∀ config : Config, config.IsLoaded →
      ∀ reason, Matcher.withConfig config ≠ .error (.invalidConfig reason) := by
  obtain ⟨config, laid, overlays⟩ := exists_overlays admits
  refine ⟨⟨config, overlays, fun format text denotes => ?_⟩, ?_, ?_⟩
  · rw [ofText_eq, denotes, ofReading_eq laid, ← fault?_eq_none_iff]
    cases config.fault? <;> simp
  · intro reordered rearranges format text otherFormat otherText denotes otherDenotes
    have laidOther := (ofDocument?_rearranged rearranges admits).2.trans laid
    rw [ofText_eq, ofText_eq, denotes, otherDenotes, ofReading_eq laid, ofReading_eq laidOther]
  · intro loadedConfig loaded reason refused
    obtain ⟨error, invalid⟩ := Matcher.invalidConfig_iff.mp ⟨reason, refused⟩
    rw [validate, fault?_eq_none_iff.mpr loaded.usable] at invalid
    simp at invalid

/-- Among unknown settings, the latter of two filters under one name and one setting of the cache
are taken, in either order of the text. A bound of zero is not usable. -/
theorem ofText_overlays_reordered :
    let filters := "\"filters\": \x7b\"f\": \"(x)\", \"f\": \"(y)\"\x7d"
    let text :=
      "\x7b\"a\": [1], " ++ filters ++ ", \"cache\": \x7b\"b\": null, \"enabled\": false\x7d\x7d"
    let other :=
      "\x7b\"cache\": \x7b\"enabled\": false, \"b\": null\x7d, " ++ filters ++ ", \"a\": [1]\x7d"
    (∃ config, ofText .json text = .ok config ∧ ofText .json other = .ok config ∧
      config.maxIdentifierLength = 64 ∧ config.cache = ⟨false, 256⟩ ∧
      config.filters["f"]? = some "(y)" ∧
      ∀ reason, Matcher.withConfig config ≠ .error (.invalidConfig reason)) ∧
    ∃ reason, ofText .yaml "a: red\nmax_identifier_len: 0\n" = .error (.invalidConfig reason) := by
  intro filtersText text other
  constructor
  · let unknown : Option String × Document := (some "a", .list [.scalar { natural := some 1 }])
    let filters : Option String × Document := (some "filters", .map
      [(some "f", .scalar { text := some "(x)" }), (some "f", .scalar { text := some "(y)" })])
    let inner : Option String × Document := (some "b", .scalar {})
    let enabled : Option String × Document := (some "enabled", .scalar { flag := some false })
    let entries : Entries := [unknown, filters, (some "cache", .map [inner, enabled])]
    have denotes : Format.document? .json text = some (.map entries) := by
      dsimp only [Format.document?, text, filtersText]
      rfl
    have otherDenotes : Format.document? .json other =
        some (.map [(some "cache", .map [enabled, inner]), filters, unknown]) := by
      dsimp only [Format.document?, other, filtersText]
      rfl
    have rearranges : Rearranges entries
        [(some "cache", .map [enabled, inner]), filters, unknown] := by
      refine .trans (@Rearranges.cache [unknown, filters] [] _ _ (.swap enabled inner [])) ?_
      exact .perm (List.reverse_perm [_, _, _]).symm
    obtain ⟨⟨config, overlays, loads⟩, same, accepted⟩ := ofText_overlays
      (show schema.Admits entries by decide +kernel)
    have usable : config.Usable := by
      unfold Usable
      rw [overlays.maxIdentifierLength, overlays.regexSizeLimit]
      decide +kernel
    have loaded := (loads .json text denotes).1 usable
    have cache : config.cache = ⟨false, 256⟩ := by
      have parts : config.cache = ⟨config.cache.enabled, config.cache.maxSize⟩ := rfl
      rw [parts, overlays.cache.enabled, overlays.cache.maxSize]
      decide +kernel
    refine ⟨config, loaded, ?_, overlays.maxIdentifierLength, cache, overlays.filters "f",
      accepted config (.inl ⟨.json, text, loaded⟩)⟩
    exact (same _ rearranges .json text .json other denotes otherDenotes).trans loaded
  · have checked : (Yaml.document? "a: red\nmax_identifier_len: 0\n").any (fun document =>
        document.entries?.any fun entries => decide (schema.Admits entries) &&
          valueOr entries "max_identifier_len" Document.natural? 64 == 0) = true := by
      decide +kernel
    obtain ⟨document, denotes, checked⟩ := (Option.any_eq_true _ _).mp checked
    obtain ⟨entries, given, checked⟩ := (Option.any_eq_true _ _).mp checked
    rw [Bool.and_eq_true, decide_eq_true_eq, beq_iff_eq] at checked
    have written : entries ≠ [] := by
      rintro rfl
      exact absurd checked.2 (by decide)
    have isMap : document = .map entries := by
      cases document with
      | map _ => exact congrArg Document.map (Option.some.inj given)
      | scalar _ =>
          have empty := Option.some.inj (Option.ite_none_right_eq_some.mp given).2
          exact absurd empty.symm written
      | list _ => simp [Document.entries?] at given
      | other => simp [Document.entries?] at given
    obtain ⟨⟨config, overlays, loads⟩, _⟩ := ofText_overlays checked.1
    refine (loads .yaml _ (isMap ▸ denotes)).2 fun usable => ?_
    have bound := overlays.maxIdentifierLength.trans checked.2
    exact absurd usable.1 (by omega)

end Config

end Stencil
