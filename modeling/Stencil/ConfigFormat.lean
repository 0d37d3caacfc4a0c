import Stencil.Config
import Stencil.Json.Reader
import Stencil.Yaml.Reading

/-!
Settings that are written down.

Owns `Config.ofDocument?`, which lays the settings of a document over the default settings, and the
reading of settings from texts and files in JSON and YAML. Settings under names that are not known
are passed over; a known one must have a value of its kind and may be given once. A list stands for
a map that gives the settings in their order. What is read must be usable settings.
-/

namespace Stencil

/-- The settings of a kind, by name: what a value does to a target that holds them. -/
abbrev Fields (α : Type) := List (String × (α → Document → Option α))

namespace Fields

variable {α : Type}

/-- Lays the entries of a map over a target. `seen` holds the names that were given before. -/
def ofEntries? (fields : Fields α) (seen : List String) (target : α) :
    List (Option String × Document) → Option α
  | [] => some target
  | (none, _) :: _ => none
  | (some name, document) :: rest =>
    match List.lookup name fields with
    | none => ofEntries? fields seen target rest
    | some set =>
      if seen.contains name then none
      else
        match set target document with
        | some target => ofEntries? fields (name :: seen) target rest
        | none => none

/-- Lays the items of a list over a target, each to the setting in its place. -/
def ofItems? (target : α) : Fields α → List Document → Option α
  | _, [] => some target
  | [], _ :: _ => none
  | (_, set) :: fields, document :: rest =>
    match set target document with
    | some target => ofItems? target fields rest
    | none => none

def layOver? (fields : Fields α) (target : α) (document : Document) : Option α :=
  match document with
  | .list items => ofItems? target fields items
  | _ =>
    match document.entries? with
    | some entries => fields.ofEntries? [] target entries
    | none => none

end Fields

def CacheConfig.fields : Fields CacheConfig := [
  ("enabled", fun config document => document.flag?.map fun enabled => { config with enabled }),
  ("max_size", fun config document => document.natural?.map fun maxSize => { config with maxSize })
]

namespace Config

/-- Filters by name. Of several under one name the last counts. -/
def filtersOf? (document : Document) : Option (Std.ExtTreeMap String String) := do
  let entries ← document.entries?
  entries.foldlM (fun filters entry => do
    let name ← entry.1
    let fragment ← entry.2.text?
    pure (filters.insert name fragment)) ∅

/-- The settings of a matcher by name. -/
def fields : Fields Config := [
  ("max_input_len", fun config document =>
    document.natural?.map fun maxInputLength => { config with maxInputLength }),
  ("max_identifier_len", fun config document =>
    document.natural?.map fun maxIdentifierLength => { config with maxIdentifierLength }),
  ("regex_size_limit", fun config document =>
    document.natural?.map fun regexSizeLimit => { config with regexSizeLimit }),
  ("parallel_threshold", fun config document =>
    document.natural?.map fun parallelThreshold => { config with parallelThreshold }),
  ("cache", fun config document =>
    (CacheConfig.fields.layOver? {} document).map fun cache => { config with cache }),
  ("filters", fun config document =>
    (filtersOf? document).map fun filters => { config with filters })
]

/-- The settings of a document over the default settings. -/
def ofDocument? (document : Document) : Option Config := fields.layOver? {} document

/-- Usable settings from what a text in the given format says. -/
def ofReading (format : Format) (document : Option Document) : Except Error Config :=
  match document.bind ofDocument? with
  | none => .error (.malformed format)
  | some config => do
    config.validate
    pure config

def ofJson (text : String) : Except Error Config := ofReading .json (Json.document? text)

def ofYaml (text : String) : Except Error Config := ofReading .yaml (Yaml.document? text)

/-- The format of a file by its name: JSON if what follows the last dot is `json` and something
comes before that dot, and YAML else. -/
def formatOf (fileName : String) : Format :=
  match fileName.toList.reverse with
  | 'n' :: 'o' :: 's' :: 'j' :: '.' :: _ :: _ => .json
  | _ => .yaml

/-- Settings from a file with the given name and contents, if there is one. -/
def ofFile (fileName : String) (contents : Option ByteArray) : Except Error Config :=
  match contents with
  | none => .error (.unreadable .notFound)
  | some bytes =>
    match String.fromUTF8? bytes with
    | none => .error (.unreadable .notUtf8)
    | some text =>
      match formatOf fileName with
      | .json => ofJson text
      | .yaml => ofYaml text

end Config

end Stencil
