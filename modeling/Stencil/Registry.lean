import Std.Data.ExtTreeMap
import Stencil.Error
import Stencil.Grammar
import Stencil.Regex.Compiled

/-!
Filters by name.

Owns `Registry`, which maps the name of a filter to the fragment of a regular expression that stands
for its values, the built-in filters, and the validation of a filter: its name must be an identifier
of the grammar, and its fragment a regular expression that reports exactly one group.
-/

namespace Stencil

/-- Filters: the fragment of each name. -/
structure Registry where
  filters : Std.ExtTreeMap String String

/-- The greatest size of a compiled expression in bytes, unless another limit is set. -/
def defaultSizeLimit : Nat := 10485760

/-- The built-in filters. All but `print` and `all` take one character or more, and as many as
possible; these two take any number of characters, and as few as possible. -/
def builtinFilters : List (String × String) := [
  ("digit", "([0-9]+)"),
  ("alnum", "([0-9A-Za-z]+)"),
  ("alpha", "([A-Za-z]+)"),
  ("xdigit", "([0-9A-Fa-f]+)"),
  ("upper", "([A-Z]+)"),
  ("lower", "([a-z]+)"),
  ("word", "([A-Za-z0-9_]+)"),
  ("space", "([[:space:]]+)"),
  ("blank", "([[:blank:]]+)"),
  ("graph", "([[:graph:]]+)"),
  ("ascii", "([\\x00-\\x7F]+)"),
  ("cntrl", "([[:cntrl:]]+)"),
  ("print", "([[:print:]]*?)"),
  ("punct", "([[:punct:]]+)"),
  ("all", "((?s:.)*?)")
]

/-- The causes for which a fragment is not accepted. -/
inductive FragmentFault where
  | uncompiled (cause : Regex.CompileError)
  | groupCount (found : Nat)
deriving Repr, DecidableEq

/-- The wording of a cause. -/
def FragmentFault.message : FragmentFault → String
  | .uncompiled cause => cause.message
  | .groupCount found => s!"expected exactly one capture group, found {found}"

/-- What is wrong with a fragment: it must compile within the default limit and report one group. A
group that is dropped before another one counts, one that is dropped after it does not. -/
def fragmentFault? [Regex.Measure] (fragment : String) : Option FragmentFault :=
  match Regex.compile fragment defaultSizeLimit with
  | .error cause => some (.uncompiled cause)
  | .ok regex => if regex.groupCount = 1 then none else some (.groupCount regex.groupCount)

namespace Registry

def empty : Registry := ⟨∅⟩

/-- Adds a filter or replaces its fragment, without validation. -/
def register (registry : Registry) (name fragment : String) : Registry :=
  ⟨registry.filters.insert name fragment⟩

/-- Adds filters in their order. -/
def registerAll (registry : Registry) (filters : List (String × String)) : Registry :=
  filters.foldl (fun registry filter => registry.register filter.1 filter.2) registry

def builtin : Registry := empty.registerAll builtinFilters

/-- The fragment of a filter. -/
def get? (registry : Registry) (name : String) : Option String := registry.filters[name]?

/-- Whether a filter is registered. -/
def contains (registry : Registry) (name : String) : Bool := registry.filters.contains name

/-- The names of the filters in ascending order. -/
def names (registry : Registry) : List String := registry.filters.keys

/-- The number of filters. -/
def size (registry : Registry) : Nat := registry.filters.size

/-- The filters in ascending order of their names. -/
def toList (registry : Registry) : List (String × String) := registry.filters.toList

/-- Adds a filter or replaces its fragment, if its name and its fragment are valid. -/
def tryRegister [Regex.Measure] (registry : Registry) (grammar : Grammar) (name fragment : String) :
    Except Error Registry :=
  if !grammar.isIdentifier name then .error (.invalidFilterName name)
  else
    match fragmentFault? fragment with
    | some fault => .error (.invalidFragment name fault.message)
    | none => .ok (registry.register name fragment)

end Registry

end Stencil
