import Stencil.CharSet

/-!
Named sets of characters.

Owns `NamedTable`, a list of entries with the spellings of a name and the table form of a set, and
`ClassTable`, in which the sets are given themselves. Spellings are written without separators and in
lower case, the form in which names are looked up.
-/

namespace Stencil.Unicode

/-- Sets under the spellings of their names, in table form. -/
abbrev NamedTable := List (String × String)

def isNameOf (name : String) (entry : String × String) : Bool :=
  (entry.1.splitOn " ").contains name

def NamedTable.find? (table : NamedTable) (name : String) : Option CharSet :=
  (List.find? (isNameOf name) table).map fun entry => CharSet.ofTable entry.2

/-- The set that a table holds under a name, without members if there is none. -/
def NamedTable.get (table : NamedTable) (name : String) : CharSet :=
  (table.find? name).getD CharSet.empty

/-- Sets under the spellings of their names. -/
abbrev ClassTable := List (List String × CharSet)

def ClassTable.find? (table : ClassTable) (name : String) : Option CharSet :=
  (List.find? (fun entry => entry.1.contains name) table).map Prod.snd

end Stencil.Unicode
