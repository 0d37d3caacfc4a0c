/-!
The errors of the library.

Owns `Error`, the causes for which a strict operation fails, and their wording. The operations that
are not strict turn each of them into the absence of a match.
-/

namespace Stencil

/-- The causes for which a file cannot be read. -/
inductive FileFault where
  | notFound
  | notUtf8
  | other (text : String)
deriving Repr, DecidableEq

/-- The wording of a cause. -/
def FileFault.message : FileFault → String
  | .notFound => "No such file or directory"
  | .notUtf8 => "stream did not contain valid UTF-8"
  | .other text => text

inductive Format where
  | yaml
  | json
deriving Repr, DecidableEq

/-- The causes for which a strict operation fails. -/
inductive Error where
  /-- A pattern names a filter that is not registered. -/
  | unknownFilter (name : String)
  /-- A filter cannot have this name. -/
  | invalidFilterName (name : String)
  /-- A filter cannot have this fragment. -/
  | invalidFragment (name reason : String)
  /-- The fragments of a pattern do not make up a regular expression within the size limit. -/
  | invalidPattern (pattern reason : String)
  | inputTooLong (length limit : Nat)
  | invalidConfig (reason : String)
  | unreadable (fault : FileFault)
  /-- A text is not a configuration in the given format. -/
  | malformed (format : Format)
deriving Repr, DecidableEq

namespace Error

def message : Error → String
  | .unknownFilter name => s!"Unknown filter: {name}"
  | .invalidFilterName name => s!"Invalid filter name: {name}"
  | .invalidFragment name reason => s!"Invalid fragment for filter '{name}': {reason}"
  | .invalidPattern pattern reason => s!"Invalid pattern '{pattern}': {reason}"
  | .inputTooLong length limit => s!"Input too long: {length} bytes exceeds limit of {limit}"
  | .invalidConfig reason => s!"Invalid configuration: {reason}"
  | .unreadable fault => s!"IO error: {fault.message}"
  | .malformed .yaml => "YAML parsing error"
  | .malformed .json => "JSON parsing error"

/-- The wording of the cause behind an error, if it is not the error's own. -/
def source? : Error → Option String
  | .unreadable fault => some fault.message
  | _ => none

end Error

end Stencil
