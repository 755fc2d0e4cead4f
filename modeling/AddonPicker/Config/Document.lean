import AddonPicker.Config.Basic
import AddonPicker.Text.Utf8
import AddonPicker.Toml.Document

/-!
# Configuration files

A configuration file is a document in UTF-8 whose section `download` holds the configuration. A
file without that section, an empty one for instance, means the defaults. The octets are checked to
be text before anything of the document is.

What a file comes to does not hang on the caller here. Where documents are read on a stack of limited
depth, a file with some five hundred arrays within each other fails to be read with a fault of the
stack, sooner or later as the caller has used more or less of it. That limit is left out.
-/

namespace AddonPicker.Config

/-- The section of a configuration file. -/
def sectionKey : String := "download"

/-- The configuration that a document holds. -/
def ofDocument (fields : List (String × Value)) : Except Fault Config :=
  match Value.lookup sectionKey fields with
  | none => ofFields []
  | some (.dict settings) => ofFields settings
  | some _ => .error .sectionNotTable

/-- The configuration in a file, given by its octets, or by nothing if it cannot be opened. -/
def ofFile : Option (List UInt8) → Except Fault Config
  | none => .error .unreadableConfig
  | some octets =>
    match Utf8.decode? octets with
    | none => .error .notUtf8
    | some text =>
      match Toml.read text with
      | .error .malformed => .error .unreadableConfig
      | .error (.longNumeral digits) => .error (.longNumeral digits)
      | .ok fields => ofDocument fields

end AddonPicker.Config
