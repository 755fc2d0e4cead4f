import AddonPicker.Catalog.Issue
import AddonPicker.Value.Basic

/-!
# Faults

Everything that can go wrong, as causes. A cause has one wording, `Fault.message`; where a report
needs a text that is never empty it takes `Fault.reason`.

Faults that a collaborator raises (a catalogue service, a user interface, a listener) carry the
collaborator's own words.
-/

namespace AddonPicker

/-- The causes of failure. -/
inductive Fault
  /-- A value was gone through that has no members. -/
  | notIterable (type : String)
  /-- A value that can change was used as a key or a member of a set. -/
  | unhashable (type : String)
  /-- A value that is no number was compared with a number. -/
  | unordered (type : String)
  /-- A value does not have the attribute that was read. -/
  | lacksAttribute (type name : String)
  /-- A whole number is too large to be a time span. -/
  | hugeTimeSpan
  /-- A key is not in a table; the key is given in its quoted form. -/
  | missingKey (key : String)
  /-- The entry of a naming table is too short. -/
  | shortEntry
  /-- A text names no catalogue provider. -/
  | unknownProvider (name : String)
  /-- An attribute was given by something that is no name. -/
  | notName (type : String)
  /-- A record without extras has no field of that name. -/
  | noField (record field : String)
  /-- An attribute that a record computes was set. -/
  | noSetter (record name : String)
  /-- An attribute that the type of a record holds was set. -/
  | heldByType (record name : String)
  /-- An attribute that a record holds for good was set. -/
  | notWritable (record name : String)
  /-- The attributes of a record were to be replaced by something that is no table. -/
  | notAttributes (type : String)
  /-- The type of a record was to be replaced by something that is no type. -/
  | notType (type : String)
  /-- A value was called that is no operation. -/
  | notCallable (type : String)
  /-- A record failed validation. -/
  | invalid (issues : List Issue)
  /-- A record was put together from a part that does not fit, which is given as it is shown. The
  reference of problems is the one that the library of records names. -/
  | unfitPart (reference record : String) (issue : Issue) (shown type : String)
  /-- A configured resource kind is not one of the four; the value is given as it is shown. -/
  | unsupportedKind (shown : String)
  /-- A whole number has too many digits to be read, and how many. -/
  | longNumeral (digits : Nat)
  /-- A whole number has too many digits to be shown. -/
  | longNumber
  /-- A configured timeout is zero or less. -/
  | timeoutNotPositive
  /-- A configuration file cannot be opened or is not well formed. -/
  | unreadableConfig
  /-- A configuration file is not UTF-8. -/
  | notUtf8
  /-- The download section of a configuration file is no table. -/
  | sectionNotTable
  /-- A dialog was asked for whose folder holds another kind of resource. -/
  | wrongFolder (wanted held : String)
  /-- A stored geometry has a character outside ASCII. -/
  | notAscii
  /-- A stored geometry is no text. -/
  | notText (type : String)
  /-- Base64 data ends inside a group of four. -/
  | incompletePadding
  /-- Base64 data has one character too many; the count of its characters is given. -/
  | strayCharacter (count : Nat)
  /-- A log record was given a level that is no whole number. -/
  | levelNotInteger
  /-- A resolution run was started twice. -/
  | alreadyStarted
  /-- A resolution run was waited for before it was started. -/
  | notStarted
  /-- No catalogue service is there for a provider, which is given by its readable name. -/
  | noService (provider : String)
  /-- A catalogue lookup failed. -/
  | lookupFailed (message : String)
  /-- A catalogue service does not offer the lookup. -/
  | unimplemented
  /-- A collaborator gave up waiting. -/
  | timedOut (message : String)
  /-- The work was cancelled. -/
  | cancelled
  /-- A collaborator raised a fault of its own. -/
  | raised (kind message : String)
deriving DecidableEq, Repr, Inhabited

namespace Fault

/-- What is said of a whole number that has too many digits. -/
def digitsExceeded : String :=
  "Exceeds the limit (" ++ toString Value.maxDigits ++ " digits) for integer string conversion"

/-- What is advised against it. -/
def digitsRemedy : String :=
  "; use sys.set_int_max_str_digits() to increase the limit"

/-- The wording of a fault. -/
def message : Fault → String
  | .notIterable type => "'" ++ type ++ "' object is not iterable"
  | .unhashable type => "unhashable type: '" ++ type ++ "'"
  | .unordered type => "'<=' not supported between instances of '" ++ type ++ "' and 'int'"
  | .lacksAttribute type name => "'" ++ type ++ "' object has no attribute '" ++ name ++ "'"
  | .hugeTimeSpan => "int too large to convert to float"
  | .missingKey key => key
  | .shortEntry => "tuple index out of range"
  | .unknownProvider name => name ++ " is not a valid ResourceProvider"
  | .notName type => "attribute name must be string, not '" ++ type ++ "'"
  | .noField record field => "\"" ++ record ++ "\" object has no field \"" ++ field ++ "\""
  | .noSetter record name => "property '" ++ name ++ "' of '" ++ record ++
      "' object has no setter"
  | .heldByType record name => "'" ++ name ++ "' is a ClassVar of `" ++ record ++
      "` and cannot be set on an instance. If you want to set a value on the class, use `" ++
      record ++ "." ++ name ++ " = value`."
  | .notWritable record name => "attribute '" ++ name ++ "' of '" ++ record ++
      "' objects is not writable"
  | .notAttributes type => "__dict__ must be set to a dictionary, not a '" ++ type ++ "'"
  | .notType type => "__class__ must be set to a class, not '" ++ type ++ "' object"
  | .notCallable type => "'" ++ type ++ "' object is not callable"
  | .invalid issues => "; ".intercalate (issues.map Issue.message)
  | .unfitPart reference record issue shown type => issue.report reference record shown type
  | .unsupportedKind shown => "Unsupported resource kind: " ++ shown
  | .longNumeral digits => digitsExceeded ++ ": value has " ++ toString digits ++ " digits" ++
      digitsRemedy
  | .longNumber => digitsExceeded ++ digitsRemedy
  | .timeoutNotPositive => "'resolution_timeout' must be a positive number of seconds"
  | .unreadableConfig => "Failed to load download configuration from <path>"
  | .notUtf8 => ""
  | .sectionNotTable => "'download' must be a table"
  | .wrongFolder wanted held => "Cannot download " ++ wanted ++ " into a " ++ held ++ " folder"
  | .notAscii => "string argument should contain only ASCII characters"
  | .notText type => "argument should be a bytes-like object or ASCII string, not '" ++ type ++ "'"
  | .incompletePadding => "Incorrect padding"
  | .strayCharacter count => "Invalid base64-encoded string: number of data characters (" ++
      toString count ++ ") cannot be 1 more than a multiple of 4"
  | .levelNotInteger => "level must be an integer"
  | .alreadyStarted => "Dependency resolution task can only be started once"
  | .notStarted => "Dependency resolution task was not started"
  | .noService provider => "No API available to resolve dependencies on " ++ provider
  | .lookupFailed message => message
  | .unimplemented => ""
  | .timedOut message => message
  | .cancelled => ""
  | .raised _ message => message

/-- What a report calls a fault that has no words. -/
def title : Fault → String
  | .notIterable _ | .unhashable _ | .unordered _ | .notName _ | .notAttributes _ | .notType _
  | .notCallable _ | .notText _ | .levelNotInteger => "TypeError"
  | .lacksAttribute .. | .noSetter .. | .heldByType .. | .notWritable .. => "AttributeError"
  | .hugeTimeSpan => "OverflowError"
  | .missingKey _ => "KeyError"
  | .shortEntry => "IndexError"
  | .unknownProvider _ | .noField .. | .longNumeral _ | .longNumber | .notAscii => "ValueError"
  | .invalid _ | .unfitPart .. => "ValidationError"
  | .unsupportedKind _ | .timeoutNotPositive | .unreadableConfig | .sectionNotTable
  | .wrongFolder .. => "ConfigurationError"
  | .notUtf8 => "UnicodeDecodeError"
  | .incompletePadding | .strayCharacter _ => "Error"
  | .alreadyStarted | .notStarted | .noService _ => "ResourceDownloadException"
  | .lookupFailed _ => "ResourceAPIError"
  | .unimplemented => "NotImplementedError"
  | .timedOut _ => "TimeoutError"
  | .cancelled => "CancelledError"
  | .raised kind _ => kind

/-- The words of a fault, or its title if it has none. -/
def reason (f : Fault) : String :=
  if f.message.isEmpty then f.title else f.message

/-- What a lookup fails with. A service that gave up waiting has failed like any other, so that it
is not taken for a deadline that passed. -/
def ofLookup : Fault → Fault
  | .timedOut message => .lookupFailed (timedOut message).reason
  | f => f

end Fault

end AddonPicker
