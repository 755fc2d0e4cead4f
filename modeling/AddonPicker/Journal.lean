import AddonPicker.Log.Line
import AddonPicker.Resolution.Run
import AddonPicker.Review.Box

/-!
# The journal

What collaborators of a session see, in order: calls of the user interface, notes of pages,
listeners, progress surfaces and handlers, lookups in catalogues, and log records. The journal
only grows.
-/

namespace AddonPicker

/-- A call of the user interface. -/
inductive UiCall
  | showError (title message : String)
  | showWarnings (title message : String)
  | setConfirmEnabled (enabled : Bool)
  | setWindowTitle (title : String)
  | accept
  | reject
  | saveGeometry
  | restoreGeometry (bytes : List UInt8)
  | execReview (box : ReviewBox)
deriving Repr

/-- The operation that a call of the user interface is a call of. -/
inductive UiMethod
  | showError
  | showWarnings
  | setConfirmEnabled
  | setWindowTitle
  | accept
  | reject
  | saveGeometry
  | restoreGeometry
  | execReview
deriving DecidableEq, Repr

/-- The operation of a call. -/
def UiCall.method : UiCall → UiMethod
  | .showError .. => .showError
  | .showWarnings .. => .showWarnings
  | .setConfirmEnabled _ => .setConfirmEnabled
  | .setWindowTitle _ => .setWindowTitle
  | .accept => .accept
  | .reject => .reject
  | .saveGeometry => .saveGeometry
  | .restoreGeometry _ => .restoreGeometry
  | .execReview _ => .execReview

/-- Something that a collaborator sees. -/
inductive Event
  /-- A page cleared its mark for a name. -/
  | cleared (page : Value) (name : String)
  /-- A listener heard that the selection changed. -/
  | changed (listener : Value) (empty : Bool) (size : Nat)
  /-- A listener heard that another page is shown; pages are given by position. -/
  | switched (listener : Value) (previous selected : Nat) (current : Option Nat)
  | ui (call : UiCall)
  /-- A progress surface came up. -/
  | surfaceShown (title : String) (skippable : Bool) (label : String)
  /-- A progress surface asked for an abort. -/
  | surfaceAborted (result : Bool)
  /-- A progress surface went away with a result. -/
  | surfaceClosed (result : Bool)
  /-- A handler was called, and saw the run as given. -/
  | announced (handler : Value) (notice : Notice) (state : RunState) (count : Nat)
      (warnings : List String)
  /-- A handler asked for an abort. -/
  | handlerAborted (handler : Value) (result : Bool)
deriving Repr

/-- A lookup in a catalogue. -/
inductive Lookup
  | pack (provider : Provider) (id : AddonId)
  | version (provider : Provider) (id : AddonId) (pin : Option String) (target : String)
deriving Repr

/-- A log record that was emitted. -/
structure LogRecord where
  level : Level
  message : String
deriving DecidableEq, Repr

/-- Everything seen so far. -/
structure Journal where
  threshold : Level := .info
  events : List Event := []
  lookups : List Lookup := []
  log : List LogRecord := []
deriving Repr

namespace Journal

/-- Note an event. -/
def note (e : Event) (j : Journal) : Journal :=
  { j with events := j.events ++ [e] }

/-- Note a lookup. -/
def noteLookup (l : Lookup) (j : Journal) : Journal :=
  { j with lookups := j.lookups ++ [l] }

/-- Log a message, unless its level is below the threshold. -/
def write (level : Level) (message : String) (j : Journal) : Journal :=
  if level.reaches j.threshold then
    { j with log := j.log ++ [⟨level, LogLine.clean message⟩] }
  else j

/-- What a journal has beyond an earlier state of it. -/
def since (earlier j : Journal) : Journal :=
  { j with
    events := j.events.drop earlier.events.length
    lookups := j.lookups.drop earlier.lookups.length
    log := j.log.drop earlier.log.length }

end Journal

end AddonPicker
