import AddonPicker.Act
import AddonPicker.Rehearsal.Pool
import AddonPicker.Selection.Basic

/-!
# Reports of a rehearsal

What happened in a rehearsed session, as plain values.
-/

namespace AddonPicker

/-- A text that may be absent. -/
def Value.ofText? (s : Option String) : Value :=
  (s.map .str).getD .null

/-- A position that may be absent. -/
def Value.ofPosition? (n : Option Nat) : Value :=
  (n.map fun n => .int n).getD .null

/-- A count. -/
def Value.ofNat (n : Nat) : Value :=
  .int n

/-- The report of a row. -/
def ReviewRow.report (r : ReviewRow) : Value :=
  .dict [("name", r.name), ("filename", r.fileName), ("custom_path", r.customPath),
    ("provider", r.provider), ("required_by", r.requiredBy), ("enabled", r.enabled)]

/-- The report of the rows of a box. -/
def ReviewBox.reportRows (b : ReviewBox) : Value :=
  .list (b.rows.map ReviewRow.report)

/-- The report of a box. -/
def ReviewBox.report (b : ReviewBox) : Value :=
  .dict [("title", b.title), ("resources_string", b.resources), ("rows", b.reportRows)]

/-- Bytes in hexadecimal. -/
def bytesText (bytes : List UInt8) : String :=
  String.ofList (bytes.flatMap fun b => Text.hexDigits 2 b.toNat)

/-- The report of a call of the user interface. -/
def UiCall.report : UiCall → Value
  | .showError title message => .strings ["show_error", title, message]
  | .showWarnings title message => .strings ["show_warnings", title, message]
  | .setConfirmEnabled enabled => .list [.str "set_confirm_enabled", .bool enabled]
  | .setWindowTitle title => .strings ["set_window_title", title]
  | .accept => .strings ["accept"]
  | .reject => .strings ["reject"]
  | .saveGeometry => .strings ["save_geometry"]
  | .restoreGeometry bytes => .strings ["restore_geometry", bytesText bytes]
  | .execReview box => .list [.str "exec_review", box.title, box.resources, box.reportRows]

/-- The report of an event. -/
def Event.report : Event → Value
  | .cleared page name => .list [.str "clear", page, .str name]
  | .changed listener empty size => .list [.str "changed", listener, .bool empty, .ofNat size]
  | .switched listener previous selected current =>
    .list [listener, .ofNat previous, .ofNat selected, .ofPosition? current]
  | .ui call => call.report
  | .surfaceShown title skippable label =>
    .list [.str "progress", .str title, .bool skippable, .str label]
  | .surfaceAborted result => .list [.str "abort", .bool result]
  | .surfaceClosed result => .list [.str "progress_result", .bool result]
  | .announced handler notice state count warnings =>
    .list [handler, .str notice.occasion.word, .strings notice.reason?.toList, .str state.word,
      .ofNat count, .strings warnings]
  | .handlerAborted handler result => .list [handler, .str "aborted", .bool result]

/-- The report of a lookup. -/
def Lookup.report : Lookup → Value
  | .pack p id => .list [.str p.id, .str "project", id.toValue]
  | .version p id pin target =>
    .list [.str p.id, .str "version", id.toValue, .ofText? pin, .str target]

/-- The report of a log record. -/
def LogRecord.report (r : LogRecord) : Value :=
  .strings [Level.name r.level, r.message]

namespace Journal

def reportEvents (j : Journal) : Value := .list (j.events.map Event.report)
def reportLookups (j : Journal) : Value := .list (j.lookups.map Lookup.report)
def reportLog (j : Journal) : Value := .list (j.log.map LogRecord.report)

end Journal

namespace Rehearsal.Pool

/-- The report of the versions of the pool: whether each is selected, and what requires it. -/
def reportVersions (p : Pool) (s : Store) : Value :=
  .dict (p.versions.mapIdx fun id v =>
    (v.1, .list [s.value id Version.isSelectedField, s.value id Version.requiredByField]))

/-- The report of an entry. -/
def reportEntry (p : Pool) (s : Selection) (e : Entry) : Value :=
  .dict [("name", .str e.pack.name), ("filename", s.store.value e.version Version.fileNameField),
    ("custom_path", s.customPath e), ("provider", .str e.pack.provider.id),
    ("addon_id", e.pack.addonId.toValue), ("indexed", e.indexed),
    ("ref", .ofText? (p.ref? e.version)),
    ("selected", s.store.value e.version Version.isSelectedField),
    ("required_by", s.store.value e.version Version.requiredByField)]

/-- The report of the entries of a selection. -/
def reportEntries (p : Pool) (s : Selection) : Value :=
  .list (s.entries.map (p.reportEntry s))

end Rehearsal.Pool

end AddonPicker
