import AddonPicker.Base64
import AddonPicker.Config.Basic
import AddonPicker.Dialog.Ui
import AddonPicker.Pages.Container
import AddonPicker.Resolution.Host
import AddonPicker.Review.Build
import AddonPicker.Target

/-!
# Dialog sessions

A download dialog with everything it owns: the selection, the pages that show it, the settings it
keeps the window geometry in, the resolution runs it made, and the confirmations under way. The
operations here are those that finish at once; `Dialog.Confirmation` holds the workflow that waits
in between.
-/

namespace AddonPicker

/-- The types of dialogs. -/
inductive DialogType
  | plain
  | mods
  | resourcePacks
  | texturePacks
  | shaderPacks
deriving DecidableEq, Repr, Inhabited

namespace DialogType

/-- Every type of dialog. -/
def all : List DialogType := [.plain, .mods, .resourcePacks, .texturePacks, .shaderPacks]

/-- The name of a type of dialog. -/
def title : DialogType → String
  | .plain => "ResourceDownloadDialog"
  | .mods => "ModDownloadDialog"
  | .resourcePacks => "ResourcePackDownloadDialog"
  | .texturePacks => "TexturePackDownloadDialog"
  | .shaderPacks => "ShaderPackDownloadDialog"

/-- The type of dialog with a name. -/
def ofTitle? (s : String) : Option DialogType :=
  all.find? (·.title == s)

/-- The kind of resource that a dialog is for. -/
def kind : DialogType → ResourceKind
  | .plain => .mods
  | .mods => .mods
  | .resourcePacks => .resourcePacks
  | .texturePacks => .texturePacks
  | .shaderPacks => .shaderPacks

/-- The dialog for a kind of resource. -/
def ofKind : ResourceKind → DialogType
  | .mods => .mods
  | .resourcePacks => .resourcePacks
  | .texturePacks => .texturePacks
  | .shaderPacks => .shaderPacks

/-- Whether a dialog resolves dependencies at all. -/
def resolves : DialogType → Bool
  | .mods => true
  | _ => false

/-- The providers that a dialog has pages for. Shader packs come from one catalogue only; the
second catalogue can be switched off for all others. -/
def providers (flameEnabled : Bool) : DialogType → List Provider
  | .shaderPacks => [.modrinth]
  | _ => if flameEnabled then [.modrinth, .curseForge] else [.modrinth]

end DialogType

/-- The handlers that a dialog registers with its runs. -/
inductive DialogHandler
  | showError
  | showWarnings
deriving DecidableEq, Repr

/-- What a confirmation inside a progress surface waits for. -/
inductive SurfaceWait
  | quiet
  | runEnd
deriving DecidableEq, Repr

/-- How a confirmation ended. -/
inductive Verdict
  | returned (accepted : Bool)
  | cancelled
  | failed (fault : Fault)
deriving DecidableEq, Repr

/-- Where a confirmation stands. Runs are given by position. -/
inductive Stage
  | scheduled
  /-- Inside the progress surface, with the moves still to come. -/
  | surface (run : Nat) (wait : SurfaceWait) (later : List SurfaceMove)
  /-- Cancelled inside the surface, waiting for the aborted run to end. -/
  | abandoning (run : Nat)
  /-- The surface went away early; waiting for the aborted run to end. -/
  | settling (run : Nat)
  | reviewing (box : ReviewBox) (plan : ReviewPlan)
  | ended (verdict : Verdict)
deriving Repr

/-- One request to confirm the selection. -/
structure Confirmation where
  stage : Stage := .scheduled
  /-- A cancellation has been asked for and has not reached the confirmation yet. -/
  cancelling : Bool := false
deriving Repr

/-- A dialog with its collaborators. -/
structure Session where
  type : DialogType
  target : Target
  config : Config
  naming : Naming
  /-- The reference of problems that faults of records point to. -/
  reference : String := ""
  /-- The providers that a catalogue service is there for. -/
  served : List Provider
  settings : List (Value × Value)
  ui : Ui
  surface : Surface
  /-- What the user does in the review that is opened as the one with a number. -/
  reviewPlan : Nat → ReviewPlan
  selection : Selection
  container : Container := ⟨[], none⟩
  /-- The position of the page that the dialog takes for the selected one. -/
  shown : Option Nat := none
  runs : List (Run DialogHandler) := []
  reviews : Nat := 0
  confirmations : List Confirmation := []
  /-- Whether a confirmation is between its start and its end. -/
  confirming : Bool := false

instance : Journaled Session where
  journal s := s.selection.journal
  setJournal j s := { s with selection := { s.selection with journal := j } }

/-- A page as an event about pages names it: one of the dialog's own, or a foreign one. -/
inductive PageRef
  | own (position : Nat)
  | foreign (id name : Value)
deriving Repr

namespace Session

/-- Act on the selection. -/
def onSelection {α : Type} (a : Act Selection α) : Act Session α :=
  Act.onPart Session.selection (fun sel s => { s with selection := sel }) a

/-- Call the user interface. -/
def callUi (c : UiCall) : Act Session Unit := do
  (← get).ui.call c

/-- Call a handler of a run: failures are shown as errors and the warnings of a success are shown
together, if there are any. -/
def invoke (i : Nat) : DialogHandler → Notice → Act Session Unit
  | .showError, n => callUi (.showError "Error" (n.reason?.getD ""))
  | .showWarnings, _ => do
    let warnings := match (← get).runs[i]? with
      | some r => r.warnings
      | none => []
    if !warnings.isEmpty then
      callUi (.showWarnings "Warnings" ("\n".intercalate warnings))

instance : Owner Session DialogHandler where
  runs := Session.runs
  setRuns rs s := { s with runs := rs }

instance : Host Session DialogHandler where
  invoke := invoke
  handlerText _ := "<handler>"

/-- The settings key of the window geometry. -/
def geometryKey (s : Session) : Value :=
  s.config.geometryKeyFor s.type.kind

/-- The setting under a key. -/
def setting? (s : Session) (key : Value) : Option Value :=
  (s.settings.find? (·.1.isSameMember key)).map (·.2)

/-- Keep a setting. A known key keeps its place. -/
def keepSetting (key v : Value) (s : Session) : Session :=
  { s with settings :=
      if (s.setting? key).isSome then
        s.settings.map fun kv => if kv.1.isSameMember key then (kv.1, v) else kv
      else s.settings ++ [(key, v)] }

/-- Keep the geometry of the window. -/
def saveGeometry : Act Session Unit := do
  let key := (← get).geometryKey
  if key.isTrue then
    let bytes ← (← get).ui.saveGeometry
    if !key.isHashable then throw (.unhashable key.typeName)
    modify (keepSetting key (.str (String.ofList (Base64.encode bytes))))

/-- The bytes of a kept geometry. -/
def decodeGeometry : Value → Except Fault (List UInt8)
  | .str s => Base64.decode s
  | v => .error (.notText v.typeName)

/-- Give the window the geometry that was kept for it. -/
def restoreGeometry : Act Session Unit := do
  let s ← get
  let key := s.geometryKey
  if key.isTrue then
    if !key.isHashable then throw (.unhashable key.typeName)
    if let some v := s.setting? key then
      callUi (.restoreGeometry (← Act.check (decodeGeometry v)))

/-- Close the dialog with the selection accepted. -/
def accept : Act Session Unit := do
  saveGeometry
  callUi .accept

/-- Close the dialog without a selection. -/
def reject : Act Session Unit := do
  saveGeometry
  callUi .reject

/-- The page for a provider. -/
def makePage (s : Session) (p : Provider) : Except Fault Page := do
  let id ← s.naming.id p
  let readable ← s.naming.readable p
  return { id, provider := p, title := readable.text ++ " " ++ s.type.kind.plural }

/-- Make the pages and select the first one. -/
def openPages : Act Session Unit := do
  let s ← get
  let pages ← (s.type.providers s.config.flameEnabled.isTrue).mapM fun p => Act.check (s.makePage p)
  let container := Container.ofIds (pages.map (·.id))
  modify fun s => { s with
    selection := { s.selection with pages }
    container
    shown := container.selected }

/-- The confirm button follows the selection. -/
def confirmListener (ui : Ui) : Listener where
  note empty _ :=
    if ui.omits .setConfirmEnabled then none else some (.ui (.setConfirmEnabled !empty))
  refusal events empty :=
    if ui.omits .setConfirmEnabled then none else ui.refusal events (.setConfirmEnabled !empty)

/-- Bring up the dialog. -/
def openDialog : Act Session Unit := do
  let s ← get
  onSelection (modify fun sel => { sel with listeners := sel.listeners ++ [confirmListener s.ui] })
  callUi (.setConfirmEnabled false)
  callUi (.setWindowTitle s.type.kind.dialogTitle)
  openPages
  restoreGeometry

/-- The type of dialog for a kind of resource, which has to be what the target is a folder of. -/
def typeFor (kind : ResourceKind) (target : Target) : Except Fault DialogType :=
  if target.type.kind = kind then .ok (.ofKind kind)
  else .error (.wrongFolder kind.plural target.type.kind.word)

/-- Select a version of a pack. -/
def add (pack : Pack) (version : VersionId) (indexed : Value) : Act Session Entry :=
  onSelection (Selection.add pack version indexed)

/-- Deselect a pack. -/
def remove (pack : Pack) (version : VersionId) : Act Session Unit :=
  onSelection (Selection.remove pack version)

/-- Select a version of a pack on a page, which marks it. -/
def pick (page : Nat) (pack : Pack) (version : VersionId) : Act Session Unit := do
  let _ ← add pack version (.bool false)
  onSelection (Selection.markPage page pack.name)

/-- Clear the mark of a name on one page. -/
def unmark (page : Nat) (name : Value) : Act Session Unit :=
  match name with
  | .str name => onSelection (Selection.clearPage name page)
  | v => if v.isHashable then pure () else throw (.unhashable v.typeName)

/-- Set the search term of a page. -/
def search (page : Nat) (term : Value) : Act Session Unit :=
  onSelection <| modify fun sel =>
    { sel with pages := sel.pages.modify page fun p => { p with searchTerm := term } }

/-- Set the search term of the selected page. -/
def searchShown (term : Value) : Act Session Unit := do
  if let some page := (← get).shown then
    search page term

/-- Note that a page which does not browse a catalogue took part in a switch. -/
def sayForeign (name : Value) : Act Session Unit := do
  Journaled.say .error
    ("Page '" ++ name.text ++ "' in " ++ (← get).type.title ++ " is not a ResourcePage!")

/-- Follow a switch of pages: the selected page takes over the search term of the one before, as
if there were one search bar. Pages of other kinds are only noted. -/
def pageChanged (previous selected : PageRef) : Act Session Unit := do
  match previous, selected with
  | .foreign _ name, _ => sayForeign name
  | .own _, .foreign _ name => sayForeign name
  | .own i, .own j =>
    modify fun s => { s with shown := some j }
    if let some p := (← get).selection.pages[i]? then
      search j p.searchTerm

/-- Select the first page with an id. The result says whether there is one. -/
def selectPage (id : Value) : Act Session Bool := do
  let (switch, container) := (← get).container.select id
  modify fun s => { s with container }
  match switch with
  | .unknown => return false
  | .unchanged => return true
  | .switched previous selected =>
    pageChanged (.own previous) (.own selected)
    return true

/-- The selected choices, with the versions that the selection holds. -/
def choices (s : Session) : List Choice :=
  s.selection.entries.filterMap fun e =>
    (s.selection.store.get? e.version).map fun v =>
      { pack := e.pack, version := v.base, shared := some e.version }

/-- What a resolution run has to know. -/
def scope (s : Session) : Scope where
  isInstalled := s.target.isInstalled
  serves p := s.served.contains p
  naming := s.naming
  reference := s.reference

/-- A run over the selection, if this dialog checks dependencies. -/
def newRun? (s : Session) : Option (Run DialogHandler) :=
  if s.type.resolves && s.config.checkDependencies.isTrue && s.target.type.tracksDependencies then
    some { selected := s.choices, scope := s.scope, timeout := s.config.resolutionTimeout }
  else none

end Session

end AddonPicker
