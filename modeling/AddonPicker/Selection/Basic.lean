import AddonPicker.Act
import AddonPicker.Selection.Store

/-!
# The selection

The resources that the user has chosen, one entry per display name, in the order in which they
were added. Pages show marks for what is selected, listeners hear of every change, and both may
fail; what was done before stays done.
-/

namespace AddonPicker

/-- A resource chosen for download. -/
structure Entry where
  pack : Pack
  version : VersionId
  /-- Set for what resolution found rather than the user. -/
  indexed : Value := .bool false
deriving Repr

/-- A page that shows which packs are selected. -/
structure Page where
  id : Value := .null
  title : String := ""
  provider : Provider := .modrinth
  searchTerm : Value := .str ""
  /-- The names that the page shows as selected, each once. -/
  marked : List String := []
  /-- What the page notes when the mark of a name is cleared. -/
  note : String → Option Event := fun _ => none
  /-- The fault with which the page then answers, which may hang on all that happened before. -/
  refusal : List Event → String → Option Fault := fun _ _ => none

namespace Page

/-- Show a name as selected. -/
def mark (name : String) (p : Page) : Page :=
  if p.marked.contains name then p else { p with marked := p.marked ++ [name] }

/-- Show a name as not selected. -/
def unmark (name : String) (p : Page) : Page :=
  { p with marked := p.marked.filter (· != name) }

/-- Marking a name shows it and whatever was shown before. -/
@[simp] theorem mem_marked_mark {name other : String} {p : Page} :
    other ∈ (p.mark name).marked ↔ other ∈ p.marked ∨ other = name := by
  unfold mark
  split
  · rename_i shown
    have marked : name ∈ p.marked := by simpa using shown
    constructor
    · exact Or.inl
    · rintro (before | rfl)
      · exact before
      · exact marked
  · simp

/-- Unmarking a name hides it and nothing else. -/
@[simp] theorem mem_marked_unmark {name other : String} {p : Page} :
    other ∈ (p.unmark name).marked ↔ other ∈ p.marked ∧ other ≠ name := by
  simp [unmark]

end Page

/-- Someone who hears of changes. -/
structure Listener where
  /-- What the listener notes, given whether the selection is empty and its size. -/
  note : Bool → Nat → Option Event
  /-- The fault with which the listener then answers. -/
  refusal : List Event → Bool → Option Fault := fun _ _ => none

/-- The selection with all that takes part in changing it. -/
structure Selection where
  store : Store := {}
  entries : List Entry := []
  pages : List Page := []
  listeners : List Listener := []
  journal : Journal := {}

instance : Journaled Selection where
  journal := Selection.journal
  setJournal j s := { s with journal := j }

namespace Selection

/-- The names of the selected packs. -/
def names (s : Selection) : List String :=
  s.entries.map (·.pack.name)

/-- Whether nothing is selected. -/
def isEmpty (s : Selection) : Bool :=
  s.entries.isEmpty

/-- The entry under a name. -/
def get? (s : Selection) (name : String) : Option Entry :=
  s.entries.find? (·.pack.name == name)

/-- The entry under any value that can be looked up. -/
def lookUp (s : Selection) (name : Value) : Except Fault (Option Entry) :=
  match name with
  | .str name => .ok (s.get? name)
  | v => if v.isHashable then .ok none else .error (.unhashable v.typeName)

/-- The name of the earliest entry whose pack has an id. -/
def nameOf? (s : Selection) (id : Value) : Option String :=
  (s.entries.find? (·.pack.addonId.toValue.agrees id)).map (·.pack.name)

/-- The names of the packs whose ids are given, ids of packs that are not selected being skipped. -/
def requirers (s : Selection) (ids : Value) : Except Fault (List String) :=
  match ids.members? with
  | some ids => .ok (ids.filterMap s.nameOf?)
  | none => .error (.notIterable ids.typeName)

/-- How a message shows an entry. -/
def entryText (s : Selection) (e : Entry) : String :=
  "ResourceDownloadTask(name=" ++ e.pack.name ++ ", file=" ++
    (s.store.value e.version Version.fileNameField).text ++ ", indexed=" ++ e.indexed.text ++ ")"

/-- The folder an entry asks for, or the empty text. -/
def customPath (s : Selection) (e : Entry) : Value :=
  let folder := s.store.value e.version Version.customFolderField
  if folder.isTrue then folder else .str ""

/-- Set whether a version is selected. -/
def flag (id : VersionId) (selected : Bool) : Act Selection Unit :=
  modify fun s => { s with store := s.store.flag id selected }

/-- Clear the mark of a name on the page at a position. -/
def clearPage (name : String) (position : Nat) : Act Selection Unit := do
  match (← get).pages[position]? with
  | none => pure ()
  | some p =>
    if let some e := p.note name then
      Journaled.note e
    Act.failOn (p.refusal (← get).journal.events name)
    modify fun s => { s with pages := s.pages.modify position (·.unmark name) }

/-- Clear the mark of a name on every page. -/
def clearMarks (name : String) : Act Selection Unit := do
  (List.range (← get).pages.length).forM (clearPage name)

/-- Tell every listener that the selection changed. -/
def notify : Act Selection Unit := do
  let s ← get
  s.listeners.forM fun l => do
    if let some e := l.note s.isEmpty s.entries.length then
      Journaled.note e
    Act.failOn (l.refusal (← get).journal.events s.isEmpty)

/-- Drop the entry of a pack. The given version is unselected in any case, and so are the marks
of the name and the version that was selected. -/
def remove (pack : Pack) (version : VersionId) : Act Selection Unit := do
  clearMarks pack.name
  flag version false
  if let some previous := (← get).get? pack.name then
    modify fun s => { s with entries := s.entries.filter (·.pack.name != pack.name) }
    flag previous.version false
    Journaled.say .debug ("Deselected " ++ pack.name)
  notify

/-- Select a version of a pack, replacing any version of it selected before. -/
def add (pack : Pack) (version : VersionId) (indexed : Value) : Act Selection Entry := do
  remove pack version
  flag version true
  let entry : Entry := { pack, version, indexed }
  modify fun s => { s with entries := s.entries ++ [entry] }
  let file := ((← get).store.value version Version.fileNameField).text
  Journaled.say .debug
    ("Selected " ++ pack.name ++ " (" ++ file ++ ", indexed=" ++ indexed.text ++ ")")
  notify
  return entry

/-- Drop the entry under a name, if there is one. -/
def removeByName (name : Value) : Act Selection Unit := do
  if let some e := ← Act.check ((← get).lookUp name) then
    remove e.pack e.version

/-- Mark a name on the page at a position. -/
def markPage (position : Nat) (name : String) : Act Selection Unit :=
  modify fun s => { s with pages := s.pages.modify position (·.mark name) }

end Selection

end AddonPicker
