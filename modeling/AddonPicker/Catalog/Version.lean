import AddonPicker.Catalog.Dependency

/-!
# Versions

One downloadable file of a pack. Besides what the catalogue says about it, a version records
whether it is selected now, and the packs whose resolution pulled it in; the latter list is empty
while the user alone picked it.

Versions are shared: the user's selection, the catalogues and a resolution run can all hold the
same one, and a change that one of them makes shows for all.
-/

namespace AddonPicker

/-- A version of a pack. -/
structure Version where
  addonId : AddonId
  fileId : AddonId
  label : String := ""
  fileName : String
  downloadUrl : Option String := none
  gameVersions : List String := []
  loaders : List String := []
  dependencies : List Dependency := []
  requiredBy : List AddonId := []
  customFolder : Option String := none
  isSelected : Bool := false
  extras : Fields := []
deriving Repr, Inhabited

namespace Version

def addonIdField : Field := ⟨"addonId", "addon_id"⟩
def fileIdField : Field := ⟨"fileId", "file_id"⟩
def labelField : Field := .plain "version"
def fileNameField : Field := ⟨"fileName", "file_name"⟩
def downloadUrlField : Field := ⟨"downloadUrl", "download_url"⟩
def gameVersionsField : Field := ⟨"gameVersions", "game_versions"⟩
def loadersField : Field := .plain "loaders"
def dependenciesField : Field := .plain "dependencies"
def requiredByField : Field := ⟨"requiredBy", "required_by"⟩
def customFolderField : Field := ⟨"customTargetFolder", "custom_target_folder"⟩
def isSelectedField : Field := ⟨"isCurrentlySelected", "is_currently_selected"⟩

/-- The declared fields, in order. -/
def fields : List Field :=
  [addonIdField, fileIdField, labelField, fileNameField, downloadUrlField, gameVersionsField,
    loadersField, dependenciesField, requiredByField, customFolderField, isSelectedField]

/-- The name of the operation that yields the required dependencies. -/
def requiredName : String := "required_dependencies"

/-- Read a version. -/
def ofFields (data : Fields) : Checked Version :=
  (Checked.valid Version.mk).ap (addonIdField.required Read.addonId data)
    |>.ap (fileIdField.required Read.addonId data)
    |>.ap (labelField.withDefault "" Read.text data)
    |>.ap (fileNameField.required Read.text data)
    |>.ap (downloadUrlField.withDefault none (Read.optional Read.text) data)
    |>.ap (gameVersionsField.withDefault [] (Read.list Read.text) data)
    |>.ap (loadersField.withDefault [] (Read.list Read.text) data)
    |>.ap (dependenciesField.withDefault [] (Read.list Record.read) data)
    |>.ap (requiredByField.withDefault [] (Read.list Read.addonId) data)
    |>.ap (customFolderField.withDefault none (Read.optional Read.text) data)
    |>.ap (isSelectedField.withDefault false Read.truth data)
    |>.ap (.valid (Field.extras fields data))

/-- The contents of the fields in order, with the declared dependencies as they are given. -/
def contents (v : Version) (dependencies : List Value) : List Value :=
  [v.addonId.toValue, v.fileId.toValue, .str v.label, .str v.fileName,
    (v.downloadUrl.map Value.str).getD .null, .strings v.gameVersions, .strings v.loaders,
    .list dependencies, .list (v.requiredBy.map AddonId.toValue),
    (v.customFolder.map Value.str).getD .null, .bool v.isSelected]

instance : Record Version where
  title := "IndexedVersion"
  fields := fields
  keepsExtras := true
  frozen := false
  operations := [requiredName]
  ofFields := ofFields
  named v := (fields.map Field.name).zip (v.contents (v.dependencies.map Record.describe))
  keyed v := (fields.map Field.key).zip (v.contents (v.dependencies.map Record.dump))
  extras := extras

/-- The dependencies that the version cannot do without, as declared. -/
def requiredDependencies (v : Version) : List Dependency :=
  v.dependencies.filter Dependency.isRequired

/-- The version as a resolution run begins with it: not selected and not required by anything. -/
def reset (v : Version) : Version :=
  { v with requiredBy := [], isSelected := false }

/-- Record that a pack requires the version. A pack is recorded once. -/
def link (id : AddonId) (v : Version) : Version :=
  if v.requiredBy.contains id then v else { v with requiredBy := v.requiredBy ++ [id] }

@[simp] theorem extras_link (id : AddonId) (v : Version) : (v.link id).extras = v.extras := by
  rw [link]
  split <;> rfl

end Version

/-- The identity of a version that several hold. -/
abbrev VersionId := Nat

/-- A version as somebody holds it. What the holder changes of it shows for everybody who holds it
under the same identity. A version that has none is the holder's own. -/
structure Held where
  version : Version
  shared : Option VersionId := none
deriving Repr, Inhabited

/-- A version that nobody else holds. -/
instance : Coe Version Held where
  coe version := { version }

namespace Held

/-- A copy, which nobody else holds. -/
def copied (h : Held) : Held :=
  { h with shared := none }

/-- A copy for a resolution run. -/
def detached (h : Held) : Held :=
  let own := h.copied
  { own with version := own.version.reset }

/-- Record that a pack requires a held version. -/
def link (id : AddonId) (h : Held) : Held :=
  { h with version := h.version.link id }

end Held

namespace Edited

/-- The required dependencies among those that were set: these are plain values, none of which has
a kind. -/
def requiredAmong (v : Value) : Except Fault (List Dependency) :=
  match v.members? with
  | none => .error (.notIterable v.typeName)
  | some [] => .ok []
  | some (x :: _) => .error (.lacksAttribute x.typeName Dependency.kindField.name)

/-- Record that packs require the version. -/
def linkAll (ids : List AddonId) (e : Edited Version) : Edited Version :=
  { e with base := ids.foldl (fun v id => v.link id) e.base }

theorem linkAll_ofBase (ids : List AddonId) (v : Version) :
    (ofBase v).linkAll ids = ofBase (ids.foldl (fun v id => v.link id) v) := by
  have same : ∀ v : Version, (ids.foldl (fun v id => v.link id) v).extras = v.extras := by
    induction ids with
    | nil => exact fun _ => rfl
    | cons id later ih => exact fun v => (ih _).trans (v.extras_link id)
  exact congrArg (Edited.mk _ [] · false) (same v).symm

/-- The required dependencies of a version whose attributes may have been changed. What was set
under the name of the operation itself is asked in its place, and cannot answer. -/
def requiredDependencies (e : Edited Version) : Except Fault (List Dependency) :=
  let field := Version.dependenciesField.name
  match Value.lookup Version.requiredName e.edits, Value.lookup field e.edits with
  | some v, _ => .error (.notCallable v.typeName)
  | none, some v => requiredAmong v
  | none, none =>
    if e.isStripped then .error (.lacksAttribute (Record.title Version) field)
    else .ok e.base.requiredDependencies

end Edited

end AddonPicker
