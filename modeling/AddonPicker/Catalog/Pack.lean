import AddonPicker.Catalog.Record

/-!
# Packs

The identity of something that can be downloaded, whatever its version. A pack never changes once
a catalogue has answered it. Its display name is the key under which it is selected.
-/

namespace AddonPicker

/-- A pack of a catalogue. -/
structure Pack where
  addonId : AddonId
  name : String
  slug : String := ""
  provider : Provider
  description : String := ""
  websiteUrl : Option String := none
  extras : Fields := []
deriving Repr, Inhabited

namespace Pack

def addonIdField : Field := ⟨"addonId", "addon_id"⟩
def nameField : Field := .plain "name"
def slugField : Field := .plain "slug"
def providerField : Field := .plain "provider"
def descriptionField : Field := .plain "description"
def websiteUrlField : Field := ⟨"websiteUrl", "website_url"⟩

/-- The declared fields, in order. -/
def fields : List Field :=
  [addonIdField, nameField, slugField, providerField, descriptionField, websiteUrlField]

/-- Read a pack. -/
def ofFields (data : Fields) : Checked Pack :=
  (Checked.valid Pack.mk).ap (addonIdField.required Read.addonId data)
    |>.ap (nameField.required Read.text data)
    |>.ap (slugField.withDefault "" Read.text data)
    |>.ap (providerField.required Read.provider data)
    |>.ap (descriptionField.withDefault "" Read.text data)
    |>.ap (websiteUrlField.withDefault none (Read.optional Read.text) data)
    |>.ap (.valid (Field.extras fields data))

/-- The contents of the fields in order. -/
def contents (p : Pack) : List Value :=
  [p.addonId.toValue, .str p.name, .str p.slug, .str p.provider.id, .str p.description,
    (p.websiteUrl.map Value.str).getD .null]

instance : Record Pack where
  title := "IndexedPack"
  fields := fields
  keepsExtras := true
  frozen := true
  ofFields := ofFields
  named p := (fields.map Field.name).zip p.contents
  keyed p := (fields.map Field.key).zip p.contents
  extras := extras

end Pack

end AddonPicker
