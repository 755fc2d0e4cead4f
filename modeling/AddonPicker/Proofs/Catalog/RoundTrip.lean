import AddonPicker.Catalog.Closure
import AddonPicker.Proofs.Catalog.Fields

/-!
# Records read back

A record that was read can be dumped and read again, and comes back as the same record: the same
contents, the same records inside it, and the same unknown keys beside them. The dump has every
field under its wire key, which wins over the name of the field, and the unknown keys of a record
that was read are never wire keys of it. So what was given under the name of a field beside its wire
key is an unknown key on the way there and on the way back.
-/

namespace AddonPicker

namespace Record

/-- A record that was read from a value. -/
def IsRead {α : Type} [Record α] (a : α) : Prop :=
  ∃ v, read v = .valid a

/-- What is kept of an object that a record was read from, and given back. -/
structure ReadsBack {α : Type} [Record α] (data : Fields) (a : α) : Prop where
  /-- The dump is read, and as the same record. -/
  same : read (dump a) = .valid a
  /-- What was given under the name of a field beside its wire key is kept as an unknown key. -/
  stays : keepsExtras α = true → ∀ f ∈ fields α, f.key ≠ f.name →
    (Value.lookup f.key data).isSome = true →
      Value.lookup f.name (extras a) = Value.lookup f.name data

/-- Records of a type are read back, whatever object they were read from. -/
def IsFaithful (α : Type) [Record α] : Prop :=
  ∀ (data : Fields) (a : α), read (.dict data) = .valid a → ReadsBack data a

variable {α : Type} [Record α]

/-- A record whose unknown keys are those of the object that it was read from. -/
def KeepsExtras (α : Type) [Record α] : Prop :=
  ∀ data, (ofFields data : Checked α).Ensures fun a => extras a = Field.extras (fields α) data

/-- The unknown keys of a record that was read are no wire keys. -/
theorem KeepsExtras.ne_key (keeps : KeepsExtras α) {a : α} (came : IsRead a) :
    ∀ f ∈ fields α, ∀ kv ∈ extras a, kv.1 ≠ f.key := by
  obtain ⟨v, came⟩ := came
  obtain ⟨data, rfl, came⟩ := Read.exists_fields came
  rw [keeps data a came]
  intro f among kv kept
  exact Field.ne_key_of_mem_extras among kept

theorem KeepsExtras.isFaithful (keeps : KeepsExtras α)
    (apart : (fields α).Pairwise Field.IsApart)
    (same : ∀ a : α, IsRead a → read (dump a) = .valid a) : IsFaithful α := by
  intro data a came
  refine ⟨same a ⟨_, came⟩, ?_⟩
  intro _ f among aliased given
  obtain ⟨v, given⟩ := Option.isSome_iff_exists.mp given
  rw [keeps data a came]
  exact Field.lookup_extras apart among aliased given

end Record

namespace Dependency

theorem pairwise_isApart : fields.Pairwise Field.IsApart := by decide

theorem keepsExtras : Record.KeepsExtras Dependency := by
  intro data
  refine .ap (.ap (.ap (.ap (Checked.ensures_valid ?_))))
  rintro addonId - kind - pin - extras ⟨⟩
  rfl

theorem read_dump (d : Dependency) (came : Record.IsRead d) :
    Record.read (Record.dump d) = .valid d := by
  have apart := pairwise_isApart
  have unknown : ∀ f ∈ fields, ∀ kv ∈ d.extras, kv.1 ≠ f.key := keepsExtras.ne_key came
  show ofFields (Field.written fields d.contents d.extras) = .valid d
  rw [ofFields, Field.required_written apart 0 _ rfl rfl,
    Field.withDefault_written apart 1 _ _ rfl rfl, Field.withDefault_written apart 2 _ _ rfl rfl,
    Field.extras_written apart rfl unknown]
  simp

end Dependency

namespace Pack

theorem pairwise_isApart : fields.Pairwise Field.IsApart := by decide

theorem keepsExtras : Record.KeepsExtras Pack := by
  intro data
  refine .ap (.ap (.ap (.ap (.ap (.ap (.ap (Checked.ensures_valid ?_)))))))
  rintro addonId - name - slug - provider - description - url - extras ⟨⟩
  rfl

theorem read_dump (p : Pack) (came : Record.IsRead p) :
    Record.read (Record.dump p) = .valid p := by
  have apart := pairwise_isApart
  have unknown : ∀ f ∈ fields, ∀ kv ∈ p.extras, kv.1 ≠ f.key := keepsExtras.ne_key came
  show ofFields (Field.written fields p.contents p.extras) = .valid p
  rw [ofFields, Field.required_written apart 0 _ rfl rfl, Field.required_written apart 1 _ rfl rfl,
    Field.withDefault_written apart 2 _ _ rfl rfl, Field.required_written apart 3 _ rfl rfl,
    Field.withDefault_written apart 4 _ _ rfl rfl, Field.withDefault_written apart 5 _ _ rfl rfl,
    Field.extras_written apart rfl unknown]
  simp

end Pack

namespace Version

theorem pairwise_isApart : fields.Pairwise Field.IsApart := by decide

/-- What is known of the parts of a version that was read. -/
theorem ensures_ofFields (data : Fields) :
    (ofFields data).Ensures fun v => v.extras = Field.extras fields data ∧
      ∀ d ∈ v.dependencies, Record.IsRead d := by
  refine .ap (.ap (.ap (.ap (.ap (.ap (.ap (.ap (.ap (.ap (.ap (.ap
    (Checked.ensures_valid ?_))))))))))))
  intro addonId _ fileId _ label _ fileName _ url _ games _ loaders _ dependencies declared
    requiredBy _ folder _ selected _ extras kept
  have listed : ∀ d ∈ dependencies, Record.IsRead d :=
    Field.ensures_withDefault (p := fun ds => ∀ d ∈ ds, Record.IsRead d)
      (List.forall_mem_nil _) (Read.ensures_list Record.read) dependencies declared
  cases kept
  exact ⟨rfl, listed⟩

theorem keepsExtras : Record.KeepsExtras Version :=
  fun data v came => (ensures_ofFields data v came).1

theorem read_dump (v : Version) (came : Record.IsRead v) :
    Record.read (Record.dump v) = .valid v := by
  have apart := pairwise_isApart
  have unknown : ∀ f ∈ fields, ∀ kv ∈ v.extras, kv.1 ≠ f.key := keepsExtras.ne_key came
  have declared : Read.list Record.read (.list (v.dependencies.map Record.dump)) =
      .valid v.dependencies := by
    obtain ⟨w, came⟩ := came
    obtain ⟨data, rfl, came⟩ := Read.exists_fields came
    exact Read.list_map fun d among =>
      Dependency.read_dump d ((ensures_ofFields data v came).2 d among)
  show ofFields (Field.written fields (v.contents (v.dependencies.map Record.dump)) v.extras) =
    .valid v
  rw [ofFields, Field.required_written apart 0 _ rfl rfl, Field.required_written apart 1 _ rfl rfl,
    Field.withDefault_written apart 2 _ _ rfl rfl, Field.required_written apart 3 _ rfl rfl,
    Field.withDefault_written apart 4 _ _ rfl rfl, Field.withDefault_written apart 5 _ _ rfl rfl,
    Field.withDefault_written apart 6 _ _ rfl rfl, Field.withDefault_written apart 7 _ _ rfl rfl,
    Field.withDefault_written apart 8 _ _ rfl rfl, Field.withDefault_written apart 9 _ _ rfl rfl,
    Field.withDefault_written apart 10 _ _ rfl rfl, Field.extras_written apart rfl unknown, declared]
  simp [Read.truth]

end Version

namespace Choice

theorem pairwise_isApart : fields.Pairwise Field.IsApart := by decide

/-- The pack and the version of a choice that was read were read, and nobody else holds them. -/
theorem ensures_ofFields (data : Fields) :
    (ofFields data).Ensures fun c =>
      Record.IsRead c.pack ∧ Record.IsRead c.version ∧ c.shared = none := by
  refine .ap (.ap (Checked.ensures_valid ?_))
  intro pack packed version versioned
  have packed : Record.IsRead pack := Field.ensures_required (fun w p came => ⟨w, came⟩) pack packed
  have versioned : Record.IsRead version :=
    Field.ensures_required (fun w v came => ⟨w, came⟩) version versioned
  exact ⟨packed, versioned, rfl⟩

theorem read_dump (c : Choice) (came : Record.IsRead c) :
    Record.read (Record.dump c) = .valid c := by
  have apart := pairwise_isApart
  obtain ⟨w, came⟩ := came
  obtain ⟨data, rfl, came⟩ := Read.exists_fields came
  obtain ⟨⟨version, shared⟩, pack⟩ := c
  obtain ⟨packed, versioned, rfl⟩ := ensures_ofFields data _ came
  show ofFields (Field.written fields [Record.dump pack, Record.dump version] []) = .valid _
  rw [ofFields, Field.required_written apart 0 _ rfl rfl, Field.required_written apart 1 _ rfl rfl,
    Pack.read_dump _ packed, Version.read_dump _ versioned]
  rfl

end Choice

namespace Closure

theorem pairwise_isApart : fields.Pairwise Field.IsApart := by decide

/-- The choices of a closure that was read were read. -/
theorem ensures_ofFields (data : Fields) :
    (ofFields data).Ensures fun c => ∀ d ∈ c.dependencies, Record.IsRead d := by
  refine .ap (.ap (Checked.ensures_valid ?_))
  intro dependencies chosen warnings _
  have listed : ∀ c ∈ dependencies, Record.IsRead c :=
    Field.ensures_withDefault (p := fun cs => ∀ c ∈ cs, Record.IsRead c)
      (List.forall_mem_nil _) (Read.ensures_list Record.read) dependencies chosen
  exact listed

theorem read_dump (c : Closure) (came : Record.IsRead c) :
    Record.read (Record.dump c) = .valid c := by
  have apart := pairwise_isApart
  obtain ⟨w, came⟩ := came
  obtain ⟨data, rfl, came⟩ := Read.exists_fields came
  have chosen : Read.list Record.read (.list (c.dependencies.map Record.dump)) =
      .valid c.dependencies := by
    exact Read.list_map fun d among => Choice.read_dump d (ensures_ofFields data c came d among)
  show ofFields (Field.written fields
    [.list (c.dependencies.map Record.dump), .strings c.warnings] []) = .valid c
  rw [ofFields, Field.withDefault_written apart 0 _ _ rfl rfl,
    Field.withDefault_written apart 1 _ _ rfl rfl, chosen]
  simp

end Closure

namespace Record

/-- A type of records that drops unknown keys has nothing to keep under the name of a field. -/
theorem isFaithful_of_drops {α : Type} [Record α] (drops : keepsExtras α = false)
    (same : ∀ a : α, IsRead a → read (dump a) = .valid a) : IsFaithful α := by
  intro data a came
  refine ⟨same a ⟨_, came⟩, ?_⟩
  intro keeps
  exact absurd (drops.symm.trans keeps) Bool.false_ne_true

/-- Whatever object a record of the catalogue was read from, the dump of the record is read as the
same record, and what the object gave under the name of a field beside its wire key is kept as an
unknown key. -/
theorem isFaithful_catalog :
    IsFaithful Dependency ∧ IsFaithful Pack ∧ IsFaithful Version ∧ IsFaithful Choice ∧
      IsFaithful Closure :=
  ⟨Dependency.keepsExtras.isFaithful Dependency.pairwise_isApart Dependency.read_dump,
    Pack.keepsExtras.isFaithful Pack.pairwise_isApart Pack.read_dump,
    Version.keepsExtras.isFaithful Version.pairwise_isApart Version.read_dump,
    isFaithful_of_drops rfl Choice.read_dump, isFaithful_of_drops rfl Closure.read_dump⟩

/-- A dependency that is given its id twice, once as a truth value. -/
def oilData : Fields :=
  [("addon_id", .str "wick"), ("addonId", .bool true), ("grade", .str "fine"), ("type", .str "tool")]

/-- A version that is given two ids and its folder twice, and unknown keys on two levels. -/
def lampData : Fields :=
  [("addonId", .str "lamp"), ("file_id", .float (.finite false (twoTo 52) (-52))),
    ("fileId", .int 7), ("file_name", .str "lamp.jar"), ("custom_target_folder", .str "attic"),
    ("customTargetFolder", .null), ("isCurrentlySelected", .int 1), ("color", .list [.null]),
    ("requiredBy", .list [.bool false, .str "0"]), ("dependencies", .list [.dict oilData])]

/-- The dependency that is read from the first of them. -/
def oil : Dependency where
  addonId := .number 1
  kind := .tool
  extras := [("addon_id", .str "wick"), ("grade", .str "fine")]

/-- The version that is read from the second. -/
def lamp : Version where
  addonId := .text "lamp"
  fileId := .number 7
  fileName := "lamp.jar"
  dependencies := [oil]
  requiredBy := [.number 0, .text "0"]
  isSelected := true
  extras := [("file_id", .float (.finite false (twoTo 52) (-52))),
    ("custom_target_folder", .str "attic"), ("color", .list [.null])]

theorem isFaithful_catalog_lamp :
    (read (.dict lampData) : Checked Version) = .valid lamp ∧ ReadsBack lampData lamp ∧
      Value.lookup "file_id" (extras lamp) = Value.lookup "file_id" lampData ∧
      Value.lookup "fileId" lampData = some (.int 7) ∧ lamp.fileId = .number 7 := by
  have came : (read (.dict lampData) : Checked Version) = .valid lamp := by rfl
  obtain ⟨-, -, versions, -⟩ := isFaithful_catalog
  have back := versions lampData lamp came
  exact ⟨came, back, back.stays rfl Version.fileIdField (by decide) (by decide) rfl, rfl, rfl⟩

end Record

end AddonPicker
