import AddonPicker.Catalog.Version

/-!
# The store of versions

The store gives every version that can be shared an identity, the position at which it was put in.
Versions are never taken out.
-/

namespace AddonPicker

/-- All versions of a session. -/
structure Store where
  versions : List (Edited Version) := []

namespace Store

/-- The version with an identity. -/
def get? (s : Store) (id : VersionId) : Option (Edited Version) :=
  s.versions[id]?

/-- Put in a new version. -/
def insert (v : Version) (s : Store) : VersionId × Store :=
  (s.versions.length, { s with versions := s.versions ++ [.ofBase v] })

/-- Take in a version as somebody holds it. One that is known to the store stays what it is, under
its identity. -/
def take (h : Held) (s : Store) : VersionId × Store :=
  match h.shared with
  | some id => if id < s.versions.length then (id, s) else s.insert h.version
  | none => s.insert h.version

/-- Change the version with an identity. -/
def modify (id : VersionId) (f : Edited Version → Edited Version) (s : Store) : Store :=
  { s with versions := s.versions.modify id f }

/-- Record packs that require a version. -/
def linkAll (id : VersionId) (ids : List AddonId) (s : Store) : Store :=
  s.modify id (Edited.linkAll ids)

/-- Set whether a version is selected. -/
def flag (id : VersionId) (selected : Bool) (s : Store) : Store :=
  s.modify id fun e => { e with
    base := { e.base with isSelected := selected }
    edits := e.edits.filter (·.1 != Version.isSelectedField.name) }

/-- The current value of a field of a version. -/
def value (s : Store) (id : VersionId) (f : Field) : Value :=
  match s.get? id with
  | some e => e.value f.name
  | none => .null

/-- The packs that a version is recorded to be required by. -/
def requiredBy (s : Store) (id : VersionId) : List AddonId :=
  match s.get? id with
  | some e => e.base.requiredBy
  | none => []

@[simp] theorem versions_insert (v : Version) (s : Store) :
    (s.insert v).2.versions = s.versions ++ [.ofBase v] := rfl

@[simp] theorem insert_fst (v : Version) (s : Store) : (s.insert v).1 = s.versions.length := rfl

@[simp] theorem length_versions_modify (id : VersionId) (f : Edited Version → Edited Version)
    (s : Store) : (s.modify id f).versions.length = s.versions.length := by
  simp [modify]

@[simp] theorem get?_insert_self (v : Version) (s : Store) :
    (s.insert v).2.get? (s.insert v).1 = some (.ofBase v) := by
  simp [get?]

/-- A version that is somebody's own is put in. -/
theorem take_of_own {h : Held} (own : h.shared = none) (s : Store) :
    s.take h = s.insert h.version := by
  rw [take, own]

theorem take_of_shared {h : Held} {id : VersionId} (shared : h.shared = some id) {s : Store}
    (known : id < s.versions.length) : s.take h = (id, s) := by
  rw [take, shared]
  exact if_pos known

/-- A version that is taken in is one that the store has, or it is put in. -/
theorem take_eq (h : Held) (s : Store) :
    (∃ id, h.shared = some id ∧ id < s.versions.length ∧ s.take h = (id, s)) ∨
      s.take h = s.insert h.version := by
  cases shared : h.shared with
  | none => exact .inr (take_of_own shared s)
  | some id =>
      by_cases known : id < s.versions.length
      · exact .inl ⟨id, rfl, known, take_of_shared shared known⟩
      · refine .inr ?_
        rw [take, shared]
        exact if_neg known

/-- A version that is put in and linked is put in as it is linked. -/
theorem linkAll_insert (v : Version) (ids : List AddonId) (s : Store) :
    (s.insert v).2.linkAll (s.insert v).1 ids =
      (s.insert (ids.foldl (fun v id => v.link id) v)).2 := by
  have last := List.modifyTailIdx_add (List.modifyHead (Edited.linkAll ids)) 0 s.versions
    [.ofBase v]
  refine congrArg Store.mk (last.trans (congrArg (s.versions ++ [·]) ?_))
  exact Edited.linkAll_ofBase ids v

/-- Putting in a version leaves those alone that are there already. -/
theorem get?_insert_of_lt (v : Version) {s : Store} {id : VersionId}
    (known : id < s.versions.length) : (s.insert v).2.get? id = s.get? id := by
  simp [get?, List.getElem?_append_left known]

@[simp] theorem get?_modify_self (id : VersionId) (f : Edited Version → Edited Version)
    (s : Store) : (s.modify id f).get? id = (s.get? id).map f := by
  simp [get?, modify]

theorem get?_take_of_lt (h : Held) {s : Store} {id : VersionId} (known : id < s.versions.length) :
    (s.take h).2.get? id = s.get? id := by
  rcases s.take_eq h with ⟨_, -, -, taken⟩ | taken
  · rw [taken]
  · rw [taken, get?_insert_of_lt _ known]

/-- Changing a version leaves all others alone. -/
theorem get?_modify_of_ne {id other : VersionId} (differ : id ≠ other)
    (f : Edited Version → Edited Version) (s : Store) :
    (s.modify id f).get? other = s.get? other := by
  simp [get?, modify, differ]

end Store

end AddonPicker
