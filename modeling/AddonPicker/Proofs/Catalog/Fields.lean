import AddonPicker.Catalog.Checked
import Mathlib.Data.List.Basic
import Mathlib.Data.List.Pairwise

/-!
# Objects and their fields

What reading makes of an object whose keys are wire keys, names of fields and unknown keys, all in
one list. A field is found under its wire key wherever that is given, so an unknown key is never the
wire key of a field; and in the contents of all fields under their wire keys, with unknown keys
beside them, every field is found and the unknown keys are the ones put there. Contents are read as
they are written.
-/

namespace AddonPicker

namespace Value

theorem lookup_eq_none_iff {key : String} {fields : List (String × Value)} :
    lookup key fields = none ↔ ∀ kv ∈ fields, kv.1 ≠ key := by
  simp [lookup]

/-- What is left out under other keys is not missed. -/
theorem lookup_filter {key : String} (keep : String → Bool) (kept : keep key = true)
    (fields : List (String × Value)) :
    lookup key (fields.filter fun kv => keep kv.1) = lookup key fields := by
  induction fields with
  | nil => rfl
  | cons kv later ih =>
      by_cases same : kv.1 = key
      · rw [List.filter_cons_of_pos (by rw [same, kept]), lookup_cons, lookup_cons, if_pos same,
          if_pos same]
      · rw [List.filter_cons, lookup_cons, if_neg same]
        split
        · rw [lookup_cons, if_neg same, ih]
        · exact ih

end Value

namespace Field

variable {fields : List Field} {data extras : Fields} {contents : List Value} {f : Field}

theorem find?_of_lookup {v : Value} (given : Value.lookup f.key data = some v) :
    f.find? data = some (f.key, v) := by
  rw [find?, given]

/-- A field is found under its wire key or its name. -/
theorem key_or_name_of_find? {key : String} (found : (f.find? data).map (·.1) = some key) :
    f.key = key ∨ f.name = key := by
  cases keyed : Value.lookup f.key data with
  | some v =>
      rw [find?_of_lookup keyed] at found
      exact .inl (Option.some.inj found)
  | none =>
      rw [find?, keyed] at found
      obtain ⟨kv, looked, same⟩ := Option.map_eq_some_iff.mp found
      obtain ⟨v, -, rfl⟩ := Option.map_eq_some_iff.mp looked
      exact .inr same

/-- A wire key that is given is taken by its field. -/
theorem mem_consumed (among : f ∈ fields) {v : Value}
    (given : Value.lookup f.key data = some v) : f.key ∈ consumed fields data :=
  List.mem_filterMap.mpr ⟨f, among, by rw [find?_of_lookup given]; rfl⟩

/-- The unknown keys of an object are no wire keys. -/
theorem ne_key_of_mem_extras (among : f ∈ fields) {kv : String × Value}
    (kept : kv ∈ Field.extras fields data) : kv.1 ≠ f.key := by
  intro same
  obtain ⟨given, untaken⟩ := List.mem_filter.mp kept
  cases found : Value.lookup f.key data with
  | none => exact Value.lookup_eq_none_iff.mp found kv given same
  | some v => simp [same, mem_consumed among found] at untaken

/-- Two fields of which neither has the wire key or the name of the other. -/
def IsApart (f g : Field) : Prop :=
  f.key ≠ g.key ∧ f.key ≠ g.name ∧ f.name ≠ g.key ∧ f.name ≠ g.name

instance : DecidableRel IsApart := fun f g =>
  inferInstanceAs (Decidable (f.key ≠ g.key ∧ f.key ≠ g.name ∧ f.name ≠ g.key ∧ f.name ≠ g.name))

instance : Std.Symm IsApart where
  symm _ _ apart := ⟨apart.1.symm, apart.2.2.1.symm, apart.2.1.symm, apart.2.2.2.symm⟩

/-- What is given under the name of a field beside its wire key is an unknown key. -/
theorem lookup_extras (apart : fields.Pairwise IsApart) (among : f ∈ fields)
    (aliased : f.key ≠ f.name) {v : Value} (given : Value.lookup f.key data = some v) :
    Value.lookup f.name (Field.extras fields data) = Value.lookup f.name data := by
  have untaken : f.name ∉ consumed fields data := by
    intro taken
    obtain ⟨g, among', found⟩ := List.mem_filterMap.mp taken
    by_cases same : g = f
    · rw [same, find?_of_lookup given] at found
      exact aliased (Option.some.inj found)
    · obtain ⟨-, keyed, -, named⟩ :=
        apart.forall among' among same
      rcases key_or_name_of_find? found with key | name
      · exact keyed key
      · exact named name
  have kept : !(consumed fields data).contains f.name := by simpa using untaken
  exact Value.lookup_filter (fun key => !(consumed fields data).contains key) kept data

/-- The contents of fields under their wire keys, with unknown keys beside them. -/
def written (fields : List Field) (contents : List Value) (extras : Fields) : Fields :=
  (fields.map Field.key).zip contents ++ extras

/-- Every field is found under its wire key. -/
theorem find?_written (apart : fields.Pairwise IsApart) {i : Nat} {v : Value}
    (field : fields[i]? = some f) (content : contents[i]? = some v) :
    f.find? (written fields contents extras) = some (f.key, v) := by
  refine find?_of_lookup ?_
  induction fields generalizing contents i with
  | nil => simp at field
  | cons g later ih =>
      cases contents with
      | nil => simp at content
      | cons w contents =>
          obtain ⟨first, apart⟩ := List.pairwise_cons.mp apart
          rw [written, List.map_cons, List.zip_cons_cons, List.cons_append, Value.lookup_cons]
          cases i with
          | zero =>
              cases field
              cases content
              rw [if_pos rfl]
          | succ i =>
              rw [if_neg (first f (List.mem_of_getElem? field)).1]
              exact ih apart field content

theorem required_written {α : Type} (apart : fields.Pairwise IsApart) (i : Nat) {v : Value}
    (read : Value → Checked α) (field : fields[i]? = some f) (content : contents[i]? = some v) :
    f.required read (written fields contents extras) = (read v).inside f.key := by
  rw [required, find?_written apart field content]

theorem withDefault_written {α : Type} (apart : fields.Pairwise IsApart) (i : Nat) {v : Value}
    (default : α) (read : Value → Checked α) (field : fields[i]? = some f)
    (content : contents[i]? = some v) :
    f.withDefault default read (written fields contents extras) = (read v).inside f.key := by
  rw [withDefault, find?_written apart field content]

/-- Where every field has its content, every wire key is taken. -/
theorem consumed_written (apart : fields.Pairwise IsApart)
    (complete : contents.length = fields.length) :
    consumed fields (written fields contents extras) = fields.map Field.key := by
  refine List.filterMap_eq_map_iff_forall_eq_some.mpr fun f among => ?_
  obtain ⟨i, inside, rfl⟩ := List.getElem_of_mem among
  obtain ⟨v, content⟩ : ∃ v, contents[i]? = some v :=
    ⟨_, List.getElem?_eq_getElem (complete ▸ inside)⟩
  rw [find?_written apart (List.getElem?_eq_getElem inside) content]
  rfl

/-- The unknown keys beside the contents of all fields are the unknown keys of the whole. -/
theorem extras_written (apart : fields.Pairwise IsApart)
    (complete : contents.length = fields.length)
    (unknown : ∀ f ∈ fields, ∀ kv ∈ extras, kv.1 ≠ f.key) :
    Field.extras fields (written fields contents extras) = extras := by
  rw [Field.extras, consumed_written apart complete, written, List.filter_append,
    List.filter_eq_nil_iff.mpr, List.filter_eq_self.mpr, List.nil_append]
  · intro kv kept
    have untaken : kv.1 ∉ fields.map Field.key := by
      intro taken
      obtain ⟨f, among, same⟩ := List.mem_map.mp taken
      exact unknown f among kv kept same.symm
    simpa using untaken
  · intro kv among
    simpa using List.of_mem_zip among |>.1

end Field

namespace Checked

variable {α β : Type} {p : β → Prop}

/-- Whatever valid content an outcome has, the content has a property. -/
def Ensures (p : α → Prop) (outcome : Checked α) : Prop :=
  ∀ a, outcome = .valid a → p a

theorem ensures_valid {a : α} {p : α → Prop} (holds : p a) : (valid a).Ensures p := by
  rintro _ ⟨⟩
  exact holds

/-- What holds of a content put together from any valid part is ensured by supplying the part. -/
theorem Ensures.ap {f : Checked (α → β)} {part : Checked α}
    (ensures : f.Ensures fun make => ∀ a, part = .valid a → p (make a)) :
    (f.ap part).Ensures p := by
  intro b made
  obtain ⟨make, a, rfl, rfl, rfl⟩ := ap_eq_valid_iff.mp made
  exact ensures make rfl a rfl

@[simp] theorem inside_valid (step : String) (a : α) : (valid a).inside step = valid a := rfl

theorem eq_of_inside {step : String} {outcome : Checked α} {a : α}
    (came : outcome.inside step = .valid a) : outcome = .valid a := by
  cases outcome with
  | valid b => exact came
  | invalid issues => exact nomatch came

end Checked

namespace Read

variable {α : Type}

@[simp] theorem text_str (s : String) : text (.str s) = .valid s := rfl

@[simp] theorem addonId_toValue (id : AddonId) : addonId id.toValue = .valid id := by
  cases id <;> rfl

@[simp] theorem provider_id (p : Provider) : provider (.str p.id) = .valid p := by
  rw [provider, oneOf, Provider.ofId?_id]

@[simp] theorem dependencyKind_word (k : DependencyKind) :
    dependencyKind (.str k.word) = .valid k := by
  rw [dependencyKind, oneOf, DependencyKind.ofWord?_word]

/-- A text that may be absent is read as it is written. -/
@[simp] theorem optional_text (s : Option String) :
    optional text ((s.map Value.str).getD .null) = .valid s := by
  cases s <;> rfl

/-- The elements of a list are read as they are written, if each is. -/
theorem list_map {read : Value → Checked α} {write : α → Value} {xs : List α}
    (each : ∀ x ∈ xs, read (write x) = .valid x) :
    list read (.list (xs.map write)) = .valid xs := by
  rw [list]
  generalize 0 = n
  induction xs generalizing n with
  | nil => rfl
  | cons x later ih =>
      rw [List.map_cons, elements, each x List.mem_cons_self,
        ih (fun y among => each y (List.mem_cons_of_mem _ among))]
      rfl

@[simp] theorem list_strings (xs : List String) : list text (.strings xs) = .valid xs :=
  list_map fun _ _ => rfl

@[simp] theorem list_addonIds (ids : List AddonId) :
    list addonId (.list (ids.map AddonId.toValue)) = .valid ids :=
  list_map fun id _ => addonId_toValue id

/-- Every element of a list that was read was read from a value. -/
theorem ensures_list (read : Value → Checked α) (v : Value) :
    (list read v).Ensures fun xs => ∀ x ∈ xs, ∃ w, read w = .valid x := by
  cases v with
  | list vs =>
      rw [list]
      generalize 0 = n
      induction vs generalizing n with
      | nil => exact Checked.ensures_valid nofun
      | cons w later ih =>
          refine .ap ?_
          intro make made xs came
          cases first : read w with
          | invalid issues =>
              rw [first] at made
              exact nomatch made
          | valid x =>
              rw [first] at made
              cases made
              exact List.forall_mem_cons.mpr ⟨⟨w, first⟩, ih (n + 1) xs came⟩
  | _ => exact nofun

/-- The object that a record was read from. -/
theorem exists_fields {title : String} {readFields : Fields → Checked α} {v : Value} {a : α}
    (came : Read.record title readFields v = .valid a) :
    ∃ data, v = .dict data ∧ readFields data = .valid a := by
  cases v with
  | dict data => exact ⟨data, rfl, came⟩
  | _ => exact nomatch came

end Read

namespace Field

variable {α : Type} {f : Field} {data : Fields}

/-- The content of a field that was given was read from a value. -/
theorem ensures_required {read : Value → Checked α} {p : α → Prop}
    (each : ∀ v, (read v).Ensures p) : (f.required read data).Ensures p := by
  intro a came
  rw [required] at came
  split at came
  · exact each _ a (Checked.eq_of_inside came)
  · exact nomatch came

theorem ensures_withDefault {default : α} {read : Value → Checked α} {p : α → Prop}
    (absent : p default) (each : ∀ v, (read v).Ensures p) :
    (f.withDefault default read data).Ensures p := by
  intro a came
  rw [withDefault] at came
  split at came
  · exact each _ a (Checked.eq_of_inside came)
  · cases came
    exact absent

end Field

end AddonPicker
