import AddonPicker.Proofs.Dialog.Review
import AddonPicker.Proofs.Selection.Dropped

/-!
# Rows of a review

Every entry has one row, which stands under its name, and rows are in another order than entries.
Ticking and unticking rows changes neither the names nor the order. So a row and its entry find each
other by the name, however the names compare without regard to case.
-/

namespace AddonPicker

/-- A text is the same key as itself and as nothing else. -/
theorem Value.isSameMember_str {text : String} {v : Value} :
    (Value.str text).isSameMember v = true ↔ v = .str text := by
  cases v with
  | str other =>
      rw [Value.str.injEq, @eq_comm _ other]
      simp [isSameMember, isNaN, agrees, sameScalar]
  | _ => simp [isSameMember, isNaN, agrees, sameScalar, wholeNumber?]

namespace ReviewBox

/-- A box with a row for each of some names, in order. -/
def Lists (b : ReviewBox) (names : List String) : Prop :=
  b.rows.map (·.name) = names.map .str

/-- Whether the row under a name is there and ticked. -/
def keeps (b : ReviewBox) (name : String) : Bool :=
  (b.row? (.str name)).any (·.enabled.isTrue)

variable {b b' : ReviewBox} {names : List String}

theorem row?_isSome_iff (lists : b.Lists names) {name : Value} :
    (b.row? name).isSome = true ↔ ∃ n ∈ names, name = .str n := by
  have known : (b.row? name).isSome = true ↔ ∃ v ∈ b.rows.map (·.name), v.isSameMember name := by
    simp [row?]
  rw [known, lists]
  simp [Value.isSameMember_str]

/-- A row under a new name comes last. -/
theorem rows_put (lists : b.Lists names) {r : ReviewRow} {name : String}
    (called : r.name = .str name) (new : name ∉ names) : (b.put r).rows = b.rows ++ [r] := by
  have absent : ¬(b.row? r.name).isSome = true := by
    rw [row?_isSome_iff lists, called]
    rintro ⟨n, among, same⟩
    cases same
    exact new among
  rw [put]
  dsimp only
  rw [if_neg absent]

theorem lists_put (lists : b.Lists names) {r : ReviewRow} {name : String}
    (called : r.name = .str name) (new : name ∉ names) : (b.put r).Lists (names ++ [name]) := by
  rw [Lists, rows_put lists called new, List.map_append, List.map_append, lists,
    List.map_singleton, called]
  rfl

theorem lists_mark (lists : b.Lists names) (name enabled : Value) :
    (b.mark name enabled).Lists names := by
  rw [Lists, mark, List.map_map, ← lists]
  refine List.map_congr_left fun r _ => ?_
  rw [Function.comp_apply]
  split <;> rfl

/-- A move of a user that ticks or unticks rows of a box. -/
def Toggles (b : ReviewBox) : ReviewMove → Prop
  | .untick _ => True
  | .setEnabled name _ => (b.row? name).isSome = true
  | _ => False

/-- Rows can be ticked and unticked. -/
theorem exists_moved (lists : b.Lists names) {m : ReviewMove} (toggles : b.Toggles m) :
    ∃ b', b.moved m = .ok b' ∧ b'.Lists names := by
  cases m with
  | untick position =>
      refine ⟨_, rfl, ?_⟩
      rw [untick]
      split
      · exact lists_mark lists _ _
      · exact lists
  | setEnabled name enabled =>
      obtain ⟨n, -, rfl⟩ := (row?_isSome_iff lists).mp toggles
      obtain ⟨row, found⟩ := Option.isSome_iff_exists.mp toggles
      have looked : b.find (.str n) = .ok (some row) := congrArg Except.ok found
      refine ⟨_, ?_, lists_mark lists (.str n) enabled⟩
      rw [moved, setEnabled, looked]
      rfl
  | remove pack version => exact toggles.elim
  | add pack version => exact toggles.elim

theorem Toggles.of_lists (lists : b.Lists names) (lists' : b'.Lists names) {m : ReviewMove}
    (toggles : b.Toggles m) : b'.Toggles m := by
  cases m with
  | setEnabled name enabled =>
      exact (row?_isSome_iff lists').mpr ((row?_isSome_iff lists).mp toggles)
  | _ => exact toggles

/-- However often they are. -/
theorem exists_foldlM_moved (lists : b.Lists names) {moves : List ReviewMove}
    (toggles : ∀ m ∈ moves, b.Toggles m) :
    ∃ b', moves.foldlM moved b = .ok b' ∧ b'.Lists names := by
  induction moves generalizing b with
  | nil => exact ⟨b, rfl, lists⟩
  | cons m later ih =>
      obtain ⟨b', made, lists'⟩ := exists_moved lists (toggles m List.mem_cons_self)
      rw [List.foldlM_cons, made]
      exact ih lists' fun m among =>
        (toggles m (List.mem_cons_of_mem _ among)).of_lists lists lists'

/-- A row is found under its name. -/
theorem row?_of_mem (lists : b.Lists names) (nodup : names.Nodup) {r : ReviewRow}
    (among : r ∈ b.rows) : b.row? r.name = some r := by
  have distinct : (b.rows.map (·.name)).Nodup := by
    rw [lists]
    exact nodup.map fun _ _ => Value.str.inj
  have called (r : ReviewRow) (among : r ∈ b.rows) : ∃ n, r.name = .str n := by
    have listed := List.mem_map_of_mem (f := ReviewRow.name) among
    rw [lists] at listed
    obtain ⟨n, -, same⟩ := List.mem_map.mp listed
    exact ⟨n, same.symm⟩
  have itself : r.name.isSameMember r.name = true := by
    obtain ⟨n, same⟩ := called r among
    rw [same]
    exact Value.isSameMember_str.mpr rfl
  cases found : b.row? r.name with
  | none => exact absurd itself (List.find?_eq_none.mp found r among)
  | some r' =>
      have known := List.mem_of_find?_eq_some found
      have same := List.find?_some found
      obtain ⟨n, name⟩ := called r' known
      rw [name] at same
      rw [List.inj_on_of_nodup_map distinct known among
        (name.trans (Value.isSameMember_str.mp same).symm)]

/-- The rows that are not ticked are those under names that the box does not keep. -/
theorem deselected_eq (lists : b.Lists names) (nodup : names.Nodup) :
    b.deselected = (names.filter (!b.keeps ·)).map .str := by
  have listed : (names.filter (!b.keeps ·)).map Value.str =
      (b.rows.map (·.name)).filter fun name => !(b.row? name).any (·.enabled.isTrue) := by
    rw [lists, List.filter_map]
    rfl
  rw [listed, List.filter_map, deselected]
  refine congrArg (List.map _) (List.filter_congr fun r among => ?_)
  rw [Function.comp_apply, row?_of_mem lists nodup among]
  rfl

end ReviewBox

namespace Selection

variable {s : Selection} {naming : Naming}

theorem not_mem_of_nodup_append_cons {names : List String} {e : Entry} {later : List Entry}
    (nodup : (names ++ (e :: later).map (·.pack.name)).Nodup) : e.pack.name ∉ names := by
  intro among
  have apart := (List.nodup_append.mp nodup).2.2
  exact apart _ among _ List.mem_cons_self rfl

/-- Each entry has a row under its name, in the order in which the rows are made. -/
theorem lists_appendRows {entries : List Entry} {box : ReviewBox} {names : List String}
    (lists : box.Lists names) (nodup : (names ++ entries.map (·.pack.name)).Nodup)
    (made : (s.appendRows naming entries box).1 = .ok ()) :
    (s.appendRows naming entries box).2.Lists (names ++ entries.map (·.pack.name)) := by
  induction entries generalizing box names with
  | nil => simpa [appendRows] using lists
  | cons e later ih =>
      have new := not_mem_of_nodup_append_cons nodup
      rw [List.map_cons, List.append_cons] at nodup ⊢
      rw [appendRows] at made ⊢
      cases row : s.row naming e with
      | error f =>
          rw [row] at made
          cases made
      | ok r =>
          rw [row] at made
          exact ih (ReviewBox.lists_put lists (name_of_row row) new) nodup made

/-- Rows stay when others are appended under new names, and each entry has the row that it makes. -/
theorem mem_rows_appendRows {entries : List Entry} {box : ReviewBox} {names : List String}
    (lists : box.Lists names) (nodup : (names ++ entries.map (·.pack.name)).Nodup)
    (made : (s.appendRows naming entries box).1 = .ok ()) :
    (∀ r ∈ box.rows, r ∈ (s.appendRows naming entries box).2.rows) ∧
      ∀ e ∈ entries, ∃ r ∈ (s.appendRows naming entries box).2.rows, s.row naming e = .ok r := by
  induction entries generalizing box names with
  | nil => exact ⟨fun _ among => among, by simp⟩
  | cons e later ih =>
      have new := not_mem_of_nodup_append_cons nodup
      rw [List.map_cons, List.append_cons] at nodup
      rw [appendRows] at made ⊢
      cases row : s.row naming e with
      | error f =>
          rw [row] at made
          cases made
      | ok r =>
          rw [row] at made
          obtain ⟨stay, each⟩ := ih (ReviewBox.lists_put lists (name_of_row row) new) nodup made
          rw [ReviewBox.rows_put lists (name_of_row row) new] at stay
          constructor
          · intro old among
            exact stay old (List.mem_append_left _ among)
          · intro e' among
            rcases List.mem_cons.mp among with rfl | after
            · exact ⟨r, stay r (by simp), row⟩
            · exact each e' after

/-- Sorting the entries takes no name away and adds none. -/
theorem perm_names_sortedEntries (s : Selection) :
    (s.sortedEntries.map (·.pack.name)).Perm s.names :=
  (List.mergeSort_perm _ _).map _

/-- The rows of a review stand under the names of the entries. -/
theorem lists_review (nodup : s.names.Nodup) {box box' : ReviewBox} (blank : box.rows = [])
    (presents : s.review naming box = (.ok (), box')) :
    box'.Lists (s.sortedEntries.map (·.pack.name)) := by
  have lists : (s.appendRows naming s.sortedEntries box).2.Lists
      ([] ++ s.sortedEntries.map (·.pack.name)) :=
    lists_appendRows (congrArg (List.map _) blank)
      (s.perm_names_sortedEntries.nodup_iff.mpr nodup) (congrArg Prod.fst presents)
  have same : (s.appendRows naming s.sortedEntries box).2 = box' := congrArg Prod.snd presents
  rw [same] at lists
  exact lists

/-- Dropping what is not ticked leaves the entries whose rows are ticked. -/
theorem sifted_deselected {s' : Selection} (nodup : s.names.Nodup) {box : ReviewBox}
    (lists : box.Lists (s.sortedEntries.map (·.pack.name)))
    (same : s'.entries = s.entries) : s'.Sifted (box.keeps ·.pack.name)
      (s'.withoutNames box.deselected) := by
  have sorted := s.perm_names_sortedEntries
  have distinct : (s.sortedEntries.map (·.pack.name)).Nodup := sorted.nodup_iff.mpr nodup
  have names : s'.names = s.names := congrArg (List.map _) same
  have sifted := sifted_withoutNames (s := s') (names ▸ nodup)
    ((s.sortedEntries.map (·.pack.name)).filter (!box.keeps ·))
  rw [← ReviewBox.deselected_eq lists distinct] at sifted
  refine sifted.congr fun e among => ?_
  have listed : e.pack.name ∈ s.sortedEntries.map (·.pack.name) :=
    sorted.mem_iff.mpr (List.mem_map_of_mem (same ▸ among))
  rw [← Bool.not_inj_iff, Bool.not_not, Bool.eq_iff_iff, List.contains_iff_mem, List.mem_filter]
  exact and_iff_right listed

end Selection

end AddonPicker
