import AddonPicker.Proofs.Selection.Merged

/-!
# Dropping entries by name

Entries are dropped one name after the other, and each time the version of the entry is unselected
and the marks of the name are cleared. All in all this leaves what passes a test on the entries, in
the order that it had.
-/

namespace AddonPicker

theorem Edited.flagged_flagged (selected : Bool) (e : Edited Version) :
    (e.flagged selected).flagged selected = e.flagged selected := by
  simp only [flagged, List.filter_filter, Bool.and_self]

namespace Selection

/-- A selection of which only the entries are left that pass a test. -/
structure Sifted (kept : Entry → Bool) (s s' : Selection) : Prop where
  entries : s'.entries = s.entries.filter kept
  /-- The version of an entry that is dropped is flagged unselected. -/
  dropped : ∀ e ∈ s.entries, kept e = false →
    s'.store.get? e.version = (s.store.get? e.version).map (Edited.flagged false)
  /-- All other versions are as they were. -/
  others : ∀ id, (∀ e ∈ s.entries, kept e = false → e.version ≠ id) →
    s'.store.get? id = s.store.get? id
  /-- Pages lose their marks of the names that are dropped, and no other ones. -/
  marks : s'.pages.map (·.marked) = s.pages.map fun p =>
    p.marked.filter fun name => !s.entries.any fun e => !kept e && e.pack.name == name

variable {s s' s'' : Selection} {kept kept' : Entry → Bool}

/-- No page marks the name of an entry that was dropped. -/
theorem Sifted.unmarked (sifted : s.Sifted kept s') {e : Entry} (among : e ∈ s.entries)
    (goes : kept e = false) : ∀ p ∈ s'.pages, e.pack.name ∉ p.marked := by
  intro p inside shown
  have listed := List.mem_map_of_mem (f := Page.marked) inside
  rw [sifted.marks] at listed
  obtain ⟨before, -, same⟩ := List.mem_map.mp listed
  rw [← same] at shown
  have unshown := (List.mem_filter.mp shown).2
  simp only [Bool.not_eq_true', List.any_eq_false, Bool.and_eq_true, not_and] at unshown
  exact unshown e among goes (beq_self_eq_true _)

/-- Whatever was dropped, versions differ by what their flags are set to at most. -/
theorem Sifted.map_flagged (sifted : s.Sifted kept s') (id : VersionId) :
    (s'.store.get? id).map (Edited.flagged false) =
      (s.store.get? id).map (Edited.flagged false) := by
  by_cases shared : ∃ e ∈ s.entries, kept e = false ∧ e.version = id
  · obtain ⟨e, among, goes, rfl⟩ := shared
    rw [sifted.dropped e among goes, Option.map_map]
    exact congrArg (Option.map · _) (funext (Edited.flagged_flagged false))
  · rw [sifted.others id fun e among goes same => shared ⟨e, among, goes, same⟩]

/-- Without an entry that does not pass the test, everything is as it was. -/
theorem sifted_self (all : ∀ e ∈ s.entries, kept e = true) : s.Sifted kept s where
  entries := (List.filter_eq_self.mpr all).symm
  dropped e among goes := absurd (all e among) (by rw [goes]; exact Bool.false_ne_true)
  others _ _ := rfl
  marks := by
    refine List.map_congr_left fun p _ => (List.filter_eq_self.mpr fun name _ => ?_).symm
    rw [Bool.not_eq_true', List.any_eq_false]
    intro e among
    rw [all e among]
    exact Bool.false_ne_true

/-- It matters only what a test says of the entries. -/
theorem Sifted.congr (sifted : s.Sifted kept s') (same : ∀ e ∈ s.entries, kept e = kept' e) :
    s.Sifted kept' s' where
  entries := sifted.entries.trans (List.filter_congr same)
  dropped e among goes := sifted.dropped e among ((same e among).trans goes)
  others id apart := sifted.others id fun e among goes =>
    apart e among ((same e among).symm.trans goes)
  marks := by
    rw [sifted.marks]
    refine List.map_congr_left fun p _ => List.filter_congr fun name _ => ?_
    rw [Bool.not_inj_iff, Bool.eq_iff_iff, List.any_eq_true, List.any_eq_true]
    refine exists_congr fun e => and_congr_right fun among => ?_
    rw [same e among]

/-- Of what is dropped by two tests, some is dropped by the first one and the rest by the other. -/
theorem any_dropped (kept kept' p : Entry → Bool) (entries : List Entry) :
    (((entries.filter kept).any fun e => !kept' e && p e) || entries.any fun e => !kept e && p e) =
      entries.any fun e => !(kept e && kept' e) && p e := by
  induction entries with
  | nil => rfl
  | cons e later ih =>
      rw [List.any_cons, List.any_cons, ← ih, List.filter_cons]
      cases kept e
      · simp [Bool.or_left_comm]
      · simp [Bool.or_assoc]

/-- What passes one test after the other passes both. -/
theorem Sifted.trans (first : s.Sifted kept s') (later : s'.Sifted kept' s'') :
    s.Sifted (fun e => kept e && kept' e) s'' where
  entries := by
    rw [later.entries, first.entries, List.filter_filter]
    exact congrArg (List.filter · _) (funext fun e => Bool.and_comm _ _)
  dropped e among goes := by
    have left : kept e = true → e ∈ s'.entries := fun stays => by
      rw [first.entries]
      exact List.mem_filter.mpr ⟨among, stays⟩
    by_cases shared : ∃ e' ∈ s'.entries, kept' e' = false ∧ e'.version = e.version
    · obtain ⟨e', inside, goes', same⟩ := shared
      have unflagged := later.dropped e' inside goes'
      rw [same] at unflagged
      rw [unflagged, first.map_flagged]
    · have goes : kept e = false := by
        refine Bool.eq_false_iff.mpr fun stays => shared ⟨e, left stays, ?_, rfl⟩
        rw [stays, Bool.true_and] at goes
        exact goes
      rw [later.others e.version fun e' inside goes' same => shared ⟨e', inside, goes', same⟩,
        first.dropped e among goes]
  others id apart := by
    rw [later.others id, first.others id]
    · intro e among goes
      exact apart e among (by rw [goes]; rfl)
    · intro e inside goes
      rw [first.entries, List.mem_filter] at inside
      exact apart e inside.1 (by rw [goes, Bool.and_false])
  marks := by
    rw [later.marks]
    have again : (s'.pages.map fun p => p.marked.filter fun name =>
          !s'.entries.any fun e => !kept' e && e.pack.name == name) =
        (s'.pages.map (·.marked)).map fun marked => marked.filter fun name =>
          !s'.entries.any fun e => !kept' e && e.pack.name == name := by
      rw [List.map_map]
      rfl
    rw [again, first.marks, List.map_map]
    refine List.map_congr_left fun p _ => ?_
    rw [Function.comp_apply, List.filter_filter]
    refine congrArg (List.filter · _) (funext fun name => ?_)
    rw [first.entries, ← Bool.not_or, any_dropped]

/-- What is left once the entry under a name is dropped, if there is one. -/
theorem sifted_withoutName (nodup : s.names.Nodup) (name : String) :
    s.Sifted (fun e => e.pack.name != name) (s.withoutName (.str name)) := by
  have looked : s.lookUp (.str name) = .ok (s.get? name) := rfl
  rw [withoutName, looked]
  cases found : s.get? name with
  | none =>
      refine sifted_self fun e among => ?_
      have other := List.find?_eq_none.mp found e among
      simpa using other
  | some entry =>
      have known := List.mem_of_find?_eq_some found
      obtain rfl : entry.pack.name = name := by simpa using List.find?_some found
      have own (e : Entry) (among : e ∈ s.entries)
          (goes : (e.pack.name != entry.pack.name) = false) : e = entry :=
        List.inj_on_of_nodup_map nodup among known (by simpa using goes)
      dsimp only
      rw [without_of_some found]
      refine ⟨rfl, fun e among goes => ?_, fun id apart => ?_, ?_⟩
      · rw [own e among goes]
        dsimp only
        rw [get?_flag_self, get?_flag_self, Option.map_map]
        exact congrArg (Option.map · _) (funext (Edited.flagged_flagged false))
      · have other : entry.version ≠ id := apart entry known (bne_self_eq_false _)
        dsimp only
        rw [get?_flag_of_ne other, get?_flag_of_ne other]
      · rw [List.map_map]
        refine List.map_congr_left fun p _ => List.filter_congr fun shown _ => ?_
        rw [Bool.eq_iff_iff, bne_iff_ne, Bool.not_eq_true', List.any_eq_false]
        constructor
        · rintro differs e among same
          simp at same
          exact differs (same.2.symm.trans same.1)
        · rintro unshown rfl
          exact unshown entry known (by simp)

theorem Sifted.names_nodup (sifted : s.Sifted kept s') (nodup : s.names.Nodup) :
    s'.names.Nodup := by
  rw [names, sifted.entries]
  exact nodup.sublist (List.filter_sublist.map _)

/-- What is left once the entries under some names are dropped. -/
theorem sifted_withoutNames (nodup : s.names.Nodup) (names : List String) :
    s.Sifted (fun e => !names.contains e.pack.name) (s.withoutNames (names.map .str)) := by
  induction names generalizing s with
  | nil => exact sifted_self fun _ _ => rfl
  | cons name later ih =>
      have first := sifted_withoutName nodup name
      have both := first.trans (ih (first.names_nodup nodup))
      have same : (fun e : Entry => e.pack.name != name && !later.contains e.pack.name) =
          fun e => !(name :: later).contains e.pack.name := by
        funext e
        rw [List.contains_cons, Bool.not_or]
        rfl
      rw [same] at both
      exact both

/-- A selection that holds what another one holds: the same entries, versions and marks. -/
structure SameAs (s s' : Selection) : Prop where
  entries : s'.entries = s.entries
  store : s'.store = s.store
  marks : s'.pages.map (·.marked) = s.pages.map (·.marked)

theorem sameAs_of_setJournal (same : Journaled.setJournal {} s' = Journaled.setJournal {} s) :
    s.SameAs s' := by
  rw [eq_setJournal same]
  exact ⟨rfl, rfl, rfl⟩

theorem SameAs.trans (same : s.SameAs s') (same' : s'.SameAs s'') : s.SameAs s'' :=
  ⟨same'.entries.trans same.entries, same'.store.trans same.store, same'.marks.trans same.marks⟩

/-- What is left of a selection is left of any other one that holds the same. -/
theorem SameAs.sifted (same : s.SameAs s') (sifted : s'.Sifted kept s'') : s.Sifted kept s'' where
  entries := same.entries ▸ sifted.entries
  dropped := by
    rw [← same.entries, ← same.store]
    exact sifted.dropped
  others := by
    rw [← same.entries, ← same.store]
    exact sifted.others
  marks := by
    have marks := sifted.marks
    have each (s : Selection) : (s.pages.map fun p => p.marked.filter fun name =>
          !s'.entries.any fun e => !kept e && e.pack.name == name) =
        (s.pages.map (·.marked)).map fun marked => marked.filter fun name =>
          !s'.entries.any fun e => !kept e && e.pack.name == name := by
      rw [List.map_map]
      rfl
    rw [marks, ← same.entries, each s', each s, same.marks]

/-- It is left just as well if a selection holds the same as what is left. -/
theorem Sifted.sameAs (sifted : s.Sifted kept s') (same : s'.SameAs s'') : s.Sifted kept s'' where
  entries := same.entries.trans sifted.entries
  dropped e among goes := by
    rw [same.store]
    exact sifted.dropped e among goes
  others id apart := by
    rw [same.store]
    exact sifted.others id apart
  marks := same.marks.trans sifted.marks

end Selection

end AddonPicker
