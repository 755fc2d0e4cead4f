import AddonPicker.Proofs.Selection.Ending

/-!
# Marks of what is selected

A page marks a name when a version is picked on it, after the selection has changed. Since every
change of the selection under a name begins with clearing the marks of the name on all pages, a mark
is that of an entry, and no two pages mark the same name.
-/

namespace AddonPicker

theorem Page.Fades.marked_subset {name : String} {p p' : Page} (fades : p.Fades name p') :
    p'.marked ⊆ p.marked := by
  rcases fades with rfl | rfl
  · exact List.Subset.refl _
  · exact fun other shown => (mem_marked_unmark.mp shown).1

/-- Pages of which no two mark the same name. -/
def Page.MarkApart (pages : List Page) : Prop :=
  pages.Pairwise fun p p' => ∀ name ∈ p.marked, name ∉ p'.marked

/-- They still are apart when each of them marks less. -/
theorem Page.MarkApart.of_subset {pages pages' : List Page} (apart : MarkApart pages)
    (fewer : pages.Forall₂ (fun p p' => p'.marked ⊆ p.marked) pages') : MarkApart pages' := by
  induction fewer with
  | nil => exact .nil
  | cons pair pairs ih =>
      obtain ⟨first, later⟩ := List.pairwise_cons.mp apart
      refine List.pairwise_cons.mpr ⟨fun p' among name shown shown' => ?_, ih later⟩
      obtain ⟨p, before, pair'⟩ := exists_mem_of_forall₂ pairs among
      exact first p before name (pair shown) (pair' shown')

/-- A page may mark a name that no other one marks. -/
theorem Page.MarkApart.modify_mark {pages : List Page} (apart : MarkApart pages) {name : String}
    (unmarked : ∀ p ∈ pages, name ∉ p.marked) (position : Nat) :
    MarkApart (pages.modify position (·.mark name)) := by
  rw [MarkApart, List.pairwise_iff_getElem] at apart ⊢
  intro i j first second before other shown shown'
  have first' : i < pages.length := by rwa [List.length_modify] at first
  have second' : j < pages.length := by rwa [List.length_modify] at second
  have apart := apart i j first' second' before other
  rw [List.getElem_modify] at shown shown'
  -- At most one of the two positions is the one where the page marks one name more.
  split at shown
  · rename_i here
    rw [if_neg (by omega)] at shown'
    rcases mem_marked_mark.mp shown with shown | rfl
    · exact apart shown shown'
    · exact unmarked _ (List.getElem_mem second') shown'
  · split at shown'
    · rcases mem_marked_mark.mp shown' with shown' | rfl
      · exact apart shown shown'
      · exact unmarked _ (List.getElem_mem first') shown
    · exact apart shown shown'

namespace Selection

open Act

/-- Pages mark names of entries only, and no two of them mark the same name. -/
structure IsMarked (s : Selection) : Prop where
  selected : ∀ p ∈ s.pages, ∀ name ∈ p.marked, name ∈ s.names
  apart : Page.MarkApart s.pages

variable {s s' : Selection}

theorem IsMarked.of_fades {name : String} (marked : s.IsMarked) (fades : s.Fades name s') :
    s'.IsMarked := by
  obtain ⟨pages, j, pairs, rfl⟩ := fades
  refine ⟨fun p' among other shown => ?_, marked.apart.of_subset ?_⟩
  · obtain ⟨p, before, fades⟩ := exists_mem_of_forall₂ pairs among
    exact marked.selected p before other (fades.marked_subset shown)
  · exact pairs.imp fun _ _ fades => fades.marked_subset

/-- A pack is deselected together with its marks. -/
theorem IsMarked.without (marked : s.IsMarked) (pack : Pack) (version : VersionId) :
    (s.without pack version).IsMarked := by
  refine ⟨fun p' among other shown => ?_, marked.apart.of_subset ?_⟩
  · obtain ⟨p, before, rfl⟩ := List.mem_map.mp among
    obtain ⟨shown, differs⟩ := Page.mem_marked_unmark.mp shown
    exact mem_names_without.mpr ⟨marked.selected p before other shown, differs⟩
  · refine List.forall₂_map_right_iff.mpr (List.forall₂_same.mpr fun p _ => ?_)
    exact Page.Fades.marked_subset (.inr rfl)

theorem IsMarked.having (marked : s.IsMarked) (pack : Pack) (version : VersionId)
    (indexed : Value) : (s.having pack version indexed).IsMarked := by
  have without := marked.without pack version
  refine ⟨fun p among other shown => ?_, without.apart⟩
  rw [names_having]
  exact List.mem_append_left _ (without.selected p among other shown)

theorem IsMarked.of_journal (marked : s.IsMarked) (j : Journal) :
    { s with journal := j }.IsMarked :=
  ⟨marked.selected, marked.apart⟩

/-- However deselecting a pack ends, marks are those of entries. -/
theorem keeps_isMarked_remove (pack : Pack) (version : VersionId) :
    Keeps IsMarked (remove pack version) :=
  keeps_remove (fun _ _ fades marked => marked.of_fades fades)
    fun _ marked => marked.without pack version

/-- So they are however selecting a version ends. -/
theorem keeps_isMarked_add (pack : Pack) (version : VersionId) (indexed : Value) :
    Keeps IsMarked (add pack version indexed) :=
  keeps_add (fun _ _ fades marked => marked.of_fades fades)
    (fun _ marked => marked.without pack version)
    fun _ marked => marked.having pack version indexed

/-- A version that is picked is selected when its page marks it, and nobody else marks it then. -/
theorem keeps_isMarked_pick (position : Nat) (pack : Pack) (version : VersionId) :
    Keeps IsMarked (do
      let _ ← add pack version (.bool false)
      markPage position pack.name) := by
  intro s marked
  have adds := adds_add pack version (.bool false) s
  rw [perform_bind]
  generalize (add pack version (.bool false)).perform s = performed at adds ⊢
  cases adds with
  | refused fades f => exact marked.of_fades fades
  | removed f j => exact (marked.without pack version).of_journal j
  | added result j =>
      have marked : { s.having pack version (.bool false) with journal := j }.IsMarked :=
        (marked.having pack version _).of_journal j
      cases result with
      | error f => exact marked
      | ok e =>
          refine ⟨fun p among other shown => ?_, marked.apart.modify_mark ?_ position⟩
          · obtain ⟨before, known, rfl | rfl⟩ := exists_of_mem_modify among
            · exact marked.selected _ known other shown
            · rcases Page.mem_marked_mark.mp shown with shown | rfl
              · exact marked.selected before known other shown
              · show pack.name ∈ (s.having pack version (.bool false)).names
                rw [names_having]
                exact List.mem_append_right _ (List.mem_singleton_self _)
          · intro p among shown
            obtain ⟨before, known, rfl⟩ := List.mem_map.mp among
            exact (Page.mem_marked_unmark.mp shown).2 rfl

end Selection

end AddonPicker
