import AddonPicker.Proofs.Frame
import AddonPicker.Proofs.Selection.Kept
import Mathlib.Data.List.Forall2

/-!
# How changes of the selection end

Pages and listeners may refuse what a change asks of them, and a change that is refused stops where
it is. Deselecting a pack has two ends all the same: a page refuses, and then some marks of the name
are gone and that is all; or the pack is deselected, whatever the listeners say to it. Selecting a
version ends in one of these ways too, when what it begins with fails, or else it is selected,
again whatever the listeners say.
-/

namespace AddonPicker

/-- A page that may have lost its mark of a name, and is as before otherwise. -/
def Page.Fades (name : String) (p p' : Page) : Prop :=
  p' = p ∨ p' = p.unmark name

theorem Page.unmark_unmark (name : String) (p : Page) :
    (p.unmark name).unmark name = p.unmark name := by
  simp only [unmark, List.filter_filter, Bool.and_self]

theorem Page.Fades.unmark {name : String} {p p' : Page} (fades : p.Fades name p') :
    p.Fades name (p'.unmark name) := by
  rcases fades with rfl | rfl
  · exact .inr rfl
  · exact .inr (unmark_unmark name p)

/-- What is paired with a list has members of it behind its own. -/
theorem exists_mem_of_forall₂ {α β : Type} {R : α → β → Prop} {xs : List α} {ys : List β}
    (pairs : List.Forall₂ R xs ys) {y : β} (among : y ∈ ys) : ∃ x ∈ xs, R x y := by
  induction pairs with
  | nil => exact absurd among List.not_mem_nil
  | cons pair _ ih =>
      rcases List.mem_cons.mp among with rfl | later
      · exact ⟨_, List.mem_cons_self, pair⟩
      · obtain ⟨x, inside, pair⟩ := ih later
        exact ⟨x, List.mem_cons_of_mem _ inside, pair⟩

namespace Selection

open Act

/-- A selection some of whose pages may have lost their mark of a name. -/
def Fades (name : String) (s s' : Selection) : Prop :=
  ∃ pages j, s.pages.Forall₂ (Page.Fades name) pages ∧ s' = { s with pages, journal := j }

/-- How the clearing of a mark on a page ends: it is cleared, or the page refuses and nothing has
happened. -/
inductive Clears (name : String) (position : Nat) (s : Selection) :
    Except Fault Unit × Selection → Prop
  | cleared (j : Journal) : Clears name position s
      (.ok (), { s with pages := s.pages.modify position (·.unmark name), journal := j })
  | refused (f : Fault) (j : Journal) : Clears name position s (.error f, { s with journal := j })

/-- How deselecting a pack ends. -/
inductive Removes (pack : Pack) (version : VersionId) (s : Selection) :
    Except Fault Unit × Selection → Prop
  | refused {s' : Selection} (fades : s.Fades pack.name s') (f : Fault) :
      Removes pack version s (.error f, s')
  | removed (result : Except Fault Unit) (j : Journal) :
      Removes pack version s (result, { s.without pack version with journal := j })

/-- How selecting a version of a pack ends. -/
inductive Adds (pack : Pack) (version : VersionId) (indexed : Value) (s : Selection) :
    Except Fault Entry × Selection → Prop
  | refused {s' : Selection} (fades : s.Fades pack.name s') (f : Fault) :
      Adds pack version indexed s (.error f, s')
  | removed (f : Fault) (j : Journal) :
      Adds pack version indexed s (.error f, { s.without pack version with journal := j })
  | added (result : Except Fault Entry) (j : Journal) :
      Adds pack version indexed s (result, { s.having pack version indexed with journal := j })

variable {s s' : Selection} {α : Type}

/-- What only writes into the journal. -/
theorem exists_journal {a : Act Selection α} (leaves : Leaves (Journaled.setJournal {}) a)
    (s : Selection) : ∃ j, (a.perform s).2 = { s with journal := j } :=
  ⟨_, eq_setJournal (leaves s)⟩

theorem leaves_notify : Leaves (Journaled.setJournal {}) notify := by
  refine leaves_get_bind fun s => leaves_forM (fun l => ?_) _
  have heard : Leaves (Journaled.setJournal {}) (get >>= fun now : Selection =>
      failOn (l.refusal now.journal.events s.isEmpty)) := leaves_get_bind fun _ => leaves_failOn _
  dsimp only
  split
  · exact (leaves_edit (fun _ _ => rfl) _).bind fun _ => heard
  · exact heard

theorem clears_clearPage (name : String) (position : Nat) (s : Selection) :
    s.Clears name position ((clearPage name position).perform s) := by
  rw [clearPage, perform_bind, perform_get]
  dsimp only
  cases found : s.pages[position]? with
  | none =>
      have outside : s.pages.length ≤ position := List.getElem?_eq_none_iff.mp found
      have cleared : s.Clears name position _ := .cleared s.journal
      rw [List.modify_eq_self outside] at cleared
      exact cleared
  | some p =>
      have asked (j : Journal) : s.Clears name position ((get >>= fun now : Selection => do
          Act.failOn (p.refusal now.journal.events name)
          modify fun s => { s with pages := s.pages.modify position (·.unmark name) }
        : Act Selection Unit).perform { s with journal := j }) := by
        rw [perform_bind, perform_get]
        dsimp only
        cases p.refusal j.events name with
        | none => exact .cleared j
        | some f => exact .refused f j
      dsimp only
      cases p.note name with
      | none => exact asked s.journal
      | some e => exact asked (s.journal.note e)

/-- Clearing a mark more keeps what is known of the pages that were passed. -/
theorem Fades.clearPage {name : String} {position : Nat} {performed : Except Fault Unit × Selection}
    (fades : s.Fades name s') (clears : s'.Clears name position performed) :
    s.Fades name performed.2 := by
  obtain ⟨pages, j, pairs, rfl⟩ := fades
  cases clears with
  | cleared j' =>
      refine ⟨_, j', ?_, rfl⟩
      rw [List.forall₂_iff_get] at pairs ⊢
      obtain ⟨length, each⟩ := pairs
      refine ⟨by rw [List.length_modify, length], fun i before after => ?_⟩
      have inside : i < pages.length := by rwa [List.length_modify] at after
      have fades := each i before inside
      simp only [List.get_eq_getElem, List.getElem_modify] at fades ⊢
      split
      · exact fades.unmark
      · exact fades
  | refused f j' => exact ⟨pages, j', pairs, rfl⟩

theorem Fades.refl (name : String) (s : Selection) : s.Fades name s :=
  ⟨s.pages, s.journal, List.forall₂_same.mpr fun _ _ => .inl rfl, rfl⟩

/-- Clearing the marks of a name page by page gets to its end, or to where a page refuses. -/
theorem perform_forM_clearPage {name : String} (positions : List Nat)
    (fades : s.Fades name s') :
    (∃ j, (positions.forM (clearPage name)).perform s' = (.ok (), { s' with
      pages := positions.foldl (fun pages i => pages.modify i (·.unmark name)) s'.pages
      journal := j })) ∨
      ∃ f s'', (positions.forM (clearPage name)).perform s' = (.error f, s'') ∧
        s.Fades name s'' := by
  induction positions generalizing s' with
  | nil => exact .inl ⟨s'.journal, rfl⟩
  | cons position later ih =>
      have clears := clears_clearPage name position s'
      have fades := fades.clearPage clears
      have step : (position :: later).forM (clearPage name) =
          (do clearPage name position; later.forM (clearPage name)) := rfl
      rw [step, perform_bind]
      generalize (clearPage name position).perform s' = performed at clears fades
      cases clears with
      | cleared j => exact ih fades
      | refused f j => exact .inr ⟨f, _, rfl, fades⟩

theorem perform_clearMarks (name : String) (s : Selection) :
    (∃ j, (clearMarks name).perform s =
      (.ok (), { s with pages := s.pages.map (·.unmark name), journal := j })) ∨
      ∃ f s', (clearMarks name).perform s = (.error f, s') ∧ s.Fades name s' := by
  have performed := perform_forM_clearPage (List.range s.pages.length) (Fades.refl name s)
  rw [foldl_modify_range] at performed
  exact performed

theorem removes_remove (pack : Pack) (version : VersionId) (s : Selection) :
    s.Removes pack version ((remove pack version).perform s) := by
  rw [remove_eq, perform_bind]
  rcases perform_clearMarks pack.name s with ⟨j, performed⟩ | ⟨f, s', performed, fades⟩
  · rw [performed]
    obtain ⟨j', dropped, -⟩ := (meets_drop (s := s) pack version).does j
    have dropped : (drop pack version).perform
        { s with pages := s.pages.map (·.unmark pack.name), journal := j } =
          (.ok (), { s.without pack version with journal := j' }) := dropped
    dsimp only
    rw [perform_bind, dropped]
    dsimp only
    obtain ⟨j'', told⟩ := exists_journal leaves_notify { s.without pack version with journal := j' }
    generalize notify.perform _ = ended at told ⊢
    obtain ⟨result, s'⟩ := ended
    obtain rfl : s' = { s.without pack version with journal := j'' } := told
    exact .removed result j''
  · rw [performed]
    exact .refused fades f

theorem adds_add (pack : Pack) (version : VersionId) (indexed : Value) (s : Selection) :
    s.Adds pack version indexed ((add pack version indexed).perform s) := by
  have removes := removes_remove pack version s
  rw [add_eq, perform_bind]
  generalize (remove pack version).perform s = performed at removes ⊢
  cases removes with
  | refused fades f => exact .refused fades f
  | removed result j =>
      cases result with
      | error f => exact .removed f j
      | ok _ =>
          obtain ⟨j', entered, -⟩ := (meets_enter (s := s) pack version indexed).does j
          have entered : (enter pack version indexed).perform
              { s.without pack version with journal := j } =
                (.ok (), { s.having pack version indexed with journal := j' }) := entered
          dsimp only
          rw [perform_bind, entered]
          dsimp only
          have told : Leaves (Journaled.setJournal {}) (do
              notify
              return { pack, version, indexed } : Act Selection Entry) :=
            leaves_notify.bind fun _ => leaves_pure _
          obtain ⟨j'', told⟩ :=
            exists_journal told { s.having pack version indexed with journal := j' }
          generalize Act.perform (α := Entry) _ _ = ended at told ⊢
          obtain ⟨result, s'⟩ := ended
          obtain rfl : s' = { s.having pack version indexed with journal := j'' } := told
          exact .added result j''

section

variable {I : Selection → Prop} {pack : Pack} {version : VersionId}
  (fades : ∀ s s', s.Fades pack.name s' → I s → I s')

include fades

theorem keeps_journal (j : Journal) (holds : I s) : I { s with journal := j } :=
  fades s _ ⟨s.pages, j, List.forall₂_same.mpr fun _ _ => .inl rfl, rfl⟩ holds

/-- What is kept by both ends of deselecting a pack is kept by it. -/
theorem keeps_remove (without : ∀ s, I s → I (s.without pack version)) :
    Keeps I (remove pack version) := by
  intro s holds
  have removes := removes_remove pack version s
  generalize (remove pack version).perform s = performed at removes ⊢
  cases removes with
  | refused faded f => exact fades s _ faded holds
  | removed result j => exact keeps_journal fades j (without s holds)

/-- What is kept by all ends of selecting a version is kept by it. -/
theorem keeps_add {indexed : Value} (without : ∀ s, I s → I (s.without pack version))
    (having : ∀ s, I s → I (s.having pack version indexed)) :
    Keeps I (add pack version indexed) := by
  intro s holds
  have adds := adds_add pack version indexed s
  generalize (add pack version indexed).perform s = performed at adds ⊢
  cases adds with
  | refused faded f => exact fades s _ faded holds
  | removed f j => exact keeps_journal fades j (without s holds)
  | added result j => exact keeps_journal fades j (having s holds)

end

end Selection

end AddonPicker
