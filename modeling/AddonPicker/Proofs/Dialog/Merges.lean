import AddonPicker.Proofs.Dialog.Cancelled
import AddonPicker.Proofs.Dialog.Commit
import AddonPicker.Proofs.Selection.Recording

/-!
# Merges in a dialog

When a check is answered, what the run has found is merged into what was selected when the
confirmation went on, and a review opens over the outcome. What is recorded with a version outlasts
all of this, wherever it stops.
-/

namespace AddonPicker

namespace Selection

theorem entries_setJournal (s : Selection) (j : Journal) :
    (Journaled.setJournal j s).entries = s.entries :=
  rfl

/-- A name has one entry at most, whatever happens. -/
theorem lasting_nodup : Lasting fun s => s.names.Nodup :=
  lasting_of_contents (K := fun _ entries => (entries.map fun e : Entry => e.pack.name).Nodup)
    (fun _ _ nodup => nodup) (fun _ pack version nodup => nodup_names_without nodup pack version)
    fun _ pack version indexed nodup => nodup_names_having nodup pack version indexed

/-- What stays with a version stays whatever happens. -/
theorem lasting_hasAt (id : VersionId) {P : Edited Version → Prop} (lasting : Edited.Lasting P) :
    Lasting fun s => s.store.HasAt id P :=
  lasting_of_contents (K := fun store _ => store.HasAt id P)
    (fun _ c has => hasAt_storeFor lasting has c)
    (fun _ pack version has => hasAt_without lasting has pack version)
    fun _ pack version indexed has => hasAt_having lasting has pack version indexed

end Selection

namespace Session

open Act

/-- A confirmation goes on to the answer of the check of a run, and what was found is merged into
the selection. This is the dialog where the merge ends or breaks off, and the one that is left when
the confirmation waits again or has ended. -/
def Merges (c i : Nat) (s u o : Session) : Prop :=
  ∃ t, Journaled.setJournal {} t.selection = Journaled.setJournal {} s.selection ∧
    ((merge (t.runDependencies i)).perform t).2 = u ∧
      settle c ((afterCheck i).perform t).1 ((afterCheck i).perform t).2 = o

variable {s t u o : Session} {c i : Nat} {r : Run DialogHandler}

theorem runDependencies_congr (same : t.runs = s.runs) :
    t.runDependencies i = s.runDependencies i := by
  rw [runDependencies, same, runDependencies]

namespace Merges

theorem runs (merges : Merges c i s u o) : u.runs = o.runs := by
  obtain ⟨t, -, rfl, rfl⟩ := merges
  rw [runs_settle, leaves_merge isAside_runs, leaves_afterCheck isAside_runs fun _ _ => rfl]

/-- The merge takes in all that was found if nobody refuses anything. -/
theorem takes (merges : Merges c i s u o) (willing : s.selection.IsWilling) :
    ∃ j, u.selection = Journaled.setJournal j (s.selection.takenInAll (u.runDependencies i)) := by
  obtain ⟨t, same, rfl, -⟩ := merges
  have before := Selection.eq_setJournal same
  have willing : t.selection.IsWilling := by
    rw [before]
    exact ⟨willing.pages, willing.listeners⟩
  obtain ⟨j, merged⟩ := exists_perform_merge willing (t.runDependencies i)
  refine ⟨j, ?_⟩
  rw [merged]
  show Journaled.setJournal j (t.selection.takenInAll (t.runDependencies i)) = _
  rw [before, takenInAll_setJournal]
  rfl

/-- Wherever a merge stops of what is a run's own, the entries that it has made stand for what the
run has found. -/
theorem growsBy (merges : Merges c i s u o) (known : u.runs[i]? = some r)
    (own : ∀ d ∈ r.dependencies, d.shared = none) :
    u.selection.GrowsBy s.selection.entries r.dependencies := by
  obtain ⟨t, same, rfl, -⟩ := merges
  rw [leaves_merge isAside_runs] at known
  have found : t.runDependencies i = r.dependencies := by rw [runDependencies, known]
  have before : (Journaled.setJournal {} t.selection).entries =
      (Journaled.setJournal {} s.selection).entries := congrArg Selection.entries same
  have keeps : Keeps (Has (Selection.GrowsBy s.selection.entries r.dependencies))
      (merge r.dependencies) := by
    refine keeps_forM_of_mem fun d carried t grows => ?_
    have apart : t.selection.IsApart [d] :=
      Selection.isApart_of_own fun e among => List.mem_singleton.mp among ▸ own d carried
    have added := keeps_onSelection (Selection.keeps_growsBy_add s.selection.entries r.dependencies
      d.pack (t.selection.idFor d) (.bool true))
    have selects := added.bind fun _ => keeps_pure ()
    exact (selects { t with selection := { t.selection with store := t.selection.storeFor d } }
      (Selection.GrowsBy.storeFor grows carried apart)).1
  rw [found]
  refine keeps t fun e among => .inl ?_
  rw [← show t.selection.entries = s.selection.entries from before]
  exact among

/-- What stays with a version is there from the end of the merge on. -/
theorem hasAt (merges : Merges c i s u o) {id : VersionId} {P : Edited Version → Prop}
    (lasting : Edited.Lasting P) (has : u.selection.store.HasAt id P) :
    o.selection.store.HasAt id P := by
  obtain ⟨t, -, rfl, rfl⟩ := merges
  have upheld := upheld_of_lasting (Selection.lasting_hasAt id lasting)
  have answered := upheld.answered (keeps_aside fun _ => rfl)
  rw [selection_settle]
  rw [afterCheck, perform_bind, perform_get]
  dsimp only
  split
  · -- A run that was skipped hands out nothing, so nothing has been merged.
    rename_i skipped
    have nothing : t.runDependencies i = [] := by
      rw [runState] at skipped
      rw [runDependencies]
      cases known : t.runs[i]? with
      | none => rfl
      | some r =>
          rw [known] at skipped
          refine Run.dependencies_of_state_ne fun succeeded => ?_
          cases skipped.symm.trans succeeded
    rw [nothing] at has
    have rejects := (upheld.say .info "Dependency check aborted, closing the dialog").bind fun _ =>
      upheld.spoken.reject.bind fun _ => keeps_pure (Step.returns false)
    exact rejects t has
  · rw [perform_bind, perform_get]
    exact holds_bind (I := Has fun sel => sel.store.HasAt id P) has fun _ =>
      answered.openReview.keeps

end Merges

/-- A review that opens when a confirmation was in a check opens over the merge of what was found,
which has come to its end. -/
theorem exists_opensOn_of_isChecking {J : Session → Prop}
    (merge : ∀ s i, J s → J ((merge (s.runDependencies i)).perform s).2) (tended : Tended J)
    (confirming : J s → J { s with confirming := true }) (holds : J s)
    (opened : (s.resume c).reviews ≠ s.reviews) :
    ∃ t, OpensOn c s t ∧ J t ∧ ∀ i, s.IsChecking c i → Merges c i s t (s.resume c) ∧
      ∃ j, t.selection =
        Journaled.setJournal j (s.selection.takenInAll (t.runDependencies i)) := by
  by_cases checks : ∃ i, s.IsChecking c i
  · obtain ⟨i, k, known, checking⟩ := checks
    have checks := tended.and ((isAside_reviews.tended (fun _ _ => rfl) s.reviews).and
      ((isFixed_collaborators.tended s.collaborators).and (tended_selection s.selection)))
    have goes := checks.continueConfirm checking k.cancelling s ⟨holds, rfl, rfl, rfl⟩
    obtain ⟨t, u, before, same, answered, merged, opens, takes⟩ :=
      goes.exists_merge (resume_of_isChecking known checking) opened
    have after := merge t i before
    rw [merged] at after
    refine ⟨u, opens, after, fun j checks => ?_⟩
    obtain rfl := Stage.eq_of_isChecking checking (checks.stage known)
    exact ⟨⟨t, same, by rw [merged], answered.symm⟩, takes⟩
  · obtain ⟨t, opens, after⟩ := exists_opensOn merge tended confirming holds opened
    exact ⟨t, opens, after, fun i checking => absurd ⟨i, checking⟩ checks⟩

/-- If a check goes on to open the review, there is a merge. -/
theorem exists_merges (checks : s.IsChecking c i) (opened : (s.resume c).reviews ≠ s.reviews) :
    ∃ t, Merges c i s t (s.resume c) := by
  have tended : Tended fun _ => True := ⟨⟨fun _ _ _ _ => trivial, fun _ _ _ _ _ => trivial⟩,
    fun _ _ _ _ => trivial, fun _ _ _ => trivial, fun _ _ _ => trivial⟩
  obtain ⟨t, -, -, merges⟩ := exists_opensOn_of_isChecking (fun _ _ _ => trivial) tended
    (fun _ => trivial) trivial opened
  exact ⟨t, (merges i checks).1⟩

/-- Whoever refuses nothing at first refuses nothing later. -/
theorem agrees_through {b : Session} (ready : b.selection.IsReady) (patient : b.ui.IsPatient)
    (events : List DialogEvent) :
    (b.through events).ui.IsPatient ∧ (b.through events).selection.IsWilling := by
  rw [ui_eq (collaborators_through b events)]
  exact ⟨patient, (has_through Selection.lasting_isReady events ready).willing⟩

theorem react_resume (ready : s.isReady c = true) :
    s.react (.confirm c i (.check .resume)) = s.resume c :=
  if_pos ready

theorem through_append (b : Session) (earlier later : List DialogEvent) :
    b.through (earlier ++ later) = (b.through earlier).through later :=
  List.foldl_append

end Session

end AddonPicker
