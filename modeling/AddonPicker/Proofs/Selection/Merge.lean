import AddonPicker.Dialog.Confirmation
import AddonPicker.Proofs.Selection.Kept

/-!
# Merging resolved choices

A resolved choice is selected with the version that it holds, which inherits the backlinks of the
entry that it replaces. What a merge makes of a selection does not hang on the journal.
-/

namespace AddonPicker

namespace Selection

/-- The backlinks of the entry that a choice replaces. -/
def handedOn (c : Choice) (s : Selection) : List AddonId :=
  match s.get? c.pack.name with
  | some e => s.store.requiredBy e.version
  | none => []

/-- The version of a choice with the backlinks of the entry that it replaces. -/
def inherited (c : Choice) (s : Selection) : Version :=
  (s.handedOn c).foldl (fun v id => v.link id) c.version

/-- The identity that the version of a choice is selected under. -/
def idFor (s : Selection) (c : Choice) : VersionId :=
  (s.store.take c.toHeld).1

/-- The store once it has the version of a choice, with the backlinks that it inherits. -/
def storeFor (s : Selection) (c : Choice) : Store :=
  (s.store.take c.toHeld).2.linkAll (s.idFor c) (s.handedOn c)

/-- The selection once a resolved choice is merged. -/
def takenIn (c : Choice) (s : Selection) : Selection :=
  having c.pack (s.idFor c) (.bool true) { s with store := s.storeFor c }

/-- The selection once resolved choices are merged in order. -/
def takenInAll (cs : List Choice) (s : Selection) : Selection :=
  cs.foldl (fun s c => s.takenIn c) s

variable {t : Terms} {s : Selection}

/-- A version of its own is new to the store, and put in with the backlinks that it inherits. -/
theorem idFor_of_own {c : Choice} (own : c.shared = none) :
    s.idFor c = s.store.versions.length := by
  rw [idFor, Store.take_of_own own, Store.insert_fst]

theorem storeFor_of_own {c : Choice} (own : c.shared = none) :
    s.storeFor c = (s.store.insert (s.inherited c)).2 := by
  rw [storeFor, idFor, Store.take_of_own own, Store.linkAll_insert]
  rfl

theorem on_takenIn (on : s.On t) (c : Choice) : (s.takenIn c).On t :=
  on_having (s := { s with store := s.storeFor c }) ⟨on.pages, on.listeners⟩ c.pack _ _

theorem isCalm_takenIn (calm : s.IsCalm) (c : Choice) : (s.takenIn c).IsCalm :=
  isCalm_having (s := { s with store := s.storeFor c }) ⟨calm.pages, calm.listeners⟩ c.pack _ _

theorem isKept_takenIn (kept : s.IsKept) (c : Choice) : (s.takenIn c).IsKept := by
  have taken : ({ s with store := (s.store.take c.toHeld).2 } : Selection).IsKept ∧
      s.idFor c < (s.store.take c.toHeld).2.versions.length := by
    rw [idFor]
    rcases s.store.take_eq c.toHeld with ⟨id, -, known, taken⟩ | taken
    · rw [taken]
      exact ⟨⟨kept.plain, kept.known⟩, known⟩
    · rw [taken]
      refine ⟨⟨fun e among => ?_, fun e among => ?_⟩, by simp⟩
      · rcases List.mem_append.mp among with before | new
        · exact kept.plain e before
        · rw [List.mem_singleton.mp new]
          exact Edited.isPlain_ofBase _
      · show e.version < (s.store.versions ++ [_]).length
        rw [List.length_append]
        exact Nat.lt_add_right _ (kept.known e among)
  obtain ⟨taken, inside⟩ := taken
  have plain := plain_modify taken.plain (s.idFor c) (f := Edited.linkAll (s.handedOn c))
    fun _ plain => ⟨plain.unset, plain.whole⟩
  have length : (s.storeFor c).versions.length = (s.store.take c.toHeld).2.versions.length :=
    Store.length_versions_modify _ _ _
  exact isKept_having (s := { s with store := s.storeFor c })
    ⟨plain, fun e among => length ▸ taken.known e among⟩ c.pack (length ▸ inside) _

theorem isNamed_takenIn {naming : Naming} (named : s.IsNamed naming) {c : Choice}
    (covered : ∃ name, naming.readable c.pack.provider = .ok name) :
    (s.takenIn c).IsNamed naming := by
  intro e among
  rcases mem_entries_having.mp among with ⟨before, -⟩ | rfl
  · exact named e before
  · exact covered

theorem isCalm_takenInAll (calm : s.IsCalm) (cs : List Choice) : (s.takenInAll cs).IsCalm := by
  induction cs generalizing s with
  | nil => exact calm
  | cons c later ih => exact ih (isCalm_takenIn calm c)

theorem isKept_takenInAll (kept : s.IsKept) (cs : List Choice) : (s.takenInAll cs).IsKept := by
  induction cs generalizing s with
  | nil => exact kept
  | cons c later ih => exact ih (isKept_takenIn kept c)

theorem isNamed_takenInAll {naming : Naming} (named : s.IsNamed naming) (cs : List Choice)
    (covered : ∀ c ∈ cs, ∃ name, naming.readable c.pack.provider = .ok name) :
    (s.takenInAll cs).IsNamed naming := by
  induction cs generalizing s with
  | nil => exact named
  | cons c later ih =>
      have taken := isNamed_takenIn named (covered c List.mem_cons_self)
      exact ih taken fun c among => covered c (List.mem_cons_of_mem _ among)

end Selection

instance : LawfulJournaled Session where
  journal_setJournal _ _ := rfl
  setJournal_setJournal _ _ _ := rfl

namespace Session

open Act

variable {α : Type} {t : Terms} {s : Session}

/-- What an action on the selection does there, it does to a dialog. -/
theorem does_onSelection {a : Act Selection α} {result : Except Fault α} {told : List UiCall}
    {after : Selection} (done : Does a result told s.selection after) :
    Does (onSelection a) result told s { s with selection := after } := by
  intro j
  obtain ⟨j', performed, news⟩ := done j
  refine ⟨j', ?_, news⟩
  rw [onSelection, perform_onPart]
  have same : (Journaled.setJournal j s).selection = Journaled.setJournal j s.selection := rfl
  rw [same, performed]
  rfl

theorem meets_onSelection {a : Act Selection α} {result : Except Fault α} {after : Selection}
    (meets : Meets t a result s.selection after) :
    Meets t (onSelection a) result s { s with selection := after } := by
  intro j
  have same : (Journaled.setJournal j s).selection = Journaled.setJournal j s.selection := rfl
  rw [onSelection, perform_onPart, same]
  rcases meets j with ⟨j', performed, left⟩ | ⟨may, f, after, failed⟩
  · rw [performed]
    exact .inl ⟨j', rfl, left⟩
  · rw [failed]
    exact .inr ⟨may, f, _, rfl⟩

/-- What merging a choice comes to. -/
theorem meets_mergeOne (on : s.selection.On t) (c : Choice) :
    Meets t (mergeOne c) (.ok ()) s { s with selection := s.selection.takenIn c } := by
  let inserted : Selection := { s.selection with store := s.selection.storeFor c }
  have kept : Meets t (onSelection (modify fun sel => { sel with
      store := s.selection.storeFor c })) (.ok ()) s
      { s with selection := inserted } := meets_onSelection (meets_modify fun _ => rfl)
  have ready : inserted.On t := ⟨on.pages, on.listeners⟩
  have selected : Meets t (add c.pack (s.selection.idFor c) (.bool true)) _
      { s with selection := inserted } { s with selection := s.selection.takenIn c } :=
    meets_onSelection (Selection.meets_add ready c.pack _ _)
  have later := kept.bind (f := fun _ => add c.pack _ (.bool true) >>= fun _ => pure ())
    (selected.bind (meets_pure ()))
  exact meets_get_bind fun _ => meets_get_bind fun _ => later

/-- What merging choices comes to. -/
theorem meets_merge (on : s.selection.On t) (cs : List Choice) :
    Meets t (merge cs) (.ok ()) s { s with selection := s.selection.takenInAll cs } := by
  induction cs generalizing s with
  | nil => exact meets_pure ()
  | cons c later ih =>
      have rest := ih (s := { s with selection := s.selection.takenIn c })
        (Selection.on_takenIn on c)
      exact (meets_mergeOne on c).bind (f := fun _ => merge later) rest

variable (calm : s.selection.IsCalm)

include calm

theorem does_add (pack : Pack) (version : VersionId) (indexed : Value) :
    Does (add pack version indexed) (.ok { pack, version, indexed }) [] s
      { s with selection := s.selection.having pack version indexed } :=
  does_onSelection (Selection.does_add calm pack version indexed)

theorem does_remove (pack : Pack) (version : VersionId) :
    Does (remove pack version) (.ok ()) [] s
      { s with selection := s.selection.without pack version } :=
  does_onSelection (Selection.does_remove calm pack version)

/-- Merging choices comes to its end. -/
theorem does_merge (cs : List Choice) :
    Does (merge cs) (.ok ()) [] s { s with selection := s.selection.takenInAll cs } :=
  (meets_merge calm.on cs).does

end Session

end AddonPicker
