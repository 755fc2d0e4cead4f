import AddonPicker.Proofs.Dialog.Sustained
import AddonPicker.Proofs.Selection.Ending

/-!
# What lasts through a dialog

A dialog changes its selection in few ways: packs are selected and deselected, the store takes in
choices that are to be selected, and search terms follow the pages. Whatever is kept by these, and
by the journal that is written meanwhile, holds through everything that may happen to a dialog, in
whatever order and wherever a collaborator fails.
-/

namespace AddonPicker

open Act

/-- What is kept by everything that a dialog does with its selection. -/
structure Selection.Lasting (I : Selection → Prop) : Prop where
  write : ∀ s level message, I s → I { s with journal := s.journal.write level message }
  lookup : ∀ s l, I s → I { s with journal := s.journal.noteLookup l }
  note : ∀ s (e : Event), e.isButton = false → I s → I { s with journal := s.journal.note e }
  store : ∀ s c, I s → I { s with store := s.storeFor c }
  term : ∀ s position term, I s →
    I { s with pages := s.pages.modify position fun p => { p with searchTerm := term } }
  add : ∀ pack version indexed, Keeps I (Selection.add pack version indexed)
  remove : ∀ pack version, Keeps I (Selection.remove pack version)
  pick : ∀ position pack version, Keeps I (do
    let _ ← Selection.add pack version (.bool false)
    Selection.markPage position pack.name)

/-- What hangs on the versions and the entries alone lasts, if it is kept when a choice is taken in,
when a pack is deselected and when a version of it is selected. -/
theorem Selection.lasting_of_contents {K : Store → List Entry → Prop}
    (store : ∀ (s : Selection) c, K s.store s.entries → K (s.storeFor c) s.entries)
    (without : ∀ (s : Selection) pack version, K s.store s.entries →
      K (s.without pack version).store (s.without pack version).entries)
    (having : ∀ (s : Selection) pack version indexed, K s.store s.entries →
      K (s.having pack version indexed).store (s.having pack version indexed).entries) :
    Selection.Lasting fun s => K s.store s.entries := by
  have fades (s s' : Selection) (name : String) (faded : s.Fades name s')
      (holds : K s.store s.entries) : K s'.store s'.entries := by
    obtain ⟨pages, j, -, rfl⟩ := faded
    exact holds
  have adds (pack : Pack) (version : VersionId) (indexed : Value) :
      Keeps (fun s => K s.store s.entries) (Selection.add pack version indexed) :=
    keeps_add (fun s s' => fades s s' _) (fun s => without s pack version)
      fun s => having s pack version indexed
  exact
    { write := fun _ _ _ holds => holds
      lookup := fun _ _ holds => holds
      note := fun _ _ _ holds => holds
      store
      term := fun _ _ _ holds => holds
      add := adds
      remove := fun pack version =>
        keeps_remove (fun s s' => fades s s' _) fun s => without s pack version
      pick := fun _ pack version =>
        (adds pack version _).bind fun _ => keeps_modify fun _ holds => holds }

namespace Session

/-- A dialog whose selection has a property. -/
def Has (I : Selection → Prop) (s : Session) : Prop :=
  I s.selection

/-- Two actions on the selection are one. -/
theorem perform_onSelection_bind {α β : Type} (a : Act Selection α) (f : α → Act Selection β)
    (s : Session) :
    (onSelection a >>= fun x => onSelection (f x)).perform s =
      (onSelection (a >>= f)).perform s := by
  rw [perform_bind, onSelection, onSelection, perform_onPart, perform_onPart, perform_bind]
  generalize a.perform s.selection = performed
  obtain ⟨result, sel⟩ := performed
  cases result with
  | error f => rfl
  | ok x => rfl

variable {I : Selection → Prop}

theorem keeps_onSelection {α : Type} {a : Act Selection α} (keeps : Keeps I a) :
    Keeps (Has I) (onSelection a) :=
  keeps_onPart (fun _ _ => rfl) keeps

/-- What is changed beside the selection has no part in it. -/
theorem keeps_aside {f : Session → Session} (same : ∀ s, (f s).selection = s.selection) :
    Keeps (Has I) (modify f) :=
  fun s holds => (congrArg I (same s)).mpr holds

section

variable (lasting : Selection.Lasting I)

include lasting

/-- A choice is taken into the store, and then its version is selected. -/
theorem keeps_mergeOne (c : Choice) : Keeps (Has I) (mergeOne c) := by
  intro s holds
  have taken : Has I { s with selection := { s.selection with store := s.selection.storeFor c } } :=
    lasting.store _ _ holds
  have selects := (keeps_onSelection (lasting.add c.pack (s.selection.idFor c)
    (.bool true))).bind fun _ => keeps_pure ()
  exact selects _ taken

theorem upheld_of_lasting : Upheld (Has I) where
  say level message := keeps_modify fun s => lasting.write s.selection level message
  note e other := keeps_modify fun s => lasting.note s.selection e other
  keepSetting _ _ := keeps_aside fun _ => rfl
  add pack version indexed := keeps_onSelection (lasting.add pack version indexed)
  remove pack version := keeps_onSelection (lasting.remove pack version)
  mergeOne := keeps_mergeOne lasting

theorem keeps_pick (page : Nat) (pack : Pack) (version : VersionId) :
    Keeps (Has I) (pick page pack version) := by
  intro s holds
  rw [pick, add, perform_onSelection_bind]
  exact keeps_onSelection (lasting.pick page pack version) s holds

/-- Runs are none of the selection. -/
theorem tended_of_lasting : Tended (Has I) where
  say := (upheld_of_lasting lasting).say
  note e other _ := (upheld_of_lasting lasting).note e other
  adopt _ _ _ holds := holds
  start := keeps_start_of_setRun fun _ _ => keeps_aside fun _ => rfl
  abort := keeps_abort_of_setRun (upheld_of_lasting lasting).say
    fun _ _ => keeps_aside fun _ => rfl

theorem sustained_of_lasting :
    Sustained (fun _ => True) (fun _ _ _ => True) (Has I) where
  toAnswered := (upheld_of_lasting lasting).answered (keeps_aside fun _ => rfl)
  adopt := (tended_of_lasting lasting).adopt
  start := (tended_of_lasting lasting).start
  abort := (tended_of_lasting lasting).abort
  move _ _ _ _ holds := (tended_of_lasting lasting).transition holds (fun _ _ => holds)
    fun _ holds => holds
  lookup l := keeps_modify fun s => lasting.lookup s.selection l
  pick page pack version _ := keeps_pick lasting page pack version
  search page term := keeps_onSelection (keeps_modify fun s => lasting.term s page term)
  shown _ _ holds := holds
  container _ _ holds := holds
  confirming _ _ holds := holds
  confirmations _ _ _ holds := holds
  stages _ _ _ _ _ plan _ := plan.isHanded_all

end

/-- What may be handed in and heard at all times is fit for every history. -/
theorem admits_all (s : Session) (events : List DialogEvent) :
    s.Admits (IsFit (fun _ => True) fun _ _ _ => True) events := by
  refine admits_of_forall (fun e _ s => ?_) s
  unfold IsFit
  split <;> trivial

/-- What lasts holds through everything that happens to a dialog. -/
theorem has_through {s : Session} (lasting : Selection.Lasting I) (events : List DialogEvent)
    (holds : s.Has I) : (s.through events).Has I :=
  (sustained_of_lasting lasting).through (s.admits_all events) holds

section

variable {ι : Type} {part : Session → ι}

/-- A part of a dialog that does not hang on what is shown is left alone by switching pages. -/
theorem IsAside.browsed (aside : IsAside part) (shown : ∀ shown s, part { s with shown } = part s)
    (container : ∀ container s, part { s with container } = part s) (x : ι) :
    Browsed fun s => part s = x where
  say := (aside.upheld x).say
  search _ _ := leaves_iff.mp (leaves_onSelection aside _) x
  shown s page holds := (shown page s).trans holds
  container s pages holds := (container pages s).trans holds

/-- A part of a dialog that nothing touches but what happens to confirmations as such. -/
structure IsOutside (part : Session → ι) : Prop extends IsAside part where
  reviews : ∀ reviews s, part { s with reviews } = part s
  runs : ∀ runs s, part { s with runs } = part s
  shown : ∀ shown s, part { s with shown } = part s
  container : ∀ container s, part { s with container } = part s

namespace IsOutside

variable (outside : IsOutside part) (x : ι)

include outside

theorem answered : Answered (fun _ => True) fun s => part s = x :=
  outside.toIsAside.answered outside.reviews x

theorem tended : Tended fun s => part s = x :=
  outside.toIsAside.tended outside.runs x

theorem browsed : Browsed fun s => part s = x :=
  outside.toIsAside.browsed outside.shown outside.container x

end IsOutside

/-- A part of a dialog that nothing touches at all. -/
structure IsFixed (part : Session → ι) : Prop extends IsOutside part where
  confirming : ∀ confirming s, part { s with confirming } = part s
  confirmations : ∀ confirmations s, part { s with confirmations } = part s

theorem IsFixed.sustained (fixed : IsFixed part) (x : ι) :
    Sustained (fun _ => True) (fun _ _ _ => True) fun s => part s = x where
  toAnswered := fixed.answered x
  adopt := (fixed.tended x).adopt
  start := (fixed.tended x).start
  abort := (fixed.tended x).abort
  move s _ _ _ holds := (fixed.tended x).transition holds
    (fun _ _ => (fixed.runs _ s).trans holds) fun s holds => (fixed.runs _ s).trans holds
  lookup _ := leaves_iff.mp (leaves_editJournal fixed.toIsAside _) x
  pick page pack version _ := leaves_iff.mp (leaves_pick fixed.toIsAside page pack version) x
  search := (fixed.browsed x).search
  shown := (fixed.browsed x).shown
  container := (fixed.browsed x).container
  confirming s confirming holds := (fixed.confirming confirming s).trans holds
  confirmations s ks _ holds := (fixed.confirmations ks s).trans holds
  stages _ _ _ _ _ plan _ := plan.isHanded_all

end

/-- What a dialog was given when it was made, but for what it is to keep. -/
def collaborators (s : Session) :=
  (s.type, s.target, s.config, s.naming, s.reference, s.served, s.ui, s.surface, s.reviewPlan)

theorem isFixed_collaborators : IsFixed collaborators where
  selection _ _ := rfl
  settings _ _ := rfl
  reviews _ _ := rfl
  runs _ _ := rfl
  shown _ _ := rfl
  container _ _ := rfl
  confirming _ _ := rfl
  confirmations _ _ := rfl

theorem ui_eq {s t : Session} (same : t.collaborators = s.collaborators) : t.ui = s.ui :=
  congrArg (·.2.2.2.2.2.2.1) same

theorem reviewPlan_eq {s t : Session} (same : t.collaborators = s.collaborators) :
    t.reviewPlan = s.reviewPlan :=
  congrArg (·.2.2.2.2.2.2.2.2) same

theorem collaborators_through (s : Session) (events : List DialogEvent) :
    (s.through events).collaborators = s.collaborators :=
  (isFixed_collaborators.sustained s.collaborators).through (s.admits_all events) rfl

end Session

end AddonPicker
