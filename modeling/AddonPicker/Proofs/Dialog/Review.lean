import AddonPicker.Proofs.Selection.Merge

/-!
# Going through a review

What a user does in a review takes the box and the selection on side by side. A review that is
approved drops what is not ticked and closes the dialog, one that is declined leaves everything as
the user left it.
-/

namespace AddonPicker

/-- The news among calls, as far as a user interface has operations for them. -/
def Ui.shown (ui : Ui) (calls : List UiCall) : List UiCall :=
  calls.filter fun c => c.isNews && !ui.omits c.method

theorem Ui.shown_append (ui : Ui) (calls calls' : List UiCall) :
    ui.shown (calls ++ calls') = ui.shown calls ++ ui.shown calls' :=
  List.filter_append calls calls'

/-- A call of a user interface is news as far as it shows something, also if it fails. -/
theorem Ui.perform_call {σ : Type} [Journaled σ] [LawfulJournaled σ] (ui : Ui) (c : UiCall) (s : σ)
    (j : Journal) :
    ∃ j' : Journal,
      (ui.call c : Act σ Unit).perform (Journaled.setJournal j s) =
        (if ui.omits c.method then .ok () else (ui.refusal j'.events c).elim (.ok ()) .error,
          Journaled.setJournal j' s) ∧
      j'.news = j.news ++ ui.shown [c] := by
  rw [Ui.call, Ui.shown]
  cases omitted : ui.omits c.method with
  | true =>
      refine ⟨j, rfl, ?_⟩
      simp [omitted]
  | false =>
      obtain ⟨j', noted, news⟩ := Act.does_note (s := s) (.ui c) j
      refine ⟨j', ?_, ?_⟩
      · show (Journaled.note (.ui c) >>= fun _ => get >>= _ : Act σ Unit).perform _ = _
        rw [Act.perform_bind, noted]
        dsimp only
        rw [Act.perform_bind, Act.perform_get]
        dsimp only
        rw [LawfulJournaled.journal_setJournal]
        cases ui.refusal j'.events c <;> rfl
      · rw [news]
        cases seen : c.isNews <;> simp [omitted, seen, Event.news?]

/-- A call that a user interface accepts comes to its end. -/
theorem Ui.does_call {σ : Type} [Journaled σ] [LawfulJournaled σ] {ui : Ui} {c : UiCall} {s : σ}
    (accepted : ∀ events, ui.refusal events c = none) :
    Act.Does (ui.call c : Act σ Unit) (.ok ()) (ui.shown [c]) s s := by
  intro j
  obtain ⟨j', called, news⟩ := ui.perform_call c s j
  rw [accepted, Option.elim_none, ite_self] at called
  exact ⟨j', called, news⟩

/-- A user interface that fails at most where it shows an error or warnings. -/
def Ui.IsPatient (ui : Ui) : Prop :=
  ∀ events c, c.method ≠ .showError → c.method ≠ .showWarnings → ui.refusal events c = none

/-- The listener of a dialog is calm. -/
theorem Session.isCalm_confirmListener {ui : Ui} (patient : ui.IsPatient) :
    (Session.confirmListener ui).IsCalm := by
  refine ⟨fun empty size e noted => ?_, fun events empty => ?_⟩
  · change (if ui.omits .setConfirmEnabled then none else some _) = some e at noted
    split at noted
    · exact nomatch noted
    · cases noted
      rfl
  · show (if ui.omits .setConfirmEnabled then none else ui.refusal events _) = none
    split
    · rfl
    · exact patient events _ (fun same => nomatch same) fun same => nomatch same

/-- The box after a move of a user, which may fail. -/
def ReviewBox.moved (box : ReviewBox) : ReviewMove → Except Fault ReviewBox
  | .untick position => .ok (box.untick position)
  | .setEnabled name enabled => box.setEnabled name enabled
  | .remove _ _ => .ok box
  | .add _ _ => .ok box

/-- The selection after a move of a user. -/
def Selection.moved (s : Selection) : ReviewMove → Selection
  | .untick _ => s
  | .setEnabled _ _ => s
  | .remove pack version => s.without pack version
  | .add pack version => s.having pack version (.bool false)

/-- The selection after a review that left a box behind. -/
def ReviewPlan.concluded (plan : ReviewPlan) (box : ReviewBox) (s : Selection) : Selection :=
  let s := plan.moves.foldl Selection.moved s
  if plan.approves then s.withoutNames box.deselected else s

namespace Selection

variable {s : Selection}

theorem isCalm_moved (calm : s.IsCalm) (m : ReviewMove) : (s.moved m).IsCalm := by
  cases m with
  | remove pack version => exact isCalm_without calm pack version
  | add pack version => exact isCalm_having calm pack version _
  | _ => exact calm

theorem on_withoutName {t : Terms} (on : s.On t) (name : Value) : (s.withoutName name).On t := by
  rw [withoutName]
  split
  · exact on_without on _ _
  · exact on

/-- What a review presents does not hang on the journal. -/
theorem review_setJournal (s : Selection) (naming : Naming) (box : ReviewBox) (j : Journal) :
    (Journaled.setJournal j s).review naming box = s.review naming box := by
  have appended (entries : List Entry) (box : ReviewBox) :
      (Journaled.setJournal j s).appendRows naming entries box =
        s.appendRows naming entries box := by
    induction entries generalizing box with
    | nil => rfl
    | cons e later ih =>
        have same : (Journaled.setJournal j s).row naming e = s.row naming e := rfl
        rw [appendRows, appendRows, same]
        cases s.row naming e with
        | ok r => exact ih (box.put r)
        | error f => rfl
  exact appended s.sortedEntries box

end Selection

namespace ReviewBox

/-- Ticking and unticking is marking, if it comes to its end. -/
theorem eq_mark_of_setEnabled {b b' : ReviewBox} {name enabled : Value}
    (made : b.setEnabled name enabled = .ok b') : b' = b.mark name enabled := by
  rw [setEnabled] at made
  cases found : b.find name with
  | error f =>
      rw [found] at made
      exact nomatch made
  | ok row =>
      rw [found] at made
      cases row with
      | none => exact nomatch made
      | some row =>
          cases made
          rfl

theorem isNamed_moved {b b' : ReviewBox} (named : b.IsNamed) {m : ReviewMove}
    (made : b.moved m = .ok b') : b'.IsNamed := by
  cases m with
  | untick position =>
      cases made
      exact isNamed_untick named position
  | setEnabled name enabled =>
      rw [eq_mark_of_setEnabled made]
      exact isNamed_mark named name enabled
  | remove pack version =>
      cases made
      exact named
  | add pack version =>
      cases made
      exact named

theorem isNamed_foldlM {moves : List ReviewMove} {b b' : ReviewBox} (named : b.IsNamed)
    (made : moves.foldlM moved b = .ok b') : b'.IsNamed := by
  induction moves generalizing b with
  | nil =>
      cases made
      exact named
  | cons m later ih =>
      rw [List.foldlM_cons] at made
      cases first : b.moved m with
      | ok next =>
          rw [first] at made
          exact ih (isNamed_moved named first) made
      | error f =>
          rw [first] at made
          exact nomatch made

theorem isHashable_of_mem_deselected {b : ReviewBox} (named : b.IsNamed) {name : Value}
    (among : name ∈ b.deselected) : name.isHashable = true := by
  obtain ⟨r, known, rfl⟩ := List.mem_map.mp among
  exact named r (List.mem_filter.mp known).1

end ReviewBox

namespace Session

open Act

variable {α β : Type} {s s' s'' : Session} {told told' : List UiCall}

/-- As `Act.Does`, but an action may keep settings besides. What geometry a window has may hang on
all that happened before. -/
def Closes (a : Act Session α) (result : Except Fault α) (told : List UiCall)
    (s s' : Session) : Prop :=
  ∀ j : Journal, ∃ (j' : Journal) (kept : List (Value × Value)),
    a.perform (Journaled.setJournal j s) =
      (result, Journaled.setJournal j' { s' with settings := kept }) ∧ j'.news = j.news ++ told

theorem closes_of_does {a : Act Session α} {result : Except Fault α}
    (done : Does a result told s s') : Closes a result told s s' := by
  intro j
  obtain ⟨j', performed, news⟩ := done j
  exact ⟨j', s'.settings, performed, news⟩

theorem closes_bind {a : Act Session α} {f : α → Act Session β} {x : α} {result : Except Fault β}
    (first : Does a (.ok x) told s s') (later : Closes (f x) result told' s' s'') :
    Closes (a >>= f) result (told ++ told') s s'' := by
  intro j
  obtain ⟨j', performed, news⟩ := first j
  obtain ⟨j'', kept, performed', news'⟩ := later j'
  refine ⟨j'', kept, ?_, ?_⟩
  · rw [perform_bind, performed]
    exact performed'
  · rw [news', news, List.append_assoc]

theorem closes_get_bind {f : Session → Act Session α} {result : Except Fault α}
    (later : ∀ j : Journal, ∃ (j' : Journal) (kept : List (Value × Value)),
      (f (Journaled.setJournal j s)).perform (Journaled.setJournal j s) =
        (result, Journaled.setJournal j' { s' with settings := kept }) ∧
      j'.news = j.news ++ told) : Closes (get >>= f) result told s s' := by
  intro j
  rw [perform_bind]
  exact later j

/-- A result of its own may follow on what closes a dialog. -/
theorem Closes.return {a : Act Session α} {x : α} (closed : Closes a (.ok x) told s s') (y : β) :
    Closes (a >>= fun _ => pure y) (.ok y) told s s' := by
  intro j
  obtain ⟨j', kept, performed, news⟩ := closed j
  refine ⟨j', kept, ?_, news⟩
  rw [perform_bind, performed]
  rfl

theorem does_callUi {c : UiCall} (accepted : ∀ events, s.ui.refusal events c = none) :
    Does (callUi c) (.ok ()) (s.ui.shown [c]) s s :=
  does_get_bind fun j => Ui.does_call accepted j

/-- The geometry of the window is no news. -/
theorem perform_uiSaveGeometry (patient : s.ui.IsPatient) (j : Journal) :
    ∃ (bytes : List UInt8) (j' : Journal),
      (s.ui.saveGeometry : Act Session (List UInt8)).perform (Journaled.setJournal j s) =
        (.ok bytes, Journaled.setJournal j' s) ∧ j'.news = j.news := by
  have accepted (events : List Event) : s.ui.refusal events .saveGeometry = none :=
    patient events _ (fun same => nomatch same) fun same => nomatch same
  obtain ⟨j', called, news⟩ := Ui.does_call (s := s) accepted j
  have performed : (s.ui.saveGeometry : Act Session (List UInt8)).perform
      (Journaled.setJournal j s) =
        (.ok (if s.ui.omits .saveGeometry then [] else s.ui.geometry j'.events),
          Journaled.setJournal j' s) := by
    rw [Ui.saveGeometry, perform_bind, called]
    rfl
  exact ⟨_, j', performed, news.trans (List.append_nil _)⟩

/-- Keeping the geometry comes to its end if its key can be one. -/
theorem closes_saveGeometry (patient : s.ui.IsPatient)
    (key : s.geometryKey.isTrue = true → s.geometryKey.isHashable = true) :
    Closes saveGeometry (.ok ()) [] s s := by
  intro j
  have sameKey : (Journaled.setJournal j s).geometryKey = s.geometryKey := rfl
  have sameUi : (Journaled.setJournal j s).ui = s.ui := rfl
  simp only [saveGeometry, perform_bind, perform_get, sameKey]
  by_cases used : s.geometryKey.isTrue = true
  · obtain ⟨bytes, j', called, news⟩ := perform_uiSaveGeometry patient j
    have unrefused : (!s.geometryKey.isHashable) = false := by
      rw [key used]
      rfl
    let kept := keepSetting s.geometryKey (.str (String.ofList (Base64.encode bytes))) s
    refine ⟨j', kept.settings, ?_, news.trans (List.append_nil _).symm⟩
    rw [if_pos used]
    simp only [perform_bind, perform_get, sameUi, called, unrefused]
    rfl
  · refine ⟨j, s.settings, ?_, (List.append_nil _).symm⟩
    rw [if_neg used]
    rfl

/-- Closing a dialog comes to its end. -/
theorem closes_callUi_of_saveGeometry (patient : s.ui.IsPatient)
    (key : s.geometryKey.isTrue = true → s.geometryKey.isHashable = true) {c : UiCall}
    (accepted : ∀ events, s.ui.refusal events c = none) :
    Closes (saveGeometry >>= fun _ => callUi c) (.ok ()) (s.ui.shown [c]) s s := by
  intro j
  obtain ⟨j', kept, saved, news⟩ := closes_saveGeometry patient key j
  have called : Does (callUi c) (.ok ()) (s.ui.shown [c]) { s with settings := kept }
      { s with settings := kept } := does_callUi accepted
  obtain ⟨j'', performed, news'⟩ := called j'
  refine ⟨j'', kept, ?_, ?_⟩
  · rw [perform_bind, saved]
    exact performed
  · rw [news', news, List.append_assoc]
    rfl

theorem closes_accept (patient : s.ui.IsPatient)
    (key : s.geometryKey.isTrue = true → s.geometryKey.isHashable = true) :
    Closes accept (.ok ()) (s.ui.shown [.accept]) s s :=
  closes_callUi_of_saveGeometry patient key fun events =>
    patient events _ (fun same => nomatch same) fun same => nomatch same

theorem closes_reject (patient : s.ui.IsPatient)
    (key : s.geometryKey.isTrue = true → s.geometryKey.isHashable = true) :
    Closes reject (.ok ()) (s.ui.shown [.reject]) s s :=
  closes_callUi_of_saveGeometry patient key fun events =>
    patient events _ (fun same => nomatch same) fun same => nomatch same

/-- A dialog whose collaborators let every change pass and fail at most where an error or warnings
are shown. -/
structure IsPatient (s : Session) : Prop where
  ui : s.ui.IsPatient
  selection : s.selection.IsCalm
  key : s.geometryKey.isTrue = true → s.geometryKey.isHashable = true

/-- A change of the selection that keeps its collaborators calm keeps the dialog patient. -/
theorem IsPatient.of_isCalm (patient : s.IsPatient) {after : Selection} (calm : after.IsCalm) :
    ({ s with selection := after } : Session).IsPatient :=
  ⟨patient.ui, calm, patient.key⟩

theorem does_reviewMove (patient : s.IsPatient) (box : ReviewBox) (m : ReviewMove) :
    Does (reviewMove box m) (box.moved m) [] s
      { s with selection := s.selection.moved m } := by
  cases m with
  | untick position => exact does_pure _
  | setEnabled name enabled => exact does_check _
  | remove pack version =>
      exact (does_remove patient.selection pack version).bind (f := fun _ => pure box) (does_pure _)
  | add pack version =>
      exact (does_add patient.selection pack version (.bool false)).bind (f := fun _ => pure box)
        (does_pure _)

/-- The moves of a review come to what they make of the box and of the selection. A move that fails
is the last one. -/
theorem does_foldlM_reviewMove (patient : s.IsPatient) (moves : List ReviewMove)
    (box : ReviewBox) :
    ∃ after : Selection, after.IsCalm ∧
      (∀ box', moves.foldlM ReviewBox.moved box = .ok box' →
        after = moves.foldl Selection.moved s.selection) ∧
      Does (moves.foldlM reviewMove box) (moves.foldlM ReviewBox.moved box) [] s
        { s with selection := after } := by
  induction moves generalizing s box with
  | nil => exact ⟨s.selection, patient.selection, fun _ _ => rfl, does_pure box⟩
  | cons m later ih =>
      have first := does_reviewMove patient box m
      have calm := Selection.isCalm_moved patient.selection m
      rw [List.foldlM_cons, List.foldlM_cons]
      cases made : box.moved m with
      | ok box' =>
          rw [made] at first
          obtain ⟨after, calm', all, done⟩ := ih (patient.of_isCalm calm) box'
          exact ⟨after, calm', all, first.bind (f := fun box => later.foldlM reviewMove box) done⟩
      | error f =>
          rw [made] at first
          exact ⟨_, calm, (fun _ made => nomatch made), first.bind_error⟩

/-- Dropping the entries under names that can be looked up. -/
theorem meets_forM_removeByName {t : Terms} (on : s.selection.On t) (names : List Value)
    (hashable : ∀ name ∈ names, name.isHashable = true) :
    Meets t (names.forM fun name => onSelection (Selection.removeByName name)) (.ok ()) s
      { s with selection := s.selection.withoutNames names } := by
  induction names generalizing s with
  | nil => exact meets_pure ()
  | cons name later ih =>
      have first := meets_onSelection (s := s)
        (Selection.meets_removeByName on (hashable name List.mem_cons_self))
      have rest := ih (s := { s with selection := s.selection.withoutName name })
        (Selection.on_withoutName on name)
        fun name among => hashable name (List.mem_cons_of_mem _ among)
      exact first.bind (f := fun _ => later.forM _) rest

/-- A commit drops what is not ticked and closes the dialog. -/
theorem closes_commit (patient : s.IsPatient) {box : ReviewBox} (named : box.IsNamed) :
    Closes (commit box) (.ok ()) (s.ui.shown [.accept]) s
      { s with selection := s.selection.withoutNames box.deselected } := by
  have dropped := (meets_forM_removeByName patient.selection.on box.deselected fun name among =>
    ReviewBox.isHashable_of_mem_deselected named among).does
  have accepted := closes_accept
    (s := { s with selection := s.selection.withoutNames box.deselected }) patient.ui patient.key
  have said (message : String) :
      Closes (Journaled.say .info message >>= fun _ => accept) (.ok ()) (s.ui.shown [.accept])
        { s with selection := s.selection.withoutNames box.deselected }
        { s with selection := s.selection.withoutNames box.deselected } :=
    closes_bind (f := fun _ => accept) (does_say .info message) accepted
  have reported : Closes (get >>= fun now : Session => Journaled.say .info
      ("Confirmed " ++ toString now.selection.entries.length ++ " " ++ now.type.kind.plural ++
        ", " ++ toString box.deselected.length ++ " deselected during review") >>= fun _ => accept)
      (.ok ()) (s.ui.shown [.accept])
      { s with selection := s.selection.withoutNames box.deselected }
      { s with selection := s.selection.withoutNames box.deselected } :=
    closes_get_bind fun j => said _ j
  exact closes_bind (f := fun _ => _) dropped reported

/-- A review whose moves pass comes to its answer. -/
theorem closes_finishReview (patient : s.IsPatient) {box box' : ReviewBox} (named : box.IsNamed)
    {plan : ReviewPlan} (made : plan.moves.foldlM ReviewBox.moved box = .ok box') :
    Closes (finishReview box plan) (.ok (.returns plan.approves))
      (if plan.approves then s.ui.shown [.accept] else []) s
      { s with selection := plan.concluded box' s.selection } := by
  obtain ⟨after, calm, all, moved⟩ := does_foldlM_reviewMove patient plan.moves box
  rw [made] at moved
  rw [all box' made] at calm moved
  rw [finishReview, ReviewPlan.concluded]
  cases plan.approves with
  | false => exact closes_of_does (moved.bind (f := fun _ => pure _) (does_pure _))
  | true =>
      have committed := closes_commit (patient.of_isCalm calm) (ReviewBox.isNamed_foldlM named made)
      exact closes_bind (f := fun box => commit box >>= fun _ => pure _) moved (committed.return _)

/-- A review in which a move fails ends there. -/
theorem does_finishReview_of_error (patient : s.IsPatient) {box : ReviewBox} {plan : ReviewPlan}
    {f : Fault} (failed : plan.moves.foldlM ReviewBox.moved box = .error f) :
    ∃ after : Selection, Does (finishReview box plan) (.error f) [] s
      { s with selection := after } := by
  obtain ⟨after, -, -, moved⟩ := does_foldlM_reviewMove patient plan.moves box
  rw [failed] at moved
  exact ⟨after, moved.bind_error⟩

/-- A review opens over the rows of the selection. -/
theorem closes_openReview (patient : s.IsPatient) {box : ReviewBox}
    (built : s.selection.review s.naming s.emptyBox = (.ok (), box)) {result : Except Fault Step}
    (later : Closes (if (s.reviewPlan s.reviews).waits then
        pure (.waits (.reviewing box (s.reviewPlan s.reviews)))
      else finishReview box (s.reviewPlan s.reviews)) result told
      { s with reviews := s.reviews + 1 } s') :
    Closes openReview result (s.ui.shown [.execReview box] ++ told) s s' := by
  have accepted (events : List Event) : s.ui.refusal events (.execReview box) = none :=
    patient.ui events _ (fun same => nomatch same) fun same => nomatch same
  have counted : Does (modify fun now : Session => { now with reviews := now.reviews + 1 }) (.ok ())
      [] s { s with reviews := s.reviews + 1 } := does_modify fun _ => rfl
  have shown : Does (callUi (.execReview box)) (.ok ()) (s.ui.shown [.execReview box])
      { s with reviews := s.reviews + 1 } { s with reviews := s.reviews + 1 } :=
    does_callUi accepted
  have opened := closes_bind (f := fun _ => callUi (.execReview box) >>= fun _ => _) counted
    (closes_bind (f := fun _ => _) shown later)
  apply closes_get_bind
  intro j
  have seen : (Journaled.setJournal j s).selection.review (Journaled.setJournal j s).naming
      (Journaled.setJournal j s).emptyBox = (.ok (), box) :=
    (Selection.review_setJournal s.selection s.naming s.emptyBox j).trans built
  rw [seen]
  exact closes_bind (f := fun _ => modify _ >>= fun _ => callUi (.execReview box) >>= fun _ => _)
    (does_check (.ok ())) opened j

/-- A selection that cannot be presented ends the confirmation. -/
theorem does_openReview_of_error {f : Fault} {box : ReviewBox}
    (failed : s.selection.review s.naming s.emptyBox = (.error f, box)) :
    Does openReview (.error f) [] s s := by
  apply does_get_bind
  intro j
  have seen : (Journaled.setJournal j s).selection.review (Journaled.setJournal j s).naming
      (Journaled.setJournal j s).emptyBox = (.error f, box) :=
    (Selection.review_setJournal s.selection s.naming s.emptyBox j).trans failed
  rw [seen]
  exact (does_check (.error f)).bind_error j

end Session

end AddonPicker
