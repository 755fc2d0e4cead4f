import AddonPicker.Proofs.Dialog.Steps

/-!
# From the request on

A confirmation that was requested has not begun yet, or it has a run, or it goes without a check.
What is to be shown of every confirmation and its run is shown when it begins and turn by turn:
`Place.undergo` takes it along one event, and `Place.pursue` along a history in which every event
may happen where it does.
-/

namespace AddonPicker.Session

open Act

variable {b s : Session} {r : Run DialogHandler} {k : Confirmation}

/-- A dialog of which a confirmation was requested, which may have been cancelled since. -/
def awaiting (cancelling : Bool) (b : Session) : Session :=
  { b with confirmations := b.confirmations ++ [{ cancelling }] }

theorem confirmation?_awaiting (cancelling : Bool) (j : Journal) :
    (Journaled.setJournal j (b.awaiting cancelling)).confirmations[b.confirmations.length]? =
      some { cancelling } :=
  List.getElem?_concat_length

/-- What a dialog has become since a confirmation was requested of another one. If the confirmation
has a run by now, something holds of the two. -/
inductive Place (b : Session) (I : Run DialogHandler → Confirmation → Prop) : Session → Prop
  | requested (j : Journal) (cancelling : Bool) :
      Place b I (Journaled.setJournal j (b.awaiting cancelling))
  /-- There was no check, and there will be none. -/
  | unchecked {s : Session} {k : Confirmation} (runs : s.runs = b.runs)
      (known : s.confirmations[b.confirmations.length]? = some k) (past : k.stage.isPast = true) :
      Place b I s
  | under {s : Session} {r : Run DialogHandler} {k : Confirmation} (holds : I r k)
      (at_ : At b r k s) : Place b I s

variable {I : Run DialogHandler → Confirmation → Prop}

/-- How a confirmation that was requested of a dialog begins. -/
inductive Begins (b : Session) (s : Session) : Session → Prop
  /-- It was cancelled before, or it is turned down. -/
  | not {s' : Session} {v : Verdict} (runs : s'.runs = s.runs)
      (confirmations : s'.confirmations = s.confirmations) :
      Begins b s (s'.setStage b.confirmations.length (.ended v))
  | unchecked (unchecked : b.newRun? = none) :
      Begins b s (settle b.confirmations.length
        (openReview.perform { s with confirming := true }).1
        (openReview.perform { s with confirming := true }).2)
  | checked {run : Run DialogHandler} (checks : b.newRun? = some run) {j : Journal}
      {performed : Except Fault Step × Session}
      (begun : performed = ((b.beginning run).1.act b.runs.length).perform
        (Journaled.setJournal j ((b.engaged b.settings).amid (b.beginning run).2
          Stage.scheduled))) :
      Begins b s (settle b.confirmations.length performed.1 performed.2)

/-- A confirmation that was requested begins when it first goes on. -/
theorem begins_resume (j : Journal) (cancelling : Bool) :
    Begins b (Journaled.setJournal j (b.awaiting cancelling))
      (resume b.confirmations.length (Journaled.setJournal j (b.awaiting cancelling))) := by
  rw [Session.resume, confirmation?_awaiting]
  dsimp only
  cases cancelling with
  | true => exact .not rfl rfl
  | false =>
      rw [if_neg Bool.false_ne_true]
      cases busy : (Journaled.setJournal j (b.awaiting false)).confirming with
      | true =>
          rw [if_pos rfl]
          exact .not rfl rfl
      | false =>
          rw [if_neg Bool.false_ne_true]
          cases checks : b.newRun? with
          | none =>
              rw [perform_beginConfirm_of_none (s :=
                { Journaled.setJournal j (b.awaiting false) with confirming := true }) checks]
              exact .unchecked checks
          | some run =>
              obtain ⟨j', performed, -⟩ := comes_beginConfirm checks j
              exact .checked checks performed

/-- A confirmation begins with a run of its own, or it has no check at all. -/
theorem place_resume_requested (j : Journal) (cancelling : Bool)
    (begins : ∀ run, b.newRun? = some run → ∀ stage : Stage, (b.beginning run).1.Leads stage →
      I (b.beginning run).2 stage) :
    Place b I (resume b.confirmations.length
      (Journaled.setJournal j (b.awaiting cancelling))) := by
  have inside := (List.getElem?_eq_some_iff.mp (confirmation?_awaiting (b := b) cancelling j)).1
  have first : (Journaled.setJournal j (b.awaiting cancelling)).runs = b.runs := rfl
  have begun := begins_resume (b := b) j cancelling
  generalize Journaled.setJournal j (b.awaiting cancelling) = s at inside first begun
  generalize s.resume b.confirmations.length = resumed at begun
  cases begun with
  | not runs confirmations =>
      exact .unchecked (runs.trans first) (List.getElem?_set_self (confirmations ▸ inside)) rfl
  | unchecked unchecked =>
      have runs := leaves_openReview isAside_runs (fun _ _ => rfl) { s with confirming := true }
      have same := leaves_openReview isAside_confirmations (fun _ _ => rfl)
        { s with confirming := true }
      refine .unchecked ((runs_settle _ _ _).trans (runs.trans first)) (confirmation?_settle _ ?_)
        (isPast_after (yields_openReview _))
      rw [same]
      exact inside
  | @checked run checks j' performed begun =>
      obtain ⟨stage, leads, at_⟩ := at_of_way (b := b) (b.beginning run).1
        (fun _ => isChecking_of_beginning) (b.beginning run).2 Stage.scheduled j'
      rw [begun]
      exact .under (begins run checks stage leads) at_

/-- A dialog with the runs of another one has none where the next run of that one would be. -/
theorem run?_eq_none_of_runs (runs : s.runs = b.runs) : s.runs[b.runs.length]? = none := by
  rw [runs]
  exact List.getElem?_eq_none (Nat.le_refl _)

/-- Nothing happens to a run that is not there. -/
theorem perform_abort_of_none {i : Nat} (nobody : s.runs[i]? = none) :
    ((Owner.abort i).perform s).2 = s := by
  have none_ : Owner.run? s i = none := nobody
  rw [Owner.abort, perform_bind, perform_get]
  dsimp only
  rw [none_]
  rfl

theorem perform_transition_of_none {i : Nat}
    {f : Run DialogHandler → Run DialogHandler × List (Effect _)} (nobody : s.runs[i]? = none) :
    ((Host.transition i f).perform s).2 = s := by
  have none_ : Owner.run? s i = none := nobody
  rw [Host.transition, perform_bind, perform_get]
  dsimp only
  rw [none_]
  rfl

/-- Before it begins, nothing happens to a confirmation but that it is cancelled. -/
theorem place_requested (j : Journal) (cancelling : Bool)
    (begins : ∀ run, b.newRun? = some run → ∀ stage : Stage, (b.beginning run).1.Leads stage →
      I (b.beginning run).2 stage) (e : ConfirmEvent) :
    Place b I ((Journaled.setJournal j (b.awaiting cancelling)).undergo
      b.confirmations.length b.runs.length e) := by
  have known := confirmation?_awaiting (b := b) cancelling j
  have nobody : (Journaled.setJournal j (b.awaiting cancelling)).runs[b.runs.length]? = none :=
    run?_eq_none_of_runs rfl
  cases e with
  | cancel =>
      have set : (b.awaiting cancelling).confirmations.set b.confirmations.length
          { cancelling := true } = (b.awaiting true).confirmations := by
        show (b.confirmations ++ [_]).set _ _ = _
        rw [List.set_append_right _ _ (Nat.le_refl _), Nat.sub_self]
        rfl
      have called : ({ Journaled.setJournal j (b.awaiting cancelling) with
          confirmations := (b.awaiting cancelling).confirmations.set b.confirmations.length
            { cancelling := true } } : Session) = Journaled.setJournal j (b.awaiting true) := by
        rw [set]
        rfl
      rw [Session.undergo, Session.cancel, known]
      show Place b I { Journaled.setJournal j (b.awaiting cancelling) with
        confirmations := (b.awaiting cancelling).confirmations.set b.confirmations.length
          { cancelling := true } }
      rw [called]
      exact .requested j true
  | check e =>
      cases e with
      | abort =>
          rw [Session.undergo, happen, perform_abort_of_none nobody]
          exact .requested j cancelling
      | move m =>
          rw [Session.undergo, happen, perform_transition_of_none nobody]
          exact .requested j cancelling
      | lookup l => exact .requested (j.noteLookup l) cancelling
      | resume =>
          have ready : (Journaled.setJournal j (b.awaiting cancelling)).isReady
              b.confirmations.length = true := by
            rw [isReady, known]
            exact Bool.or_true cancelling
          rw [Session.undergo, happen, ready, if_pos rfl]
          exact place_resume_requested j cancelling begins

/-- A confirmation without a check goes on past it. -/
theorem place_unchecked (runs : s.runs = b.runs)
    (known : s.confirmations[b.confirmations.length]? = some k) (past : k.stage.isPast = true)
    (e : ConfirmEvent) :
    Place b I (s.undergo b.confirmations.length b.runs.length e) := by
  have inside : b.confirmations.length < s.confirmations.length :=
    (List.getElem?_eq_some_iff.mp known).1
  have nobody := run?_eq_none_of_runs runs
  have stays : Place b I s := .unchecked runs known past
  obtain ⟨stage, cancelling⟩ := k
  cases e with
  | cancel =>
      rw [Session.undergo, Session.cancel, known]
      cases stage with
      | ended v => exact stays
      | reviewing box plan => exact .unchecked runs (List.getElem?_set_self inside) past
      | _ => exact absurd past Bool.false_ne_true
  | check e =>
      cases e with
      | abort =>
          rw [Session.undergo, happen, perform_abort_of_none nobody]
          exact stays
      | move m =>
          rw [Session.undergo, happen, perform_transition_of_none nobody]
          exact stays
      | lookup l => exact .unchecked runs known past
      | resume =>
          rw [Session.undergo, happen]
          split
          · rcases resume_of_isPast known past with stands | ⟨a, goes, yields, leaves⟩
            · rw [stands]
              exact stays
            · rw [goes]
              refine .unchecked ((runs_settle _ _ _).trans ((leaves isAside_runs s).trans runs))
                (confirmation?_settle _ ?_) (isPast_after (yields s))
              rw [leaves isAside_confirmations s]
              exact inside
          · exact stays

/-- What holds of a run and its confirmation from the beginning, and goes on to hold with a turn,
holds after an event. -/
theorem Place.undergo (place : Place b I s)
    (begins : ∀ run, b.newRun? = some run → ∀ stage : Stage, (b.beginning run).1.Leads stage →
      I (b.beginning run).2 stage) {e : ConfirmEvent}
    (turns : ∀ r k, At b r k s → I r k → ∀ r' k', Confirmation.Turn b.runs.length e r k r' k' →
      I r' k') :
    Place b I (s.undergo b.confirmations.length b.runs.length e) := by
  cases place with
  | requested j cancelling => exact place_requested j cancelling begins e
  | unchecked runs known past => exact place_unchecked runs known past e
  | under holds at_ =>
      obtain ⟨r', k', turn, later⟩ := at_.undergo e
      exact .under (turns _ _ at_ holds r' k' turn) later

/-- What holds from the beginning, and goes on to hold with every turn that is admitted, holds after
any number of events. -/
theorem Place.pursue {admits : Session → ConfirmEvent → Prop} (place : Place b I s)
    (begins : ∀ run, b.newRun? = some run → ∀ stage : Stage, (b.beginning run).1.Leads stage →
      I (b.beginning run).2 stage)
    (turns : ∀ s e r k, admits s e → At b r k s → I r k → ∀ r' k',
      Confirmation.Turn b.runs.length e r k r' k' → I r' k') {events : List ConfirmEvent}
    (legal : s.IsLegal admits b.confirmations.length b.runs.length events) :
    Place b I (s.pursue b.confirmations.length b.runs.length events) := by
  induction events generalizing s with
  | nil => exact place
  | cons e later ih =>
      obtain ⟨admitted, legal⟩ := legal
      exact ih (place.undergo begins fun r k => turns s e r k admitted) legal

end AddonPicker.Session
