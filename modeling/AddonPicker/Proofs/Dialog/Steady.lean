import AddonPicker.Proofs.Dialog.Sustained

/-!
# What nothing but an answer changes

Of a check, the journal and the runs bear traces, and the confirmations do. Whatever else a dialog
has is steady: it stays as it is as long as no check is answered, whatever happens to confirmations
and runs.
-/

namespace AddonPicker.Session

open Act

/-- What hangs neither on runs nor on confirmations, and on the journal only as far as it tells of
answers and of the button. -/
structure Steady (J : Session → Prop) : Prop where
  say : ∀ level message, Keeps J (Journaled.say level message)
  note : ∀ e : Event, e.isButton = false → e.isAnswer = false → Keeps J (Journaled.note e)
  lookup : ∀ l, Keeps J (Journaled.noteLookup l)
  runs : ∀ s runs, J s → J { s with runs }
  confirmations : ∀ s confirmations, J s → J { s with confirmations }
  confirming : ∀ s confirming, J s → J { s with confirming }

/-- The selection is steady, but for its journal. -/
theorem steady_selection (sel : Selection) :
    Steady fun s => Journaled.setJournal {} s.selection = Journaled.setJournal {} sel where
  say := (tended_selection sel).say
  note := (tended_selection sel).note
  lookup _ := keeps_modify fun _ same => same
  runs _ _ same := same
  confirmations _ _ same := same
  confirming _ _ same := same

namespace Steady

variable {J : Session → Prop} {s : Session} {c : Nat} (steady : Steady J)

include steady

theorem tended : Tended J where
  say := steady.say
  note := steady.note
  adopt s _ _ holds := steady.runs s _ holds
  start := keeps_start_of_setRun fun _ _ => keeps_modify fun s holds => steady.runs s _ holds
  abort := keeps_abort_of_setRun steady.say fun _ _ => keeps_modify fun s holds =>
    steady.runs s _ holds

theorem setStage (c : Nat) (stage : Stage) (holds : J s) : J (s.setStage c stage) :=
  steady.confirmations s _ holds

theorem settle (c : Nat) (result : Except Fault Step) (holds : J s) : J (s.settle c result) := by
  have ends (v : Verdict) : J (s.endConfirm c v) :=
    steady.confirming _ false (steady.setStage c _ holds)
  cases result with
  | ok step =>
      cases step with
      | waits stage => exact steady.setStage c stage holds
      | returns accepted => exact ends _
  | error f => cases f <;> exact ends _

theorem cancel (c : Nat) (holds : J s) : J (s.cancel c).2 := by
  unfold Session.cancel
  split
  · exact holds
  · exact holds
  · exact steady.confirmations s _ holds

/-- A confirmation that goes on changes nothing, or it is past its check after that. -/
theorem resume (c : Nat) (holds : J s) :
    J (s.resume c) ∨ ∃ k, (s.resume c).confirmations[c]? = some k ∧ k.stage.isPast = true := by
  by_cases inside : c < s.confirmations.length
  · have tended := steady.tended.and
      (isAside_confirmations.tended (fun _ _ => rfl) s.confirmations)
    have goes := tended.goesOn c ⟨holds, rfl⟩ ⟨steady.confirming s true holds, rfl⟩
    have answered {a : Act Session Step} {t : Session} (leaves : Leaves Session.confirmations a)
        (yields : Yields Step.IsPast a) (same : t.confirmations = s.confirmations) :
        ∃ k, (Session.settle c (a.perform t).1 (a.perform t).2).confirmations[c]? = some k ∧
          k.stage.isPast = true :=
      ⟨_, confirmation?_settle _ (((leaves t).trans same).symm ▸ inside), isPast_after (yields t)⟩
    generalize s.resume c = o at goes ⊢
    cases goes with
    | stands => exact .inl holds
    | turned v holds => exact .inl (steady.setStage c _ holds.1)
    | opens unchecked =>
        exact .inr (answered (leaves_openReview isAside_confirmations fun _ _ => rfl)
          yields_openReview rfl)
    | checks goes =>
        cases goes with
        | stands checking holds => exact .inl (steady.settle c _ holds.1)
        | breaks f holds => exact .inl (steady.settle c _ holds.1)
        | answers holds =>
            exact .inr (answered (leaves_afterCheck isAside_confirmations (fun _ _ => rfl) _)
              (yields_afterCheck _) holds.2)
    | reviews known =>
        exact .inr (answered (leaves_continueReview isAside_confirmations _ _ _)
          (yields_continueReview _ _ _) rfl)
  · have outside := List.getElem?_eq_none (Nat.le_of_not_lt inside)
    rw [Session.resume, outside]
    exact .inl holds

/-- Whatever happens to a confirmation and a run changes nothing, as long as it does not take the
confirmation past its check. -/
theorem happen (c i : Nat) {e : CheckEvent} (checking : e = .resume → ∀ k,
      (s.happen c i e).confirmations[c]? = some k → k.stage.isPast = false) (holds : J s) :
    J (s.happen c i e) := by
  cases e with
  | abort => exact steady.tended.abort i s holds
  | move m =>
      exact steady.tended.transition holds (fun _ _ => steady.runs s _ holds)
        fun s holds => steady.runs s _ holds
  | lookup l => exact steady.lookup l s holds
  | resume =>
      rw [Session.happen] at checking ⊢
      split at checking
      · rename_i ready
        rw [if_pos ready]
        rcases steady.resume c holds with holds | ⟨k, known, past⟩
        · exact holds
        · exact absurd ((checking rfl k known).symm.trans past) Bool.false_ne_true
      · rename_i waits
        rw [if_neg waits]
        exact holds

end Steady

end AddonPicker.Session
