import AddonPicker.Proofs.Run.Stopping

/-!
# Resigned runs

From an abort on a run is resigned: there is nothing that it can end as but skipped, whether it
carries out its inquiry itself or watches it. One thing gets ahead of the abort. A run that watches
its inquiry hears of both when it is woken, and if the inquiry has ended by itself by then, the run
ends with what that came to.
-/

namespace AddonPicker

/-- A run that watches its inquiry and has not heard yet that the inquiry has ended. -/
def Run.IsOvertaken {η : Type} (r : Run η) : Prop :=
  r.phase = .watching ∧ r.inquiry.outcome?.isSome = true

instance {η : Type} (r : Run η) : Decidable r.IsOvertaken :=
  inferInstanceAs (Decidable (r.phase = .watching ∧ r.inquiry.outcome?.isSome = true))

namespace RunMove

variable {η : Type} {r : Run η}

/-- A step that a run may take whose catalogues intercept no cancellation. A run that was started is
woken only while it waits for an inquiry, or when nothing is left for it to wait for. -/
def Suits (r : Run η) : RunMove → Prop
  | .wake => r.phase ≠ .scheduled ∧ r.phase.isAsking = false
  | m => m.Befits r

instance (r : Run η) : DecidablePred (Suits r)
  | .wake => inferInstanceAs (Decidable (r.phase ≠ .scheduled ∧ r.phase.isAsking = false))
  | .answerPack intercepted answer =>
    inferInstanceAs (Decidable (Befits r (.answerPack intercepted answer)))
  | .answerVersion intercepted answer =>
    inferInstanceAs (Decidable (Befits r (.answerVersion intercepted answer)))
  | .begin | .beginInquiry | .expire | .conclude => inferInstanceAs (Decidable True)

theorem Suits.befits {m : RunMove} (suits : m.Suits r) : m.Befits r := by
  cases m with
  | wake => exact suits.1
  | begin | beginInquiry | answerPack | answerVersion | expire | conclude => exact suits

/-- A step that does not wake a run whose inquiry has got ahead of it. -/
def OnTime (r : Run η) : RunMove → Prop
  | .wake => ¬r.IsOvertaken
  | _ => True

instance (r : Run η) : DecidablePred (OnTime r)
  | .wake => inferInstanceAs (Decidable ¬r.IsOvertaken)
  | .begin | .beginInquiry | .answerPack _ _ | .answerVersion _ _ | .expire | .conclude =>
    inferInstanceAs (Decidable True)

end RunMove

namespace RunEvent

variable {η : Type}

/-- What holds of an event if it holds of the step that the event is, if it is one. -/
def OfMove (P : Run η → RunMove → Prop) (r : Run η) : RunEvent η → Prop
  | .move m => P r m
  | _ => True

instance (P : Run η → RunMove → Prop) [∀ r, DecidablePred (P r)] (r : Run η) :
    DecidablePred (OfMove P r)
  | .move m => inferInstanceAs (Decidable (P r m))
  | .register _ _ | .start | .abort => inferInstanceAs (Decidable True)

/-- Each step among events has a property of the run that takes it. -/
def Along (P : Run η → RunMove → Prop) : List (RunEvent η) → Run η → Prop
  | [], _ => True
  | e :: later, r => e.OfMove P r ∧ Along P later (e.after r)

instance decidableAlong (P : Run η → RunMove → Prop) [∀ r, DecidablePred (P r)] :
    (events : List (RunEvent η)) → (r : Run η) → Decidable (Along P events r)
  | [], _ => isTrue trivial
  | e :: later, r =>
    haveI : Decidable (Along P later (e.after r)) := decidableAlong P later (e.after r)
    inferInstanceAs (Decidable (e.OfMove P r ∧ Along P later (e.after r)))

theorem along_append {P : Run η → RunMove → Prop} (before later : List (RunEvent η)) (r : Run η) :
    Along P (before ++ later) r ↔ Along P before r ∧ Along P later (afterAll before r) := by
  induction before generalizing r with
  | nil => simp only [List.nil_append, Along, afterAll, List.foldl_nil, true_and]
  | cons e before ih =>
      rw [List.cons_append, Along, Along, ih, and_assoc]
      rfl

end RunEvent

namespace Run

variable {η : Type} {r : Run η}

/-- A run that comes to its end whatever happens, and that ends as skipped. -/
structure Resigned (r : Run η) : Prop extends Stopping r where
  /-- The deadline has no say in how the run ends. -/
  called : r.phase = .racing ∨ r.phase = .dismissing .overdue → r.cancelling = true
  cancelled : r.phase.isAsking = true → r.inquiry.cancelling = true
  ended : r.state.isFinished = true → r.state = .skipped

/-- A run that is past its inquiry has resigned if it ends as skipped. -/
theorem IsPast.resigned (past : r.IsPast) (ended : r.state.isFinished = true → r.state = .skipped) :
    r.Resigned := by
  refine { past.stopping with called := ?_, cancelled := ?_, ended := ended }
  all_goals rcases past with phase | phase | phase <;> rw [phase] <;> simp [Phase.isAsking]

/-- A running run is resigned from its abort on. -/
theorem Asks.resigned (asks : r.Asks) (consistent : r.Consistent) (running : r.state = .running) :
    r.abort.2.Resigned := by
  have begun : r.phase ≠ .idle := consistent.phase_ne_idle (by rw [running]; decide)
  refine { asks.stopping begun with called := ?_, cancelled := ?_, ended := ?_ }
  · rw [phase_abort]
    rintro (phase | phase) <;> rw [Run.abort, phase]
  · rw [phase_abort]
    exact fun asking => cancelling_abort (asks asking) asking
  · rw [r.abort_snd_eq.1, running]
    exact fun finished => absurd finished Bool.false_ne_true

theorem Resigned.abort (h : r.Resigned) (consistent : r.Consistent) : r.abort.2.Resigned := by
  cases state : r.state with
  | idle => exact absurd (consistent.phase_of_idle state) h.begun
  | running => exact h.asks.resigned consistent state
  | succeeded | failed | skipped =>
      rw [abort_of_isFinished consistent (by rw [state]; rfl)]
      exact h

theorem Resigned.close (h : r.Resigned) : r.close.Resigned := by
  have ended := h.ended
  rw [Run.close]
  split
  · exact IsPast.resigned (r := { r with phase := .done }) (.inr (.inl rfl)) ended
  · exact h

/-- Whatever a resigned run hears of its inquiry, it stays resigned. -/
theorem Resigned.inquire (h : r.Resigned) {f : Inquiry → Inquiry} (steps : Inquiry.Steps f)
    (interrupts : r.inquiry.phase.isAsking = true → r.inquiry.cancelling = true →
      f r.inquiry = r.inquiry ∨ f r.inquiry = .ofOutcome (.error .cancelled)) :
    (r.inquire f).1.Resigned := by
  have stopping := h.toStopping.inquire steps
  cases asking : r.phase.isAsking with
  | false =>
      rw [inquire_of_still asking] at stopping ⊢
      refine { stopping with called := h.called, cancelled := fun waits => ?_, ended := h.ended }
      exact absurd (asking.symm.trans waits) Bool.false_ne_true
  | true =>
      rcases interrupts (h.asks asking) (h.cancelled asking) with same | interrupted
      · rw [inquire_of_isAsking (by rw [same]; exact h.asks asking), same]
        exact h
      · rw [inquire_of_interrupted asking (fun racing => h.called (.inl racing)) interrupted]
        exact IsPast.resigned (.inl rfl) fun _ => rfl

theorem Resigned.answered (h : r.Resigned) {f : Inquiry → Inquiry} (answers : Inquiry.Answers f) :
    (r.inquire f).1.Resigned :=
  h.inquire answers.steps fun _ cancelled => answers.interrupts _ cancelled

theorem Resigned.beginInquiry (h : r.Resigned) : r.beginInquiry.1.Resigned := by
  refine h.inquire (Inquiry.steps_begin r.scope r.selected) fun asking _ => .inl ?_
  rw [Inquiry.begin]
  split
  · rename_i fresh
    rw [fresh] at asking
    exact absurd asking Bool.false_ne_true
  · rfl

/-- A resigned run that comes to its first step does not take it. -/
theorem Resigned.begin (h : r.Resigned) (scheduled : r.phase = .scheduled) :
    r.begin.1.Resigned := by
  rw [h.toStopping.begin scheduled]
  exact IsPast.resigned (r := { r with phase := .dropped }) (.inr (.inr rfl)) h.ended

theorem Resigned.expire (h : r.Resigned) : r.expire.Resigned := by
  have stopping := h.toStopping.expire
  rw [Run.expire] at stopping ⊢
  split at stopping
  · exact { stopping with called := h.called, cancelled := h.cancelled, ended := h.ended }
  · split at stopping
    · rename_i overdue
      rw [if_pos overdue]
      exact h
    · rename_i overdue
      rw [if_neg overdue]
      refine { stopping with called := h.called, cancelled := fun asking => ?_, ended := h.ended }
      exact Inquiry.cancelling_cancel_of_cancelling (h.cancelled asking)
  · exact h

/-- A run that was dismissed because it was aborted is skipped in any case. -/
theorem finishDismissed_aborted (outcome : Except Fault Closure) (r : Run η) :
    r.finishDismissed .aborted outcome = r.skip := by
  cases outcome <;> rfl

/-- A resigned run that is woken in time stays resigned. -/
theorem Resigned.wake (h : r.Resigned) (suits : RunMove.wake.Suits r)
    (timely : RunMove.wake.OnTime r) : r.wake.1.Resigned := by
  have skipped {r' : Run η} (closing : r'.phase = .closing) (state : r'.state = .skipped) :
      r'.Resigned := IsPast.resigned (.inl closing) fun _ => state
  have stopping := (h.toStopping.wake suits.1).1
  have wakes := wakes_wake r
  generalize r.wake.1 = r' at stopping wakes ⊢
  cases wakes with
  -- An inquiry that has ended is heard of before the abort is.
  | hears watching ended => exact absurd ⟨watching, by rw [ended]; rfl⟩ timely
  | dismisses cause watching aborted =>
      obtain rfl : cause = .aborted := aborted.mpr (h.early (.inr watching))
      exact { stopping with
        called := by simp [dismiss], cancelled := by simp [dismiss, Phase.isAsking]
        ended := h.ended }
  | skips => exact skipped rfl rfl
  | @ends cause _ dismissing uncalled =>
      -- The deadline alone dismisses no run that was aborted.
      cases cause with
      | aborted =>
          rw [finishDismissed_aborted]
          exact skipped rfl rfl
      | overdue =>
          have called := h.called (.inr dismissing)
          exact absurd (uncalled.symm.trans called) Bool.false_ne_true
  | waits quiet =>
      refine { stopping with called := ?_, cancelled := fun asking => ?_, ended := h.ended }
      · rintro (racing | overdue)
        · have asking : r.phase.isAsking = true := Phase.isAsking_iff.mpr (.inr racing)
          exact absurd (suits.2.symm.trans asking) Bool.false_ne_true
        · have uncalled := quiet (congrArg Phase.isWaiting overdue)
          exact absurd (uncalled.symm.trans (h.called (.inr overdue))) Bool.false_ne_true
      · exact absurd (suits.2.symm.trans asking) Bool.false_ne_true

theorem Resigned.conclude (h : r.Resigned) : r.conclude.1.Resigned := by
  rw [Run.conclude]
  split
  · exact IsPast.resigned (.inr (.inl rfl)) fun _ => rfl
  · exact h

/-- A resigned run stays resigned with every step that it takes in time. -/
theorem Resigned.apply (h : r.Resigned) {m : RunMove} (suits : m.Suits r) (timely : m.OnTime r) :
    (m.apply r).1.Resigned := by
  cases m with
  | begin =>
      rw [RunMove.apply]
      split
      · exact h.begin ‹_›
      · exact h
  | beginInquiry => exact h.beginInquiry
  | answerPack intercepted answer =>
      obtain rfl : intercepted = false := suits
      exact h.answered (Inquiry.answers_answerPack answer)
  | answerVersion intercepted answer =>
      obtain rfl : intercepted = false := suits
      exact h.answered (Inquiry.answers_answerVersion r.scope answer)
  | expire => exact h.expire
  | wake => exact h.wake suits timely
  | conclude => exact h.conclude

/-- Whatever happens to a resigned run, it stays resigned. -/
theorem Resigned.after (h : r.Resigned) (consistent : r.Consistent) {e : RunEvent η}
    (suits : e.OfMove RunMove.Suits r) (timely : e.OfMove RunMove.OnTime r) :
    (e.after r).Resigned := by
  cases e with
  | register occasion handler =>
      have stopping : (r.on occasion handler).Stopping :=
        ⟨h.asks.of_phase rfl rfl, h.begun, h.early, h.asking, h.dismissing⟩
      exact { stopping with called := h.called, cancelled := h.cancelled, ended := h.ended }
  | start =>
      have busy : r.state ≠ .idle := fun idle => h.begun (consistent.phase_of_idle idle)
      rw [RunEvent.after, if_neg busy]
      exact h
  | abort => exact h.abort consistent
  | move m => exact (h.apply suits timely).close

/-- A run that waits for a lookup with its inquiry goes on to do so. -/
theorem Asks.after (asks : r.Asks) {e : RunEvent η} (suits : e.OfMove RunMove.Suits r) :
    (e.after r).Asks := by
  cases e with
  | register occasion handler => exact asks.of_phase rfl rfl
  | start =>
      rw [RunEvent.after]
      split
      · exact asks_of_phase rfl
      · exact asks
  | abort => exact asks.abort
  | move m => exact (asks.apply (RunMove.Suits.befits suits)).close

/-- A resigned run is running or skipped, and hands nothing out. -/
theorem Resigned.outcome (h : r.Resigned) (consistent : r.Consistent) :
    (r.state = .running ∨ r.state = .skipped) ∧ r.dependencies = [] := by
  have ends : r.state = .running ∨ r.state = .skipped := by
    cases state : r.state with
    | idle => exact absurd (consistent.phase_of_idle state) h.begun
    | running => exact .inl rfl
    | succeeded | failed | skipped => exact .inr (state ▸ h.ended (by rw [state]; rfl))
  refine ⟨ends, dependencies_of_state_ne fun succeeded => ?_⟩
  rw [succeeded] at ends
  exact ends.elim RunState.noConfusion RunState.noConfusion

end Run

namespace RunEvent

variable {η : Type} {events : List (RunEvent η)} {r : Run η}

theorem Along.asks (suits : Along RunMove.Suits events r) (asks : r.Asks) :
    (afterAll events r).Asks := by
  induction events generalizing r with
  | nil => exact asks
  | cons e later ih => exact ih suits.2 (asks.after suits.1)

/-- A resigned run stays resigned as long as its inquiry does not get ahead of it. -/
theorem Along.resigned (suits : Along RunMove.Suits events r) (timely : Along RunMove.OnTime events r)
    (consistent : r.Consistent) (h : r.Resigned) : (afterAll events r).Resigned := by
  induction events generalizing r with
  | nil => exact h
  | cons e later ih =>
      exact ih suits.2 timely.2 (e.consistent_after consistent)
        (h.after consistent suits.1 timely.1)

end RunEvent

/-- What a run still goes through when it goes on: it is woken if it waits, or takes its first step
if that is still to come; then it hears what its inquiry waits for, and its end is announced. -/
def RunMove.finale {η : Type} (r : Run η) (pack : Except Fault (Option Pack))
    (version : Except Fault (Option Held)) : List RunMove :=
  (if r.phase.isWaiting then .wake else .begin) :: (hearing pack version ++ [.wake, .conclude])

namespace Run

variable {η : Type} {r : Run η}

theorem Resigned.taking (h : r.Resigned) (consistent : r.Consistent) (moves : List RunMove)
    (suits : RunEvent.Along RunMove.Suits (moves.map .move) r)
    (timely : RunEvent.Along RunMove.OnTime (moves.map .move) r) : (r.taking moves).Resigned :=
  suits.resigned timely consistent h

/-- A run that has nothing left to wait for but the end of its inquiry waits for no lookup once it
has heard what that waits for. -/
theorem Lingers.hears (lingers : r.Lingers) (consistent : r.Consistent)
    (pack : Except Fault (Option Pack)) (version : Except Fault (Option Held)) :
    (r.taking (RunMove.hearing pack version)).IsPast ∨
      ∃ cause, (r.taking (RunMove.hearing pack version)).phase = .dismissing cause := by
  rcases hearing_cases consistent pack version with finished | ⟨same, open_⟩
  · have settled := (consistent.taking _).phase_of_isFinished finished
    exact .inl (settled.imp_right .inl)
  · rw [same]
    rcases lingers with past | ⟨ebbs, asking | dismissing⟩
    · exact .inl past
    · obtain ⟨outcome, ended⟩ := ebbs.heard r.scope r.selected pack version
      have unheard := open_ asking
      rw [Inquiry.outcome?, ended] at unheard
      cases unheard
    · exact .inr dismissing

/-- A run may be woken, and is so in time, when it waits for no lookup and watches no inquiry. -/
theorem suits_wake (left : r.IsPast ∨ ∃ cause, r.phase = .dismissing cause) :
    RunMove.wake.Suits r ∧ RunMove.wake.OnTime r := by
  have phase : r.phase ≠ .scheduled ∧ r.phase.isAsking = false ∧ r.phase ≠ .watching := by
    rcases left with (phase | phase | phase) | ⟨cause, phase⟩ <;> rw [phase] <;>
      simp [Phase.isAsking]
  exact ⟨⟨phase.1, phase.2.1⟩, fun overtaken => phase.2.2 overtaken.1⟩

theorem suits_of_isWaiting (waiting : r.phase.isWaiting = true) : RunMove.wake.Suits r := by
  rw [RunMove.Suits]
  cases phase : r.phase with
  | watching | dismissing cause => exact ⟨Phase.noConfusion, rfl⟩
  | idle | scheduled | inquiring | racing | closing | dropped | done =>
      rw [phase] at waiting
      cases waiting

/-- A run that has taken its first step and does not wait waits for a lookup, if for anything. -/
theorem isPast_or_isAsking (started : r.phase ≠ .idle) (begun : r.phase ≠ .scheduled)
    (still : r.phase.isWaiting = false) : r.IsPast ∨ r.phase.isAsking = true := by
  refine (stands_of_begun started begun).imp_right fun stands => stands.resolve_right ?_
  rintro (watching | ⟨cause, dismissing⟩)
  · rw [watching] at still
    exact Bool.false_ne_true still.symm
  · rw [dismissing] at still
    exact Bool.false_ne_true still.symm

/-- A resigned run that has nothing left to wait for but the end of its inquiry is skipped with
that. -/
theorem Resigned.skipped (h : r.Resigned) (consistent : r.Consistent) (lingers : r.Lingers)
    (pack : Except Fault (Option Pack)) (version : Except Fault (Option Held)) :
    (r.taking (RunMove.hearing pack version ++ [.wake, .conclude])).state = .skipped := by
  have finished := lingers.finished consistent pack version
  obtain ⟨suits, timely⟩ := suits_wake (lingers.hears consistent pack version)
  have heard := h.taking consistent (RunMove.hearing pack version) ⟨trivial, rfl, rfl, trivial⟩
    ⟨trivial, trivial, trivial, trivial⟩
  have stood := consistent.taking (RunMove.hearing pack version)
  rw [taking_append] at finished ⊢
  have concluded := heard.taking stood [.wake, .conclude] ⟨suits, trivial, trivial⟩
    ⟨timely, trivial, trivial⟩
  exact concluded.ended finished

/-- A resigned run that its inquiry has not got ahead of is skipped when it goes on, whatever the
answers are. -/
theorem Resigned.finale (h : r.Resigned) (consistent : r.Consistent) (timely : ¬r.IsOvertaken)
    (pack : Except Fault (Option Pack)) (version : Except Fault (Option Held)) :
    (r.taking (RunMove.finale r pack version)).state = .skipped := by
  cases waiting : r.phase.isWaiting with
  | true =>
      have suits := suits_of_isWaiting waiting
      have woken := (h.wake suits timely).close
      have lingers := (h.toStopping.wake suits.1).2.close
      rw [RunMove.finale, waiting, if_pos rfl]
      exact woken.skipped (RunEvent.consistent_after consistent (.move .wake)) lingers pack version
  | false =>
      have begun := RunEvent.consistent_after consistent (.move .begin)
      have resigned : ((RunEvent.move .begin).after r).Resigned :=
        h.after consistent (e := .move .begin) trivial trivial
      have lingers : ((RunEvent.move .begin).after r).Lingers := by
        refine Lingers.close ?_
        rw [RunMove.apply]
        split
        · rename_i scheduled
          rw [h.toStopping.begin scheduled]
          exact .inl (.inr (.inr rfl))
        · rename_i begun
          exact (isPast_or_isAsking h.begun begun waiting).imp_right fun asking =>
            ⟨h.asking asking, .inl asking⟩
      rw [RunMove.finale, waiting, if_neg Bool.false_ne_true]
      exact resigned.skipped begun lingers pack version

end Run

end AddonPicker
