import AddonPicker.Proofs.Run.Doomed

/-!
# Runs that are stopped

An abort brings every run to its end that was started, whether it carries out its inquiry itself or
watches it, whether or not its deadline has passed, and whether or not it was aborted before. From
the abort on the run is stopping: a cancellation is on its way to the run, or to the inquiry that it
hangs on, or that inquiry has ended. What it ends as is left open.
-/

namespace AddonPicker

namespace Inquiry

/-- An inquiry that has ended or that a cancellation is on its way to. -/
def Ebbs (q : Inquiry) : Prop :=
  q.cancelling = true ∨ ∃ outcome, q.phase = .ended outcome

/-- What a step does to an inquiry if its catalogue intercepts no cancellation. -/
structure Steps (f : Inquiry → Inquiry) : Prop where
  goes : ∀ q, q.phase.isAsking = true →
    (f q).phase.isAsking = true ∨ ∃ outcome, (f q).phase = .ended outcome
  ebbs : ∀ q, q.Ebbs → (f q).Ebbs

theorem ebbs_cancel (q : Inquiry) : q.cancel.Ebbs := by
  rw [cancel]
  split
  · exact .inr ⟨_, ‹_›⟩
  · exact .inl rfl

theorem isAsking_of_ended {q : Inquiry} {outcome : Except Fault Closure}
    (ended : q.phase = .ended outcome) : q.phase.isAsking = false := by
  rw [ended]
  rfl

theorem Answers.steps {f : Inquiry → Inquiry} (answers : Answers f) : Steps f where
  goes := answers.goes
  ebbs q ebbs := by
    rcases ebbs with cancelled | ⟨outcome, ended⟩
    · rcases answers.interrupts q cancelled with same | interrupted
      · rw [same]
        exact .inl cancelled
      · rw [interrupted]
        exact .inr ⟨_, rfl⟩
    · rw [answers.idle q (isAsking_of_ended ended)]
      exact .inr ⟨outcome, ended⟩

/-- After what may be its first step, an inquiry asks or has ended. -/
theorem begin_cases (scope : Scope) (selected : List Choice) (q : Inquiry) :
    (q.begin scope selected).phase.isAsking = true ∨
      ∃ outcome, (q.begin scope selected).phase = .ended outcome := by
  cases phase : q.phase with
  | scheduled => exact isAsking_begin scope selected phase
  | awaitingPack question | awaitingVersion question pack =>
      rw [begin, phase]
      exact .inl (by rw [phase]; rfl)
  | ended outcome =>
      rw [begin, phase]
      exact .inr ⟨outcome, phase⟩

theorem steps_begin (scope : Scope) (selected : List Choice) : Steps (begin scope selected) where
  goes q _ := begin_cases scope selected q
  ebbs q ebbs := by
    cases phase : q.phase with
    | scheduled =>
        rcases ebbs with cancelled | ⟨outcome, ended⟩
        · rw [begin_of_cancelling phase cancelled]
          exact .inr ⟨_, rfl⟩
        · exact nomatch phase.symm.trans ended
    | awaitingPack question | awaitingVersion question pack | ended outcome =>
        rw [begin, phase]
        exact ebbs

/-- An inquiry that takes its first step and hears the answer to the lookup that it is in. -/
def heard (scope : Scope) (selected : List Choice) (pack : Except Fault (Option Pack))
    (version : Except Fault (Option Held)) (q : Inquiry) : Inquiry :=
  ((q.begin scope selected).answerPack false pack).answerVersion scope false version

/-- When a cancellation is on its way to an inquiry, it ends with that at the latest. -/
theorem Ebbs.heard {q : Inquiry} (ebbs : q.Ebbs) (scope : Scope) (selected : List Choice)
    (pack : Except Fault (Option Pack)) (version : Except Fault (Option Held)) :
    ∃ outcome, (q.heard scope selected pack version).phase = .ended outcome := by
  have packs := answers_answerPack pack
  have versions := answers_answerVersion scope version
  have stays {q : Inquiry} {outcome : Except Fault Closure} (ended : q.phase = .ended outcome) :
      ∃ outcome, ((q.answerPack false pack).answerVersion scope false version).phase =
        .ended outcome := by
    have quiet := isAsking_of_ended ended
    rw [packs.idle q quiet, versions.idle q quiet]
    exact ⟨outcome, ended⟩
  have begun := (steps_begin scope selected).ebbs q ebbs
  rw [Inquiry.heard]
  rcases begin_cases scope selected q with asking | ⟨outcome, ended⟩
  · generalize q.begin scope selected = q at begun asking
    have cancelled : q.cancelling = true := by
      refine begun.resolve_right fun ⟨outcome, ended⟩ => ?_
      exact Bool.false_ne_true ((isAsking_of_ended ended).symm.trans asking)
    rcases packs.interrupts q cancelled with same | interrupted
    · rw [same]
      -- It waits for a pack no more, so it waits for a version.
      cases phase : q.phase with
      | awaitingPack question =>
          rw [answerPack, phase, isInterrupted, cancelled] at same
          have ended : q.phase = .ended (.error .cancelled) := congrArg Inquiry.phase same.symm
          cases phase.symm.trans ended
      | awaitingVersion question pack =>
          rw [answerVersion, phase, isInterrupted, cancelled]
          exact ⟨_, rfl⟩
      | scheduled =>
          rw [phase] at asking
          exact absurd asking Bool.false_ne_true
      | ended outcome =>
          rw [phase] at asking
          exact absurd asking Bool.false_ne_true
    · rw [interrupted, versions.idle _ rfl]
      exact ⟨_, rfl⟩
  · exact stays ended

end Inquiry

/-- A step that a run may take whose catalogues intercept no cancellation. It is not woken before
its first step. -/
def RunMove.Befits {η : Type} (r : Run η) : RunMove → Prop
  | .answerPack intercepted _ => intercepted = false
  | .answerVersion intercepted _ => intercepted = false
  | .wake => r.phase ≠ .scheduled
  | _ => True

instance {η : Type} (r : Run η) : DecidablePred (RunMove.Befits r)
  | .answerPack intercepted _ => inferInstanceAs (Decidable (intercepted = false))
  | .answerVersion intercepted _ => inferInstanceAs (Decidable (intercepted = false))
  | .wake => inferInstanceAs (Decidable (r.phase ≠ .scheduled))
  | .begin | .beginInquiry | .expire | .conclude => inferInstanceAs (Decidable True)

namespace Run

variable {η : Type} {r : Run η}

/-- A run that carries out an inquiry itself waits for a lookup with it. -/
def Asks (r : Run η) : Prop :=
  r.phase.isAsking = true → r.inquiry.phase.isAsking = true

/-- A run that comes to its end whatever happens. -/
structure Stopping (r : Run η) : Prop where
  asks : r.Asks
  begun : r.phase ≠ .idle
  early : r.phase = .scheduled ∨ r.phase = .watching → r.cancelling = true
  asking : r.phase.isAsking = true → r.inquiry.Ebbs
  dismissing : ∀ cause, r.phase = .dismissing cause → r.cancelling = true ∨ r.inquiry.Ebbs

/-- A run that has left its inquiry behind. -/
def IsPast (r : Run η) : Prop :=
  r.phase = .closing ∨ r.phase = .done ∨ r.phase = .dropped

theorem IsPast.asks (past : r.IsPast) : r.Asks := by
  intro asking
  rcases past with phase | phase | phase <;> exact nomatch phase ▸ asking

theorem IsPast.stopping (past : r.IsPast) : r.Stopping := by
  refine ⟨past.asks, ?_, ?_, ?_, ?_⟩
  all_goals rcases past with phase | phase | phase <;> rw [phase] <;> simp [Phase.isAsking]

/-- A run takes its inquiry on, or it comes to its end with it. -/
theorem inquire_cases (r : Run η) (f : Inquiry → Inquiry) :
    (r.inquire f).1.phase = .closing ∧ (r.inquire f).1.state.isFinished = true ∨
      r.inquire f = ({ r with inquiry := f r.inquiry }, []) ∧
        (r.phase.isAsking = true → (f r.inquiry).outcome? = none) := by
  have finished (outcome : Except Fault Closure) (r : Run η) :
      (r.finish outcome).1.phase = .closing ∧ (r.finish outcome).1.state.isFinished = true :=
    ⟨(ending_finish outcome r).phase, isFinished_finish outcome r⟩
  have finishedTimed (outcome : Except Fault Closure) (r : Run η) :
      (r.finishTimed outcome).1.phase = .closing ∧
        (r.finishTimed outcome).1.state.isFinished = true :=
    ⟨(ending_finishTimed outcome r).phase, isFinished_finishTimed outcome r⟩
  rw [inquire]
  dsimp only
  split
  · exact .inl (finished _ _)
  · exact .inl (finishedTimed _ _)
  · rename_i other other'
    refine .inr ⟨rfl, fun asking => ?_⟩
    cases outcome : (f r.inquiry).outcome? with
    | none => rfl
    | some outcome' =>
        rcases Phase.isAsking_iff.mp asking with phase | phase
        · exact absurd outcome (other _ phase)
        · exact absurd outcome (other' _ phase)

theorem Asks.inquire (asks : r.Asks) {f : Inquiry → Inquiry} (steps : Inquiry.Steps f) :
    (r.inquire f).1.Asks := by
  rcases inquire_cases r f with ⟨closing, -⟩ | ⟨same, open_⟩
  · exact IsPast.asks (.inl closing)
  · rw [same]
    intro asking
    refine (steps.goes _ (asks asking)).resolve_right fun ⟨outcome, ended⟩ => ?_
    have heard := open_ asking
    rw [Inquiry.outcome?, ended] at heard
    cases heard

theorem Stopping.inquire (h : r.Stopping) {f : Inquiry → Inquiry} (steps : Inquiry.Steps f) :
    (r.inquire f).1.Stopping := by
  have asks := h.asks.inquire steps
  rcases inquire_cases r f with ⟨closing, -⟩ | ⟨same, -⟩
  · exact IsPast.stopping (.inl closing)
  · rw [same] at asks ⊢
    exact ⟨asks, h.begun, h.early, fun asking => steps.ebbs _ (h.asking asking),
      fun cause phase => (h.dismissing cause phase).imp_right (steps.ebbs _)⟩

/-- A run that carries out no inquiry waits for no lookup. -/
theorem asks_of_phase (quiet : r.phase.isAsking = false) : r.Asks := fun asking =>
  absurd (quiet.symm.trans asking) Bool.false_ne_true

/-- Nothing about this hangs on anything but where the run and its inquiry stand. -/
theorem Asks.of_phase (asks : r.Asks) {r' : Run η} (phase : r'.phase = r.phase)
    (inquiry : r'.inquiry.phase = r.inquiry.phase) : r'.Asks := by
  rw [Asks, phase, inquiry]
  exact asks

theorem asks_beginInquiry (r : Run η) : r.beginInquiry.1.Asks := by
  rw [beginInquiry]
  rcases inquire_cases r (Inquiry.begin r.scope r.selected) with ⟨closing, -⟩ | ⟨same, open_⟩
  · exact IsPast.asks (.inl closing)
  · rw [same]
    intro asking
    refine (Inquiry.begin_cases r.scope r.selected r.inquiry).resolve_right ?_
    rintro ⟨outcome, ended⟩
    have heard := open_ asking
    rw [Inquiry.outcome?, ended] at heard
    cases heard

theorem asks_begin (r : Run η) : r.begin.1.Asks := by
  have begins := begins_begin r
  generalize r.begin.1 = r' at begins ⊢
  cases begins with
  | drops => exact IsPast.asks (.inr (.inr rfl))
  | inquires phase => exact asks_beginInquiry _
  | watches => exact asks_of_phase rfl
  | dismisses => exact asks_of_phase rfl
  | fails f => exact IsPast.asks (.inl rfl)

theorem Asks.abort (asks : r.Asks) : r.abort.2.Asks :=
  asks.of_phase (phase_abort r) (phase_inquiry_abort r)

theorem Asks.expire (asks : r.Asks) : r.expire.Asks := by
  refine asks.of_phase ?_ (phase_inquiry_expire r)
  rw [Run.expire]
  split
  · rfl
  · split <;> rfl
  · rfl

theorem Asks.close (asks : r.Asks) : r.close.Asks := by
  rw [Run.close]
  split
  · exact IsPast.asks (.inr (.inl rfl))
  · exact asks

theorem Asks.wake (asks : r.Asks) : r.wake.1.Asks := by
  have wakes := wakes_wake r
  generalize r.wake.1 = r' at wakes ⊢
  cases wakes with
  | hears => exact IsPast.asks (.inl (ending_finish _ _).phase)
  | dismisses cause => exact asks_of_phase rfl
  | skips => exact IsPast.asks (.inl rfl)
  | ends => exact IsPast.asks (.inl (ending_finishDismissed _ _ _).phase)
  | waits => exact asks.of_phase rfl rfl

/-- A run goes on to wait for a lookup with its inquiry. -/
theorem Asks.apply (asks : r.Asks) {m : RunMove} (befits : m.Befits r) : (m.apply r).1.Asks := by
  cases m with
  | begin =>
      rw [RunMove.apply]
      split
      · exact asks_begin r
      · exact asks
  | beginInquiry => exact asks_beginInquiry r
  | answerPack intercepted answer =>
      obtain rfl : intercepted = false := befits
      exact asks.inquire (Inquiry.answers_answerPack answer).steps
  | answerVersion intercepted answer =>
      obtain rfl : intercepted = false := befits
      exact asks.inquire (Inquiry.answers_answerVersion r.scope answer).steps
  | expire => exact asks.expire
  | wake => exact asks.wake
  | conclude =>
      rw [RunMove.apply, Run.conclude]
      split
      · exact IsPast.asks (.inr (.inl rfl))
      · exact asks

/-- A run that was started is stopping from its abort on. -/
theorem Asks.stopping (asks : r.Asks) (begun : r.phase ≠ .idle) : r.abort.2.Stopping := by
  refine ⟨asks.abort, ?_, ?_, ?_, ?_⟩
  · rw [phase_abort]
    exact begun
  · rw [phase_abort]
    rintro (phase | phase) <;> rw [Run.abort, phase]
  · rw [phase_abort]
    intro asking
    rcases Phase.isAsking_iff.mp asking with phase | phase
    · rw [Run.abort, phase]
      exact Inquiry.ebbs_cancel _
    · rw [Run.abort, phase]
      exact Inquiry.ebbs_cancel _
  · rw [phase_abort]
    intro cause phase
    rw [Run.abort, phase]
    exact .inl rfl

theorem Stopping.close (h : r.Stopping) : r.close.Stopping := by
  rw [Run.close]
  split
  · exact IsPast.stopping (.inr (.inl rfl))
  · exact h

theorem Stopping.abort (h : r.Stopping) : r.abort.2.Stopping :=
  h.asks.stopping h.begun

theorem Stopping.begin (h : r.Stopping) (scheduled : r.phase = .scheduled) :
    r.begin = ({ r with phase := .dropped }, []) := by
  rw [Run.begin, if_pos (h.early (.inl scheduled))]

theorem Stopping.expire (h : r.Stopping) : r.expire.Stopping := by
  have asks := h.asks.expire
  rw [Run.expire] at asks ⊢
  split at asks
  · exact ⟨asks, h.begun, h.early, h.asking, h.dismissing⟩
  · split at asks
    · rename_i overdue
      rw [if_pos overdue]
      exact h
    · rename_i phase overdue
      rw [if_neg overdue]
      refine ⟨asks, h.begun, h.early, fun _ => Inquiry.ebbs_cancel _, fun cause dismissing => ?_⟩
      cases phase.symm.trans dismissing
  · exact h

/-- A run that has nothing left to wait for but the end of its inquiry, if that. -/
def Lingers (r : Run η) : Prop :=
  r.IsPast ∨ r.inquiry.Ebbs ∧ (r.phase.isAsking = true ∨ ∃ cause, r.phase = .dismissing cause)

theorem stopping_dismiss (r : Run η) (cause : Dismissal) :
    (r.dismiss cause).Stopping ∧ (r.dismiss cause).Lingers := by
  have ebbs := Inquiry.ebbs_cancel r.inquiry
  exact ⟨⟨asks_of_phase rfl, nofun, nofun, nofun, fun _ _ => .inr ebbs⟩,
    .inr ⟨ebbs, .inr ⟨cause, rfl⟩⟩⟩

/-- A run that has taken its first step waits for its inquiry in one way or the other, or is past
it. -/
theorem stands_of_begun (started : r.phase ≠ .idle) (begun : r.phase ≠ .scheduled) :
    r.IsPast ∨ r.phase.isAsking = true ∨ r.phase = .watching ∨
      ∃ cause, r.phase = .dismissing cause := by
  cases phase : r.phase with
  | idle => exact absurd phase started
  | scheduled => exact absurd phase begun
  | inquiring | racing => exact .inr (.inl rfl)
  | watching => exact .inr (.inr (.inl rfl))
  | dismissing cause => exact .inr (.inr (.inr ⟨cause, rfl⟩))
  | closing => exact .inl (.inl phase)
  | done => exact .inl (.inr (.inl phase))
  | dropped => exact .inl (.inr (.inr phase))

/-- A run that wakes goes on to stop, and nothing is left to wait for but the end of its inquiry. -/
theorem Stopping.wake (h : r.Stopping) (begun : r.phase ≠ .scheduled) :
    r.wake.1.Stopping ∧ r.wake.1.Lingers := by
  have past {r' : Run η} (closing : r'.phase = .closing) : r'.Stopping ∧ r'.Lingers :=
    ⟨IsPast.stopping (.inl closing), .inl (.inl closing)⟩
  have wakes := wakes_wake r
  generalize r.wake.1 = r' at wakes ⊢
  cases wakes with
  | hears => exact past (ending_finish _ _).phase
  | dismisses cause => exact stopping_dismiss _ cause
  | skips => exact past rfl
  | ends => exact past (ending_finishDismissed _ _ _).phase
  | waits quiet =>
      rcases stands_of_begun h.begun begun with past | asking | watching | ⟨cause, dismissing⟩
      · exact ⟨IsPast.stopping (r := { r with cancelling := false }) past, .inl past⟩
      · have waits {p : Phase} (phase : r.phase = p) : p.isAsking = true := phase ▸ asking
        refine ⟨⟨h.asks, h.begun, ?_, h.asking, fun cause dismissing => ?_⟩,
          .inr ⟨h.asking asking, .inl asking⟩⟩
        · rintro (phase | phase) <;> exact absurd (waits phase) Bool.false_ne_true
        · exact absurd (waits dismissing) Bool.false_ne_true
      · have uncalled := quiet (by rw [watching]; rfl)
        exact absurd (uncalled.symm.trans (h.early (.inr watching))) Bool.false_ne_true
      · have uncalled := quiet (by rw [dismissing]; rfl)
        have ebbs : r.inquiry.Ebbs := (h.dismissing cause dismissing).resolve_left fun cancels =>
          Bool.false_ne_true (uncalled.symm.trans cancels)
        refine ⟨⟨asks_of_phase ?_, h.begun, ?_, h.asking, fun _ _ => .inr ebbs⟩,
          .inr ⟨ebbs, .inr ⟨cause, dismissing⟩⟩⟩
        · simp only [dismissing]
          rfl
        · simp only [dismissing]
          rintro (phase | phase) <;> cases phase

/-- Whatever happens to a run that is stopping, it goes on to stop. -/
theorem Stopping.apply (h : r.Stopping) {m : RunMove} (befits : m.Befits r) :
    (m.apply r).1.Stopping := by
  cases m with
  | begin =>
      rw [RunMove.apply]
      split
      · rename_i scheduled
        rw [h.begin scheduled]
        exact IsPast.stopping (.inr (.inr rfl))
      · exact h
  | beginInquiry => exact h.inquire (Inquiry.steps_begin r.scope r.selected)
  | answerPack intercepted answer =>
      obtain rfl : intercepted = false := befits
      exact h.inquire (Inquiry.answers_answerPack answer).steps
  | answerVersion intercepted answer =>
      obtain rfl : intercepted = false := befits
      exact h.inquire (Inquiry.answers_answerVersion r.scope answer).steps
  | expire => exact h.expire
  | wake => exact (h.wake befits).1
  | conclude =>
      rw [RunMove.apply, Run.conclude]
      split
      · exact IsPast.stopping (.inr (.inl rfl))
      · exact h

end Run

namespace RunMove

/-- The steps of an inquiry that takes its first step and hears the answer to the lookup that it is
in. -/
def hearing (pack : Except Fault (Option Pack)) (version : Except Fault (Option Held)) :
    List RunMove :=
  [.beginInquiry, .answerPack false pack, .answerVersion false version]

/-- One turn of everything that a run may wait for: its first step, what it hears of its inquiry and
what that hears, and the announcement of its end. -/
def round (pack : Except Fault (Option Pack)) (version : Except Fault (Option Held)) :
    List RunMove :=
  [.begin, .wake] ++ hearing pack version ++ [.wake, .conclude]

end RunMove

namespace Run

variable {η : Type} {r : Run η}

/-- A run that takes steps, one after the other. -/
def taking (moves : List RunMove) (r : Run η) : Run η :=
  RunEvent.afterAll (moves.map .move) r

theorem taking_append (before later : List RunMove) (r : Run η) :
    r.taking (before ++ later) = (r.taking before).taking later := by
  rw [taking, List.map_append, RunEvent.afterAll_append]
  rfl

theorem Consistent.taking (h : r.Consistent) (moves : List RunMove) : (r.taking moves).Consistent :=
  RunEvent.consistent_afterAll _ h

/-- A finished run is finished whatever steps it takes. -/
theorem Consistent.isFinished_taking (h : r.Consistent) (finished : r.state.isFinished = true)
    (moves : List RunMove) : (r.taking moves).state.isFinished = true := by
  rw [Run.taking, RunEvent.state_afterAll h finished]
  exact finished

theorem IsPast.close (past : r.IsPast) : r.close.IsPast := by
  rw [Run.close]
  split
  · exact .inr (.inl rfl)
  · exact past

theorem phase_close_of_ne (r : Run η) {p : Phase} (other : p ≠ .done) (phase : r.close.phase = p) :
    r.phase = p := by
  rw [Run.close] at phase
  split at phase
  · exact absurd phase.symm other
  · exact phase

theorem Lingers.close (lingers : r.Lingers) : r.close.Lingers := by
  rcases lingers with past | ⟨ebbs, waits⟩
  · exact .inl past.close
  · have open_ : r.close = r := by
      refine r.close_of_ne fun closing => ?_
      rcases waits with asking | ⟨cause, dismissing⟩
      · exact nomatch closing ▸ asking
      · exact nomatch closing.symm.trans dismissing
    rw [open_]
    exact .inr ⟨ebbs, waits⟩

theorem Consistent.isFinished_of_closing (h : r.Consistent) (closing : r.phase = .closing) :
    r.state.isFinished = true := by
  have fits := h.phase
  rw [closing] at fits
  exact fits

theorem state_close (r : Run η) : r.close.state = r.state := by
  unfold Run.close
  split <;> rfl

/-- A run that takes its inquiry on is finished, or it stands where it stood. -/
theorem close_inquire_cases (h : r.Consistent) (f : Inquiry → Inquiry) :
    (r.inquire f).1.close.state.isFinished = true ∨
      (r.inquire f).1.close = { r with inquiry := f r.inquiry } ∧
        (r.phase.isAsking = true → (f r.inquiry).outcome? = none) := by
  rcases inquire_cases r f with ⟨-, finished⟩ | ⟨same, open_⟩
  · rw [state_close]
    exact .inl finished
  · rw [same]
    by_cases closing : r.phase = .closing
    · rw [state_close]
      exact .inl (h.isFinished_of_closing closing)
    · exact .inr ⟨close_of_ne { r with inquiry := f r.inquiry } closing, open_⟩

/-- A run that takes its inquiry on is finished after that, or it goes on from where it stood. -/
theorem taking_cons_inquire (h : r.Consistent) {m : RunMove} {f : Inquiry → Inquiry}
    (inquires : m.apply r = r.inquire f) (later : List RunMove) :
    (r.taking (m :: later)).state.isFinished = true ∨
      r.taking (m :: later) = ({ r with inquiry := f r.inquiry } : Run η).taking later ∧
        (r.phase.isAsking = true → (f r.inquiry).outcome? = none) := by
  have step : r.taking (m :: later) = (r.inquire f).1.close.taking later :=
    congrArg (fun t : Run η × List (Effect η) => t.1.close.taking later) inquires
  rw [step]
  rcases close_inquire_cases h f with finished | ⟨same, open_⟩
  · have consistent : (r.inquire f).1.close.Consistent :=
      inquires ▸ RunEvent.consistent_after h (.move m)
    exact .inl (consistent.isFinished_taking finished later)
  · rw [same]
    exact .inr ⟨rfl, open_⟩

/-- A run whose inquiry hears what it waits for is finished, or it stands where it stood. -/
theorem hearing_cases (h : r.Consistent) (pack : Except Fault (Option Pack))
    (version : Except Fault (Option Held)) :
    (r.taking (RunMove.hearing pack version)).state.isFinished = true ∨
      r.taking (RunMove.hearing pack version) =
          { r with inquiry := r.inquiry.heard r.scope r.selected pack version } ∧
        (r.phase.isAsking = true →
          (r.inquiry.heard r.scope r.selected pack version).outcome? = none) := by
  have moved (inquiry : Inquiry) : ({ r with inquiry } : Run η).Consistent := h.of_view rfl h.phase
  rw [RunMove.hearing]
  rcases taking_cons_inquire h (m := .beginInquiry) rfl _ with finished | ⟨begun, -⟩
  · exact .inl finished
  · rw [begun]
    rcases taking_cons_inquire (moved _) (m := .answerPack false pack) rfl _ with
      finished | ⟨packed, -⟩
    · exact .inl finished
    · rw [packed]
      exact taking_cons_inquire (moved _) (m := .answerVersion false version) rfl []

/-- A run that waits for the end of its inquiry is finished when it wakes after that. -/
theorem isFinished_wake {cause : Dismissal} (dismissing : r.phase = .dismissing cause)
    {outcome : Except Fault Closure} (ended : r.inquiry.phase = .ended outcome) :
    r.wake.1.state.isFinished = true := by
  have heard : r.inquiry.outcome? = some outcome := by rw [Inquiry.outcome?, ended]
  rw [wake]
  dsimp only
  rw [dismissing, heard]
  dsimp only
  split
  · rfl
  · exact isFinished_finishDismissed _ _ _

/-- A run that is past its inquiry, whether or not it is woken, is finished once its end has been
announced. -/
theorem IsPast.finished (past : r.IsPast) (h : r.Consistent) :
    (r.taking [.wake, .conclude]).state.isFinished = true := by
  have fits := h.phase
  rcases past with phase | phase | phase
  · rw [phase] at fits
    exact h.isFinished_taking fits _
  · rw [phase] at fits
    exact h.isFinished_taking fits _
  · have woken : r.wake.1.close = { r with cancelling := false } := by
      rw [wake]
      dsimp only
      rw [phase]
      exact close_of_ne _ Phase.noConfusion
    show r.wake.1.close.conclude.1.close.state.isFinished = true
    rw [woken, conclude, phase]
    rfl

/-- A run that has nothing left to wait for but the end of its inquiry comes to its end with it. -/
theorem Lingers.finished (lingers : r.Lingers) (h : r.Consistent)
    (pack : Except Fault (Option Pack)) (version : Except Fault (Option Held)) :
    (r.taking (RunMove.hearing pack version ++ [.wake, .conclude])).state.isFinished = true := by
  have consistent := h.taking (RunMove.hearing pack version)
  rw [taking_append]
  rcases hearing_cases h pack version with finished | ⟨same, open_⟩
  · exact consistent.isFinished_taking finished _
  · rw [same] at consistent ⊢
    rcases lingers with past | ⟨ebbs, waits⟩
    · exact IsPast.finished (r := { r with inquiry := _ }) past consistent
    · obtain ⟨outcome, ended⟩ := ebbs.heard r.scope r.selected pack version
      rcases waits with asking | ⟨cause, dismissing⟩
      · have none_ := open_ asking
        rw [Inquiry.outcome?, ended] at none_
        cases none_
      · generalize r.inquiry.heard r.scope r.selected pack version = inquiry at ended consistent ⊢
        have finished := isFinished_wake (r := { r with inquiry }) dismissing ended
        rw [← state_close] at finished
        have woken := RunEvent.consistent_after consistent (.move .wake)
        exact woken.isFinished_taking finished [.conclude]

/-- A run that is stopping is finished within one round, whatever the answers are. -/
theorem Stopping.round (h : r.Stopping) (consistent : r.Consistent)
    (pack : Except Fault (Option Pack)) (version : Except Fault (Option Held)) :
    (r.taking (RunMove.round pack version)).state.isFinished = true := by
  have begun : (r.taking [.begin]).Stopping ∧ (r.taking [.begin]).phase ≠ .scheduled := by
    refine ⟨(h.apply (m := .begin) trivial).close, fun scheduled => ?_⟩
    have scheduled := phase_close_of_ne (RunMove.begin.apply r).1 Phase.noConfusion scheduled
    rw [RunMove.apply] at scheduled
    split at scheduled
    · rename_i before
      rw [h.begin before] at scheduled
      cases scheduled
    · contradiction
  have lingers : (r.taking [.begin, .wake]).Lingers := (begun.1.wake begun.2).2.close
  rw [RunMove.round, List.append_assoc, taking_append]
  exact lingers.finished (consistent.taking _) pack version

end Run

end AddonPicker
