import AddonPicker.Proofs.Run.Inner

/-!
# Doomed runs

A run that carries out its inquiry itself hears of an abort when it next goes on. From the abort on
it is doomed: it may go on waiting for the lookup that it is in, but it starts no other, and there
is nothing that it can end as but skipped.
-/

namespace AddonPicker.Run

variable {η : Type} {r : Run η}

/-- A run whose cancellation is on its way. -/
structure Doomed (r : Run η) : Prop extends Inner r where
  begun : r.phase ≠ .idle
  early : r.phase = .scheduled → r.cancelling = true
  racing : r.phase = .racing → r.cancelling = true
  cancelled : r.phase.isAsking = true → r.inquiry.cancelling = true
  ended : r.state.isFinished = true → r.state = .skipped

theorem phase_abort (r : Run η) : r.abort.2.phase = r.phase := by
  unfold Run.abort
  split <;> rfl

/-- Asking for the cancellation of a run that waits for a lookup with its inquiry cancels that. -/
theorem cancelling_abort (waits : r.inquiry.phase.isAsking = true)
    (asking : r.phase.isAsking = true) : r.abort.2.inquiry.cancelling = true := by
  have cancelled := Inquiry.cancelling_cancel waits
  rcases Phase.isAsking_iff.mp asking with phase | phase
  · rw [Run.abort, phase]
    exact cancelled
  · rw [Run.abort, phase]
    exact cancelled

/-- A running run that is aborted is doomed. -/
theorem Inner.doomed (h : r.Inner) (consistent : r.Consistent) (running : r.state = .running) :
    r.abort.2.Doomed := by
  refine { h.abort with begun := ?_, early := ?_, racing := ?_, cancelled := ?_, ended := ?_ }
  · rw [phase_abort]
    intro idle
    cases running.symm.trans (consistent.state_of_phase idle fun _ fits => fits)
  · rw [phase_abort]
    intro phase
    rw [Run.abort, phase]
  · rw [phase_abort]
    intro phase
    rw [Run.abort, phase]
  · rw [phase_abort]
    exact fun asking => cancelling_abort (h.asking.trans asking) asking
  · rw [r.abort_snd_eq.1, running]
    exact fun finished => absurd finished Bool.false_ne_true

/-- A run that carries out its inquiry is skipped when that ends by a cancellation, if it was asked
for its own. -/
theorem inquire_of_interrupted {f : Inquiry → Inquiry} (asking : r.phase.isAsking = true)
    (called : r.phase = .racing → r.cancelling = true)
    (interrupted : f r.inquiry = .ofOutcome (.error .cancelled)) :
    r.inquire f = ({ r with inquiry := .ofOutcome (.error .cancelled) } : Run η).skip := by
  rcases Phase.isAsking_iff.mp asking with phase | phase
  · simp only [inquire, phase, interrupted, Inquiry.outcome?_ofOutcome, finish]
  · simp only [inquire, phase, interrupted, Inquiry.outcome?_ofOutcome, finishTimed, called phase,
      Bool.not_true, Bool.and_false, Bool.false_eq_true, if_false]

theorem Doomed.answered (h : r.Doomed) {f : Inquiry → Inquiry} (answers : Inquiry.Answers f) :
    r.inquire f = (r, []) ∨
      r.inquire f = ({ r with inquiry := .ofOutcome (.error .cancelled) } : Run η).skip := by
  cases asking : r.phase.isAsking with
  | false => exact .inl (inquire_of_quiet asking (answers.idle _ (h.asking.trans asking)))
  | true =>
      rcases answers.interrupts _ (h.cancelled asking) with same | interrupted
      · left
        rw [inquire_of_isAsking, same]
        rw [same, h.asking, asking]
      · exact .inr (inquire_of_interrupted asking h.racing interrupted)

/-- What a doomed run ends as. -/
theorem Inner.skipped (h : r.Inner) (state : r.state = .skipped)
    (past : r.phase = .closing ∨ r.phase = .done) : r.Doomed := by
  refine { h with begun := ?_, early := ?_, racing := ?_, cancelled := ?_, ended := fun _ => state }
  all_goals rcases past with phase | phase <;> rw [phase] <;> exact nofun

/-- Nothing about this hangs on anything but what is on its way to a run that stands where it
stood. -/
theorem Doomed.of_phase (h : r.Doomed) {r' : Run η} (inner : r'.Inner) (phase : r'.phase = r.phase)
    (state : r'.state = r.state) (cancelling : r.cancelling = true → r'.cancelling = true)
    (inquiry : r.inquiry.cancelling = true → r'.inquiry.cancelling = true) : r'.Doomed := by
  refine { inner with begun := ?_, early := ?_, racing := ?_, cancelled := ?_, ended := ?_ }
  · rw [phase]
    exact h.begun
  · rw [phase]
    exact fun scheduled => cancelling (h.early scheduled)
  · rw [phase]
    exact fun racing => cancelling (h.racing racing)
  · rw [phase]
    exact fun asking => inquiry (h.cancelled asking)
  · rw [state]
    exact h.ended

theorem Doomed.close (h : r.Doomed) (consistent : r.Consistent) : r.close.Doomed := by
  have inner := h.toInner.close
  rw [Run.close] at inner ⊢
  split at inner
  · rename_i closing
    have finished : r.state.isFinished = true := by
      have fits := consistent.phase
      rw [closing] at fits
      exact fits
    exact inner.skipped (h.ended finished) (.inr rfl)
  · exact h

theorem Doomed.abort (h : r.Doomed) (consistent : r.Consistent) : r.abort.2.Doomed := by
  cases state : r.state with
  | idle => exact absurd (consistent.phase_of_idle state) h.begun
  | running => exact h.toInner.doomed consistent state
  | succeeded | failed | skipped =>
      rw [abort_of_isFinished consistent (by rw [state]; rfl)]
      exact h

theorem Doomed.expire (h : r.Doomed) : r.expire.Doomed := by
  rw [Run.expire]
  split
  · exact h.of_phase (h.toInner.of_phase rfl rfl rfl rfl) rfl rfl id id
  · split
    · exact h
    · exact h.of_phase (h.toInner.of_phase rfl rfl rfl (Inquiry.phase_cancel _)) rfl rfl id
        Inquiry.cancelling_cancel_of_cancelling
  · exact h

/-- A doomed run that comes to its first step does not take it. -/
theorem Doomed.begin (h : r.Doomed) (scheduled : r.phase = .scheduled) :
    r.begin = ({ r with phase := .dropped }, []) := by
  rw [Run.begin, if_pos (h.early scheduled)]

theorem Doomed.dropped (h : r.Doomed) (scheduled : r.phase = .scheduled) :
    ({ r with phase := .dropped } : Run η).Doomed := by
  have quiet : r.inquiry.phase.isAsking = false := by rw [h.asking, scheduled]; rfl
  have inner : ({ r with phase := .dropped } : Run η).Inner :=
    .of_past h.timely h.within (.inr (.inr rfl)) quiet
  exact { inner with
    begun := nofun, early := nofun, racing := nofun, cancelled := nofun, ended := h.ended }

/-- A step of its own leaves a doomed run doomed and starts no lookup. -/
theorem Doomed.apply (h : r.Doomed) {m : RunMove} (direct : m.isDirect = true) :
    (m.apply r).1.Doomed ∧ r.inquiry.Rests (m.apply r).1.inquiry := by
  have answered {f : Inquiry → Inquiry} (answers : Inquiry.Answers f) :
      (r.inquire f).1.Doomed ∧ r.inquiry.Rests (r.inquire f).1.inquiry := by
    have inner := h.toInner.answered answers
    rcases h.answered answers with same | skipped
    · rw [same]
      exact ⟨h, .inl rfl⟩
    · rw [skipped] at inner ⊢
      exact ⟨inner.skipped rfl (.inl rfl), .inr ⟨_, rfl⟩⟩
  cases m with
  | begin =>
      rw [RunMove.apply]
      split
      · rename_i scheduled
        rw [h.begin scheduled]
        exact ⟨h.dropped scheduled, .inl rfl⟩
      · exact ⟨h, .inl rfl⟩
  | beginInquiry => exact absurd direct Bool.false_ne_true
  | answerPack intercepted answer =>
      cases intercepted with
      | true => exact absurd direct Bool.false_ne_true
      | false => exact answered (Inquiry.answers_answerPack answer)
  | answerVersion intercepted answer =>
      cases intercepted with
      | true => exact absurd direct Bool.false_ne_true
      | false => exact answered (Inquiry.answers_answerVersion r.scope answer)
  | expire => exact ⟨h.expire, .inl (phase_inquiry_expire r)⟩
  | wake => exact absurd direct Bool.false_ne_true
  | conclude =>
      have inner := h.toInner.conclude
      rw [RunMove.apply]
      rw [Run.conclude] at inner ⊢
      split at inner
      · exact ⟨inner.skipped rfl (.inr rfl), .inl rfl⟩
      · exact ⟨h, .inl rfl⟩

/-- Whatever happens to a doomed run, it stays doomed and starts no lookup. -/
theorem Doomed.after (h : r.Doomed) (consistent : r.Consistent) {e : RunEvent η}
    (direct : e.isDirect = true) :
    (e.after r).Doomed ∧ r.inquiry.Rests (e.after r).inquiry := by
  cases e with
  | register occasion handler =>
      exact ⟨h.of_phase (h.toInner.of_phase rfl rfl rfl rfl) rfl rfl id id, .inl rfl⟩
  | start =>
      have busy : r.state ≠ .idle := fun idle => h.begun (consistent.phase_of_idle idle)
      rw [RunEvent.after, if_neg busy]
      exact ⟨h, .inl rfl⟩
  | abort => exact ⟨h.abort consistent, .inl (phase_inquiry_abort r)⟩
  | move m =>
      obtain ⟨doomed, rests⟩ := h.apply direct
      refine ⟨doomed.close ?_, ?_⟩
      · rcases m.stays_or_ends consistent with stays | ends
        · exact stays.consistent
        · exact ends.consistent
      · rw [RunEvent.after, inquiry_close]
        exact rests

theorem close_of_ne (r : Run η) (open_ : r.phase ≠ .closing) : r.close = r := by
  unfold Run.close
  split
  · exact absurd ‹_› open_
  · rfl

end AddonPicker.Run

namespace AddonPicker.RunEvent

variable {η : Type}

/-- Whatever happens to a doomed run in whatever order, it stays doomed and starts no lookup. -/
theorem doomed_afterAll {events : List (RunEvent η)} (direct : ∀ e ∈ events, e.isDirect = true)
    {r : Run η} (consistent : r.Consistent) (h : r.Doomed) :
    (afterAll events r).Doomed ∧ r.inquiry.Rests (afterAll events r).inquiry := by
  induction events generalizing r with
  | nil => exact ⟨h, .inl rfl⟩
  | cons e later ih =>
      obtain ⟨doomed, rests⟩ := h.after consistent (direct e List.mem_cons_self)
      have later := ih (fun e among => direct e (List.mem_cons_of_mem _ among))
        (e.consistent_after consistent) doomed
      exact ⟨later.1, rests.trans later.2⟩

/-- One turn of everything that a run may wait for: its first step, an answer to the lookup that it
is in, and the announcement of its end. -/
def turn (pack : Except Fault (Option Pack)) (version : Except Fault (Option Held)) :
    List (RunEvent η) :=
  [.move .begin, .move (.answerPack false pack), .move (.answerVersion false version),
    .move .conclude]

end AddonPicker.RunEvent

namespace AddonPicker.Run

variable {η : Type} {r : Run η}

/-- The end of a run that never took its first step waits for its announcement only. -/
theorem Doomed.announced (h : r.Doomed) (dropped : r.phase = .dropped)
    (pack : Except Fault (Option Pack)) (version : Except Fault (Option Held)) :
    (RunEvent.afterAll [.move (.answerPack false pack), .move (.answerVersion false version),
      .move .conclude] r).state = .skipped := by
  have quiet : r.phase.isAsking = false := by rw [dropped]; rfl
  have open_ : r.close = r := r.close_of_ne (by rw [dropped]; exact nofun)
  have unheard {f : Inquiry → Inquiry} (answers : Inquiry.Answers f) :
      (r.inquire f).1.close = r := by
    rw [inquire_of_quiet quiet (answers.idle _ (h.asking.trans quiet))]
    exact open_
  have packed : (RunEvent.move (.answerPack false pack)).after r = r :=
    unheard (Inquiry.answers_answerPack pack)
  have versioned : (RunEvent.move (.answerVersion false version)).after r = r :=
    unheard (Inquiry.answers_answerVersion r.scope version)
  simp only [RunEvent.afterAll, List.foldl_cons, List.foldl_nil, packed, versioned]
  rw [RunEvent.after, RunMove.apply, Run.conclude, dropped]
  rfl

/-- A doomed run ends with the lookup that it is in. -/
theorem Doomed.interrupted (h : r.Doomed) (consistent : r.Consistent)
    (asking : r.phase.isAsking = true) (pack : Except Fault (Option Pack))
    (version : Except Fault (Option Held)) :
    (RunEvent.afterAll [.move (.answerPack false pack), .move (.answerVersion false version)]
      r).state = .skipped := by
  have cancelled := h.cancelled asking
  cases inquiry : r.inquiry.phase with
  | awaitingPack question =>
      have stopped : r.inquiry.answerPack false pack = .ofOutcome (.error .cancelled) := by
        rw [Inquiry.answerPack, inquiry, Inquiry.isInterrupted, cancelled]
        rfl
      have ended : (RunEvent.move (.answerPack false pack)).after r =
          ({ r with inquiry := .ofOutcome (.error .cancelled) } : Run η).skip.1.close := by
        rw [RunEvent.after, RunMove.apply, inquire_of_interrupted asking h.racing stopped]
      have consistent := RunEvent.consistent_after consistent (.move (.answerPack false pack))
      rw [ended] at consistent
      show (RunEvent.afterAll _ ((RunEvent.move (.answerPack false pack)).after r)).state = _
      rw [ended]
      exact RunEvent.state_afterAll consistent rfl _
  | awaitingVersion question found =>
      have unheard : r.inquiry.answerPack false pack = r.inquiry := by
        rw [Inquiry.answerPack, inquiry]
      have going : (r.inquiry.answerPack false pack).phase.isAsking = true := by
        rw [unheard, h.asking, asking]
      have stopped : r.inquiry.answerVersion r.scope false version =
          .ofOutcome (.error .cancelled) := by
        rw [Inquiry.answerVersion, inquiry, Inquiry.isInterrupted, cancelled]
        rfl
      have packed : (RunEvent.move (.answerPack false pack)).after r = r := by
        rw [RunEvent.after, RunMove.apply, inquire_of_isAsking going, unheard]
        refine r.close_of_ne fun closing => ?_
        rw [closing] at asking
        exact absurd asking Bool.false_ne_true
      show ((RunEvent.move (.answerVersion false version)).after
        ((RunEvent.move (.answerPack false pack)).after r)).state = _
      rw [packed, RunEvent.after, RunMove.apply, inquire_of_interrupted asking h.racing stopped]
      rfl
  | scheduled | ended outcome =>
      have waits := h.asking.trans asking
      rw [inquiry] at waits
      exact absurd waits Bool.false_ne_true

/-- A doomed run ends within one turn, whatever the answers are. -/
theorem Doomed.turn (h : r.Doomed) (consistent : r.Consistent)
    (pack : Except Fault (Option Pack)) (version : Except Fault (Option Held)) :
    (RunEvent.afterAll (RunEvent.turn pack version) r).state = .skipped := by
  have begun (late : r.phase ≠ .scheduled) (open_ : r.phase ≠ .closing) :
      (RunEvent.move .begin).after r = r := by
    rw [RunEvent.after, RunMove.apply, if_neg late]
    exact r.close_of_ne open_
  cases phase : r.phase with
  | idle => exact absurd phase h.begun
  | scheduled =>
      have dropped : (RunEvent.move .begin).after r = { r with phase := .dropped } := by
        rw [RunEvent.after, RunMove.apply, if_pos phase, h.begin phase]
        rfl
      show (RunEvent.afterAll _ ((RunEvent.move .begin).after r)).state = _
      rw [dropped]
      exact (h.dropped phase).announced rfl pack version
  | dropped =>
      show (RunEvent.afterAll _ ((RunEvent.move .begin).after r)).state = _
      rw [begun (by simp [phase]) (by simp [phase])]
      exact h.announced phase pack version
  | watching | dismissing cause =>
      have alone := h.alone
      rw [phase] at alone
      exact absurd alone Bool.false_ne_true.symm
  | closing | done =>
      have finished : r.state.isFinished = true := by
        have fits := consistent.phase
        rw [phase] at fits
        exact fits
      rw [RunEvent.state_afterAll consistent finished]
      exact h.ended finished
  | inquiring | racing =>
      show (RunEvent.afterAll ([.move (.answerPack false pack),
        .move (.answerVersion false version)] ++ [.move .conclude])
          ((RunEvent.move .begin).after r)).state = _
      rw [begun (by simp [phase]) (by simp [phase]), RunEvent.afterAll_append]
      have skipped := h.interrupted consistent (by rw [phase]; rfl) pack version
      rw [RunEvent.state_afterAll (RunEvent.consistent_afterAll _ consistent) (by rw [skipped]; rfl)]
      exact skipped

end AddonPicker.Run
