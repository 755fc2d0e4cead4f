import AddonPicker.Proofs.Run.LifeCycle

/-!
# Runs that carry out their inquiry themselves

A run carries out its inquiry itself if it has no timeout, and if the runtime has it do so against
its deadline. It then waits for a lookup exactly while its inquiry does, and nothing goes on apart
from it. A timeout of zero or less is left out, since its inquiry ends before the first step.
-/

namespace AddonPicker

namespace InquiryPhase

/-- Whether an inquiry waits for a lookup. -/
def isAsking : InquiryPhase → Bool
  | .awaitingPack _ => true
  | .awaitingVersion _ _ => true
  | _ => false

end InquiryPhase

namespace Inquiry

/-- From one moment to a later one, an inquiry starts no lookup. -/
def Rests (q q' : Inquiry) : Prop :=
  q'.phase = q.phase ∨ ∃ outcome, q'.phase = .ended outcome

theorem Rests.trans {q q' q'' : Inquiry} (first : q.Rests q') (later : q'.Rests q'') :
    q.Rests q'' := by
  rcases later with same | ended
  · rw [Rests, same]
    exact first
  · exact .inr ended

/-- What the answer to a lookup does to an inquiry whose catalogue intercepts no cancellation. -/
structure Answers (f : Inquiry → Inquiry) : Prop where
  /-- An inquiry that waits for no lookup has no use for an answer. -/
  idle : ∀ q, q.phase.isAsking = false → f q = q
  goes : ∀ q, q.phase.isAsking = true →
    (f q).phase.isAsking = true ∨ ∃ outcome, (f q).phase = .ended outcome
  interrupts : ∀ q, q.cancelling = true → f q = q ∨ f q = ofOutcome (.error .cancelled)

/-- Where a search leads, an inquiry asks or has ended. -/
theorem isAsking_ofProgress (p : Progress) :
    (ofProgress p).phase.isAsking = true ∨ ∃ outcome, (ofProgress p).phase = .ended outcome := by
  cases p with
  | asking question => exact .inl rfl
  | finished closure => exact .inr ⟨_, rfl⟩
  | failed fault => exact .inr ⟨_, rfl⟩

/-- After its first step, an inquiry asks or has ended. -/
theorem isAsking_begin (scope : Scope) (selected : List Choice) {q : Inquiry}
    (fresh : q.phase = .scheduled) :
    (q.begin scope selected).phase.isAsking = true ∨
      ∃ outcome, (q.begin scope selected).phase = .ended outcome := by
  rw [begin, fresh]
  dsimp only
  split
  · exact .inr ⟨_, rfl⟩
  · exact isAsking_ofProgress _

theorem answers_answerPack (answer : Except Fault (Option Pack)) :
    Answers (answerPack false answer) where
  idle q quiet := by
    rw [answerPack]
    split
    · rename_i waiting
      rw [waiting] at quiet
      cases quiet
    · rfl
  goes q asking := by
    rw [answerPack]
    split
    · split
      · exact .inr ⟨_, rfl⟩
      · cases answer with
        | ok pack => exact .inl rfl
        | error fault => exact .inr ⟨_, rfl⟩
    · exact .inl asking
  interrupts q cancelled := by
    rw [answerPack, isInterrupted, cancelled]
    split
    · exact .inr rfl
    · exact .inl rfl

theorem answers_answerVersion (scope : Scope) (answer : Except Fault (Option Held)) :
    Answers (answerVersion scope false answer) where
  idle q quiet := by
    rw [answerVersion]
    split
    · rename_i waiting
      rw [waiting] at quiet
      exact nomatch quiet
    · rfl
  goes q asking := by
    rw [answerVersion]
    split
    · split
      · exact .inr ⟨_, rfl⟩
      · cases answer with
        | ok version => exact isAsking_ofProgress _
        | error fault => exact .inr ⟨_, rfl⟩
    · exact .inl asking
  interrupts q cancelled := by
    rw [answerVersion, isInterrupted, cancelled]
    split
    · exact .inr rfl
    · exact .inl rfl

theorem cancelling_cancel {q : Inquiry} (asking : q.phase.isAsking = true) :
    q.cancel.cancelling = true := by
  rw [cancel]
  split
  · rename_i ended
    rw [ended] at asking
    exact nomatch asking
  · rfl

theorem cancelling_cancel_of_cancelling {q : Inquiry} (cancelled : q.cancelling = true) :
    q.cancel.cancelling = true := by
  rw [cancel]
  split
  · exact cancelled
  · rfl

end Inquiry

/-- A step of a run that carries out its inquiry itself, so that the inquiry takes no step by itself
and the run is not woken for it. No lookup intercepts a cancellation. -/
def RunMove.isDirect : RunMove → Bool
  | .beginInquiry => false
  | .wake => false
  | .answerPack intercepted _ => !intercepted
  | .answerVersion intercepted _ => !intercepted
  | _ => true

/-- Something that happens to a run that carries out its inquiry itself. -/
def RunEvent.isDirect {η : Type} : RunEvent η → Bool
  | .move m => m.isDirect
  | _ => true

/-- Whether a run carries out its inquiry. -/
def Phase.isAsking : Phase → Bool
  | .inquiring => true
  | .racing => true
  | _ => false

theorem Phase.isAsking_iff {p : Phase} : p.isAsking = true ↔ p = .inquiring ∨ p = .racing := by
  cases p <;> simp [isAsking]

namespace Run

variable {η : Type} {r : Run η}

/-- A run that carries out its inquiry itself. -/
structure Inner (r : Run η) : Prop where
  timely : Deadline.ofTimeout r.timeout ≠ .passed
  within : r.timeout = .null ∨ r.conduct = .within
  alone : r.phase.isWaiting = false
  fresh : r.phase = .idle ∨ r.phase = .scheduled → r.inquiry.phase = .scheduled
  /-- The run waits for a lookup exactly while its inquiry does. -/
  asking : r.inquiry.phase.isAsking = r.phase.isAsking

theorem inner_new (selected : List Choice) (scope : Scope) {timeout : Value} {conduct : Conduct}
    (timely : Deadline.ofTimeout timeout ≠ .passed)
    (within : timeout = .null ∨ conduct = .within) :
    ({ selected, scope, timeout, conduct } : Run η).Inner :=
  ⟨timely, within, rfl, fun _ => rfl, rfl⟩

/-- Nothing about this hangs on anything but where the run and its inquiry stand. -/
theorem Inner.of_phase (h : r.Inner) {r' : Run η} (timeout : r'.timeout = r.timeout)
    (conduct : r'.conduct = r.conduct) (phase : r'.phase = r.phase)
    (inquiry : r'.inquiry.phase = r.inquiry.phase) : r'.Inner := by
  obtain ⟨timely, within, alone, fresh, asking⟩ := h
  constructor
  · rw [timeout]
    exact timely
  · rw [timeout, conduct]
    exact within
  · rw [phase]
    exact alone
  · rw [phase, inquiry]
    exact fresh
  · rw [phase, inquiry]
    exact asking

/-- A run that has left its inquiry behind. -/
theorem Inner.of_past (timely : Deadline.ofTimeout r.timeout ≠ .passed)
    (within : r.timeout = .null ∨ r.conduct = .within)
    (past : r.phase = .closing ∨ r.phase = .done ∨ r.phase = .dropped)
    (quiet : r.inquiry.phase.isAsking = false) : r.Inner := by
  refine ⟨timely, within, ?_, ?_, ?_⟩
  · rcases past with past | past | past <;> rw [past] <;> rfl
  · rcases past with past | past | past <;> rw [past] <;> simp
  · rw [quiet]
    rcases past with past | past | past <;> rw [past] <;> rfl

theorem Inner.close (h : r.Inner) : r.close.Inner := by
  rw [Run.close]
  split
  · rename_i closing
    have quiet : r.inquiry.phase.isAsking = false := by rw [h.asking, closing]; rfl
    exact Inner.of_past h.timely h.within (.inr (.inl rfl)) quiet
  · exact h

theorem Inner.abort (h : r.Inner) : r.abort.2.Inner := by
  rw [Run.abort]
  split
  case h_5 => exact h.of_phase rfl rfl rfl (Inquiry.phase_cancel _)
  case h_6 => exact h.of_phase rfl rfl rfl (Inquiry.phase_cancel _)
  case h_7 => exact h.of_phase rfl rfl rfl rfl
  all_goals exact h

theorem Inner.expire (h : r.Inner) : r.expire.Inner := by
  rw [Run.expire]
  split
  · exact h.of_phase rfl rfl rfl rfl
  · split
    · exact h
    · exact h.of_phase rfl rfl rfl (Inquiry.phase_cancel _)
  · exact h

/-- `r'` is `r` brought to its end, with the inquiry as it was. -/
structure Ending (r r' : Run η) : Prop where
  phase : r'.phase = .closing
  inquiry : r'.inquiry = r.inquiry
  timeout : r'.timeout = r.timeout
  conduct : r'.conduct = r.conduct

theorem ending_finish (outcome : Except Fault Closure) (r : Run η) :
    Ending r (r.finish outcome).1 := by
  unfold finish
  split <;> exact ⟨rfl, rfl, rfl, rfl⟩

theorem ending_finishTimed (outcome : Except Fault Closure) (r : Run η) :
    Ending r (r.finishTimed outcome).1 := by
  unfold finishTimed
  split
  · split <;> exact ⟨rfl, rfl, rfl, rfl⟩
  · exact ending_finish _ r

theorem ending_finishDismissed (cause : Dismissal) (outcome : Except Fault Closure) (r : Run η) :
    Ending r (r.finishDismissed cause outcome).1 := by
  unfold finishDismissed
  split
  · exact ⟨rfl, rfl, rfl, rfl⟩
  · exact ⟨rfl, rfl, rfl, rfl⟩
  · exact ending_finish _ r

theorem Ending.inner {r' : Run η} (ending : Ending r r')
    (timely : Deadline.ofTimeout r.timeout ≠ .passed)
    (within : r.timeout = .null ∨ r.conduct = .within)
    (quiet : r.inquiry.phase.isAsking = false) : r'.Inner := by
  refine .of_past ?_ ?_ (.inl ending.phase) ?_
  · rw [ending.timeout]
    exact timely
  · rw [ending.timeout, ending.conduct]
    exact within
  · rw [ending.inquiry]
    exact quiet

/-- A run goes on with an inquiry that goes on. -/
theorem inquire_of_isAsking {f : Inquiry → Inquiry}
    (going : (f r.inquiry).phase.isAsking = true) :
    r.inquire f = ({ r with inquiry := f r.inquiry }, []) := by
  have running : (f r.inquiry).outcome? = none := by
    rw [Inquiry.outcome?]
    split
    · rename_i ended
      rw [ended] at going
      exact absurd going Bool.false_ne_true
    · rfl
  rw [inquire]
  dsimp only
  rw [running]
  split
  · cases ‹none = some _›
  · cases ‹none = some _›
  · rfl

/-- A run that carries out an inquiry comes to its end with it. -/
theorem ending_inquire {f : Inquiry → Inquiry} {outcome : Except Fault Closure}
    (asking : r.phase.isAsking = true) (ended : (f r.inquiry).phase = .ended outcome) :
    Ending { r with inquiry := f r.inquiry } (r.inquire f).1 := by
  have heard : (f r.inquiry).outcome? = some outcome := by rw [Inquiry.outcome?, ended]
  rcases Phase.isAsking_iff.mp asking with inquiring | racing
  · have step : r.inquire f = ({ r with inquiry := f r.inquiry } : Run η).finish outcome := by
      simp only [inquire, inquiring, heard]
    rw [step]
    exact ending_finish ..
  · have step : r.inquire f = ({ r with inquiry := f r.inquiry } : Run η).finishTimed outcome := by
      simp only [inquire, racing, heard]
    rw [step]
    exact ending_finishTimed ..

/-- A run that does not carry out its inquiry does nothing itself when the inquiry goes on. -/
theorem inquire_of_still (still : r.phase.isAsking = false) (f : Inquiry → Inquiry) :
    r.inquire f = ({ r with inquiry := f r.inquiry }, []) := by
  have neither : r.phase ≠ .inquiring ∧ r.phase ≠ .racing := by
    constructor <;> intro phase <;> exact nomatch phase ▸ still
  rw [inquire]
  dsimp only
  split
  · exact absurd ‹_› neither.1
  · exact absurd ‹_› neither.2
  · rfl

/-- A run that carries out no inquiry has no use for an answer. -/
theorem inquire_of_quiet {f : Inquiry → Inquiry} (quiet : r.phase.isAsking = false)
    (same : f r.inquiry = r.inquiry) : r.inquire f = (r, []) := by
  rw [inquire_of_still quiet, same]

/-- An inquiry that is taken a step on lets the run ask on or takes it to its end. -/
theorem inner_inquire {f : Inquiry → Inquiry} (timely : Deadline.ofTimeout r.timeout ≠ .passed)
    (within : r.timeout = .null ∨ r.conduct = .within) (asking : r.phase.isAsking = true)
    (goes : (f r.inquiry).phase.isAsking = true ∨ ∃ outcome, (f r.inquiry).phase = .ended outcome) :
    (r.inquire f).1.Inner := by
  rcases goes with going | ⟨outcome, ended⟩
  · rw [inquire_of_isAsking going]
    refine ⟨timely, within, ?_, fun early => ?_, going.trans asking.symm⟩
    · rcases Phase.isAsking_iff.mp asking with phase | phase <;> simp only [phase] <;> rfl
    · rcases early with phase | phase <;> exact nomatch phase ▸ asking
  · refine (ending_inquire asking ended).inner timely within ?_
    simp only [ended]
    rfl

theorem Inner.answered (h : r.Inner) {f : Inquiry → Inquiry} (answers : Inquiry.Answers f) :
    (r.inquire f).1.Inner := by
  cases asking : r.phase.isAsking with
  | false =>
      rw [inquire_of_quiet asking (answers.idle _ (h.asking.trans asking))]
      exact h
  | true => exact inner_inquire h.timely h.within asking (answers.goes _ (h.asking.trans asking))

theorem Inner.begin (h : r.Inner) (scheduled : r.phase = .scheduled) : r.begin.1.Inner := by
  have fresh := h.fresh (.inr scheduled)
  have quiet : r.inquiry.phase.isAsking = false := by rw [fresh]; rfl
  have begins := begins_begin r
  generalize r.begin.1 = r' at begins ⊢
  cases begins with
  | drops => exact .of_past h.timely h.within (.inr (.inr rfl)) quiet
  | inquires phase asking =>
      exact inner_inquire (r := { r with phase }) h.timely h.within (Phase.isAsking_iff.mpr asking)
        (Inquiry.isAsking_begin r.scope r.selected fresh)
  | watches bounded apart =>
      rcases h.within with null | within
      · exact absurd null bounded
      · cases within.symm.trans apart
  | dismisses passed => exact absurd passed h.timely
  | fails f => exact .of_past h.timely h.within (.inl rfl) quiet

theorem Inner.started (h : r.Inner) (idle : r.phase = .idle) :
    ({ r with state := .running, phase := .scheduled } : Run η).Inner := by
  refine ⟨h.timely, h.within, rfl, fun _ => h.fresh (.inl idle), ?_⟩
  rw [h.asking, idle]
  rfl

theorem Inner.conclude (h : r.Inner) : r.conclude.1.Inner := by
  rw [Run.conclude]
  split
  · rename_i dropped
    have quiet : r.inquiry.phase.isAsking = false := by rw [h.asking, dropped]; rfl
    exact .of_past h.timely h.within (.inr (.inl rfl)) quiet
  · exact h

/-- Whatever happens to a run that carries out its inquiry itself, it goes on doing so. -/
theorem Inner.after (h : r.Inner) (consistent : r.Consistent) {e : RunEvent η}
    (direct : e.isDirect = true) : (e.after r).Inner := by
  cases e with
  | register occasion handler => exact h.of_phase rfl rfl rfl rfl
  | start =>
      rw [RunEvent.after]
      split
      · exact h.started (consistent.phase_of_idle ‹_›)
      · exact h
  | abort => exact h.abort
  | move m =>
      refine Inner.close ?_
      cases m with
      | begin =>
          rw [RunMove.apply]
          split
          · exact h.begin ‹_›
          · exact h
      | beginInquiry => exact absurd direct Bool.false_ne_true
      | answerPack intercepted answer =>
          cases intercepted with
          | true => exact absurd direct Bool.false_ne_true
          | false => exact h.answered (Inquiry.answers_answerPack answer)
      | answerVersion intercepted answer =>
          cases intercepted with
          | true => exact absurd direct Bool.false_ne_true
          | false => exact h.answered (Inquiry.answers_answerVersion r.scope answer)
      | expire => exact h.expire
      | wake => exact absurd direct Bool.false_ne_true
      | conclude => exact h.conclude
end Run

namespace RunEvent

variable {η : Type}

theorem inner_afterAll {events : List (RunEvent η)} (direct : ∀ e ∈ events, e.isDirect = true)
    {r : Run η} (consistent : r.Consistent) (h : r.Inner) :
    (afterAll events r).Inner := by
  induction events generalizing r with
  | nil => exact h
  | cons e later ih =>
      exact ih (fun e among => direct e (List.mem_cons_of_mem _ among)) (e.consistent_after consistent)
        (h.after consistent (direct e List.mem_cons_self))
end RunEvent

end AddonPicker
