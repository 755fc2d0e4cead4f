import AddonPicker.Proofs.Run.Stopping

/-!
# Undisturbed runs

A run that is not aborted and whose deadline does not pass hears of nothing but its inquiry. Until
it ends it waits for the inquiry to begin, carries it out, or watches it; and then the inquiry has
come to its end.
-/

namespace AddonPicker

namespace Deadline

/-- Whether an inquiry under a deadline has time. -/
def isFar : Deadline → Bool
  | .never => true
  | .ahead => true
  | _ => false

end Deadline

/-- An event that comes from the inquiry of a run or from its owner, but that neither aborts the run
nor lets its deadline pass. Only while the run watches it does the inquiry begin by itself. -/
def RunEvent.Undisturbing {η : Type} (r : Run η) : RunEvent η → Prop
  | .abort => False
  | .move .expire => False
  | .move .beginInquiry => r.phase = .watching
  | _ => True

instance {η : Type} (r : Run η) : DecidablePred (RunEvent.Undisturbing r) := fun e => by
  unfold RunEvent.Undisturbing
  split <;> infer_instance

/-- Each event leaves the run undisturbed that it happens to. -/
def RunEvent.Undisturbed {η : Type} : List (RunEvent η) → Run η → Prop
  | [], _ => True
  | e :: later, r => e.Undisturbing r ∧ Undisturbed later (e.after r)

instance RunEvent.decidableUndisturbed {η : Type} :
    (events : List (RunEvent η)) → (r : Run η) → Decidable (RunEvent.Undisturbed events r)
  | [], _ => isTrue trivial
  | e :: later, r =>
    haveI : Decidable (RunEvent.Undisturbed later (e.after r)) :=
      RunEvent.decidableUndisturbed later (e.after r)
    inferInstanceAs (Decidable (e.Undisturbing r ∧ RunEvent.Undisturbed later (e.after r)))

namespace Inquiry

/-- Without a cancellation, it does not matter whether the catalogue intercepts one. -/
theorem answerPack_of_quiet {q : Inquiry} (quiet : q.cancelling = false) (intercepted : Bool)
    (answer : Except Fault (Option Pack)) :
    q.answerPack intercepted answer = q.answerPack false answer := by
  rw [answerPack, answerPack, isInterrupted, isInterrupted, quiet]
  rfl

theorem answerVersion_of_quiet {q : Inquiry} (quiet : q.cancelling = false) (scope : Scope)
    (intercepted : Bool) (answer : Except Fault (Option Held)) :
    q.answerVersion scope intercepted answer = q.answerVersion scope false answer := by
  rw [answerVersion, answerVersion, isInterrupted, isInterrupted, quiet]
  rfl

theorem cancelling_ofProgress (p : Progress) : (ofProgress p).cancelling = false := by
  cases p <;> rfl

/-- No step has an inquiry cancelled that is not cancelled. -/
theorem quiet_begin {q : Inquiry} (quiet : q.cancelling = false) (scope : Scope)
    (selected : List Choice) : (q.begin scope selected).cancelling = false := by
  rw [begin]
  split
  · split
    · rfl
    · exact cancelling_ofProgress _
  · exact quiet

theorem quiet_answerPack {q : Inquiry} (quiet : q.cancelling = false) (intercepted : Bool)
    (answer : Except Fault (Option Pack)) :
    (q.answerPack intercepted answer).cancelling = false := by
  rw [answerPack]
  split
  · split
    · rfl
    · cases answer <;> rfl
  · exact quiet

theorem quiet_answerVersion {q : Inquiry} (quiet : q.cancelling = false) (scope : Scope)
    (intercepted : Bool) (answer : Except Fault (Option Held)) :
    (q.answerVersion scope intercepted answer).cancelling = false := by
  rw [answerVersion]
  split
  · split
    · rfl
    · cases answer with
      | ok version? => exact cancelling_ofProgress _
      | error f => rfl
  · exact quiet

end Inquiry

namespace Run

variable {η : Type} {r : Run η}

/-- Where a run stands with its inquiry before its end. -/
inductive Attends (r : Run η) : Prop
  | fresh (early : r.phase = .idle ∨ r.phase = .scheduled) (inquiry : r.inquiry.phase = .scheduled)
  | asking (phase : r.phase.isAsking = true) (inquiry : r.inquiry.phase.isAsking = true)
  | watching (phase : r.phase = .watching)

/-- A run that hears of nothing but its inquiry. -/
inductive Undisturbed (r : Run η) : Prop
  | under (far : (Deadline.ofTimeout r.timeout).isFar = true) (uncalled : r.cancelling = false)
      (early : r.overdue = false) (quiet : r.inquiry.cancelling = false) (attends : r.Attends)
  | past (phase : r.phase = .closing ∨ r.phase = .done) {outcome : Except Fault Closure}
      (ended : r.inquiry.phase = .ended outcome)

theorem undisturbed_new (selected : List Choice) (scope : Scope) {timeout : Value}
    (conduct : Conduct) (far : (Deadline.ofTimeout timeout).isFar = true) :
    ({ selected, scope, timeout, conduct } : Run η).Undisturbed :=
  .under far rfl rfl rfl (.fresh (.inl rfl) rfl)

theorem Undisturbed.close (h : r.Undisturbed) : r.close.Undisturbed := by
  rw [Run.close]
  split
  · rename_i closing
    cases h with
    | under _ _ _ _ attends =>
        cases attends with
        | fresh early => rcases early with phase | phase <;> cases closing.symm.trans phase
        | asking phase =>
            rw [closing] at phase
            exact absurd phase Bool.false_ne_true
        | watching phase => cases closing.symm.trans phase
    | past _ ended => exact .past (.inr rfl) ended
  · exact h

/-- A run that carries out its inquiry goes on with it or ends with it. -/
theorem undisturbed_inquire {f : Inquiry → Inquiry}
    (far : (Deadline.ofTimeout r.timeout).isFar = true) (uncalled : r.cancelling = false)
    (early : r.overdue = false) (quiet : (f r.inquiry).cancelling = false)
    (asking : r.phase.isAsking = true)
    (goes : (f r.inquiry).phase.isAsking = true ∨
      ∃ outcome, (f r.inquiry).phase = .ended outcome) : (r.inquire f).1.Undisturbed := by
  rcases goes with going | ⟨outcome, ended⟩
  · rw [inquire_of_isAsking going]
    exact .under far uncalled early quiet (.asking asking going)
  · have ending := ending_inquire asking ended
    have left : (r.inquire f).1.inquiry.phase = .ended outcome := by
      rw [ending.inquiry]
      exact ended
    exact .past (.inl ending.phase) left

/-- What a run comes to hangs on where its inquiry comes to. -/
theorem inquire_congr {f g : Inquiry → Inquiry} (same : f r.inquiry = g r.inquiry) :
    r.inquire f = r.inquire g := by
  rw [inquire, inquire, same]

theorem isAsking_of_fresh (early : r.phase = .idle ∨ r.phase = .scheduled) :
    r.phase.isAsking = false := by
  rcases early with phase | phase <;> rw [phase] <;> rfl

theorem isAsking_of_past (past : r.phase = .closing ∨ r.phase = .done) :
    r.phase.isAsking = false := by
  rcases past with phase | phase <;> rw [phase] <;> rfl

theorem isAsking_of_watching (watching : r.phase = .watching) : r.phase.isAsking = false := by
  rw [watching]
  rfl

/-- An answer is for an inquiry only that waits for it. -/
theorem Undisturbed.answered (h : r.Undisturbed) {f : Inquiry → Inquiry}
    (answers : Inquiry.Answers f)
    (keeps : ∀ q, q.cancelling = false → (f q).cancelling = false) :
    (r.inquire f).1.Undisturbed := by
  cases h with
  | under far uncalled early quiet attends =>
      cases attends with
      | fresh phase inquiry =>
          have unheard := answers.idle r.inquiry (by rw [inquiry]; rfl)
          rw [inquire_of_quiet (isAsking_of_fresh phase) unheard]
          exact .under far uncalled early quiet (.fresh phase inquiry)
      | asking phase inquiry =>
          exact undisturbed_inquire far uncalled early (keeps _ quiet) phase
            (answers.goes _ inquiry)
      | watching phase =>
          rw [inquire_of_still (isAsking_of_watching phase)]
          exact .under far uncalled early (keeps _ quiet) (.watching phase)
  | past phase ended =>
      have unheard := answers.idle r.inquiry (Inquiry.isAsking_of_ended ended)
      rw [inquire_of_quiet (isAsking_of_past phase) unheard]
      exact .past phase ended

/-- A run whose deadline is far begins by watching its inquiry or by carrying it out. -/
theorem begin_cases (far : (Deadline.ofTimeout r.timeout).isFar = true)
    (uncalled : r.cancelling = false) :
    (r.timeout ≠ .null ∧ r.conduct = .apart ∧ r.begin.1 = { r with phase := .watching }) ∨
      ∃ phase : Phase, phase.isAsking = true ∧
        r.begin.1 = ({ r with phase } : Run η).beginInquiry.1 := by
  have goes : ¬r.cancelling = true := by
    rw [uncalled]
    exact Bool.false_ne_true
  rw [Run.begin, if_neg goes]
  cases deadline : Deadline.ofTimeout r.timeout with
  | never => exact .inr ⟨.inquiring, rfl, rfl⟩
  | ahead =>
      have bounded : r.timeout ≠ .null := by
        intro null
        rw [null] at deadline
        cases deadline
      cases conduct : r.conduct with
      | apart => exact .inl ⟨bounded, rfl, rfl⟩
      | within => exact .inr ⟨.racing, rfl, rfl⟩
  | passed | imminent | unusable f =>
      rw [deadline] at far
      exact absurd far Bool.false_ne_true

/-- A run that carries out its inquiry itself begins with the inquiry. -/
theorem begin_of_alone (far : (Deadline.ofTimeout r.timeout).isFar = true)
    (uncalled : r.cancelling = false) (alone : r.timeout = .null ∨ r.conduct = .within) :
    ∃ phase : Phase, phase.isAsking = true ∧
      r.begin.1 = ({ r with phase } : Run η).beginInquiry.1 := by
  rcases begin_cases far uncalled with ⟨bounded, apart, -⟩ | begins
  · rcases alone with null | within
    · exact absurd null bounded
    · cases within.symm.trans apart
  · exact begins

/-- Before its first step an undisturbed run has heard of nothing. -/
theorem Undisturbed.of_early (h : r.Undisturbed) (early : r.phase = .idle ∨ r.phase = .scheduled) :
    (Deadline.ofTimeout r.timeout).isFar = true ∧ r.cancelling = false ∧ r.overdue = false ∧
      r.inquiry.cancelling = false ∧ r.inquiry.phase = .scheduled := by
  have begun (phase : r.phase = .closing ∨ r.phase = .done ∨ r.phase = .watching) : False := by
    rcases early with before | before <;> rcases phase with after | after | after <;>
      cases before.symm.trans after
  cases h with
  | past phase => exact (begun (phase.imp_right .inl)).elim
  | under far uncalled timely quiet attends =>
      cases attends with
      | fresh _ inquiry => exact ⟨far, uncalled, timely, quiet, inquiry⟩
      | watching phase => exact (begun (.inr (.inr phase))).elim
      | asking phase =>
          rw [isAsking_of_fresh early] at phase
          exact absurd phase Bool.false_ne_true

theorem Undisturbed.begin (h : r.Undisturbed) (scheduled : r.phase = .scheduled) :
    r.begin.1.Undisturbed := by
  obtain ⟨far, uncalled, early, quiet, inquiry⟩ := h.of_early (.inr scheduled)
  rcases begin_cases far uncalled with ⟨-, -, watches⟩ | ⟨phase, asking, begins⟩
  · rw [watches]
    exact .under far uncalled early quiet (.watching rfl)
  · rw [begins]
    exact undisturbed_inquire (r := { r with phase }) far uncalled early
      (Inquiry.quiet_begin quiet r.scope r.selected) asking
      (Inquiry.isAsking_begin r.scope r.selected inquiry)

/-- Waking means nothing to a run that does not wait. -/
theorem wake_of_alone (alone : r.phase.isWaiting = false) :
    r.wake = ({ r with cancelling := false }, []) := by
  rw [Run.wake]
  dsimp only
  split
  · rename_i watching _
    rw [watching] at alone
    cases alone
  · rename_i watching _
    rw [watching] at alone
    cases alone
  · rename_i dismissing
    rw [dismissing] at alone
    cases alone
  · rfl

/-- A run that watches its inquiry ends when it finds that the inquiry has ended. -/
theorem wake_of_watching {outcome : Except Fault Closure} (watching : r.phase = .watching)
    (ended : r.inquiry.phase = .ended outcome) :
    r.wake = ({ r with cancelling := false } : Run η).finish outcome := by
  have heard : r.inquiry.outcome? = some outcome := by rw [Inquiry.outcome?, ended]
  simp only [Run.wake, watching, heard]

theorem Undisturbed.wake (h : r.Undisturbed) : r.wake.1.Undisturbed := by
  cases h with
  | past phase ended =>
      have alone : r.phase.isWaiting = false := by
        rcases phase with phase | phase <;> rw [phase] <;> rfl
      rw [wake_of_alone alone]
      exact .past phase ended
  | under far uncalled early quiet attends =>
      cases attends with
      | fresh phase inquiry =>
          have alone : r.phase.isWaiting = false := by
            rcases phase with phase | phase <;> rw [phase] <;> rfl
          rw [wake_of_alone alone]
          exact .under far rfl early quiet (.fresh phase inquiry)
      | asking phase inquiry =>
          have alone : r.phase.isWaiting = false := by
            rcases Phase.isAsking_iff.mp phase with phase | phase <;> rw [phase] <;> rfl
          rw [wake_of_alone alone]
          exact .under far rfl early quiet (.asking phase inquiry)
      | watching phase =>
          cases place : r.inquiry.phase with
          | ended outcome =>
              rw [wake_of_watching phase place]
              have ending := ending_finish outcome ({ r with cancelling := false } : Run η)
              rw [← ending.inquiry] at place
              exact .past (.inl ending.phase) place
          | scheduled | awaitingPack question | awaitingVersion question pack? =>
              have unheard : r.inquiry.outcome? = none := by rw [Inquiry.outcome?, place]
              have still : r.wake = ({ r with cancelling := false }, []) := by
                simp only [Run.wake, phase, unheard, uncalled, early, Bool.false_eq_true, if_false]
              rw [still]
              exact .under far rfl early quiet (.watching phase)

/-- Nothing has disturbed a run that watches its inquiry. -/
theorem Undisturbed.of_watching (h : r.Undisturbed) (watching : r.phase = .watching) :
    (Deadline.ofTimeout r.timeout).isFar = true ∧ r.cancelling = false ∧ r.overdue = false ∧
      r.inquiry.cancelling = false := by
  cases h with
  | under far uncalled early quiet => exact ⟨far, uncalled, early, quiet⟩
  | past phase => rcases phase with phase | phase <;> cases watching.symm.trans phase

/-- An undisturbed run that watches its inquiry goes on watching when the inquiry goes on. -/
theorem Undisturbed.watches (h : r.Undisturbed) (watching : r.phase = .watching)
    {f : Inquiry → Inquiry}
    (keeps : r.inquiry.cancelling = false → (f r.inquiry).cancelling = false) :
    (r.inquire f).1.Undisturbed := by
  obtain ⟨far, uncalled, early, quiet⟩ := h.of_watching watching
  rw [inquire_of_still (isAsking_of_watching watching)]
  exact .under far uncalled early (keeps quiet) (.watching watching)

theorem Undisturbed.ne_dropped (h : r.Undisturbed) : r.phase ≠ .dropped := by
  intro dropped
  cases h with
  | past phase => rcases phase with phase | phase <;> cases dropped.symm.trans phase
  | under _ _ _ _ attends =>
      cases attends with
      | fresh phase => rcases phase with phase | phase <;> cases dropped.symm.trans phase
      | asking phase =>
          rw [dropped] at phase
          exact absurd phase Bool.false_ne_true
      | watching phase => cases dropped.symm.trans phase

/-- Nothing is on its way to the inquiry that could be intercepted. -/
theorem Undisturbed.answerPack_eq (h : r.Undisturbed) (intercepted : Bool)
    (answer : Except Fault (Option Pack)) :
    r.inquiry.answerPack intercepted answer = r.inquiry.answerPack false answer := by
  cases h with
  | under _ _ _ quiet => exact Inquiry.answerPack_of_quiet quiet intercepted answer
  | past _ ended => simp only [Inquiry.answerPack, ended]

theorem Undisturbed.answerVersion_eq (h : r.Undisturbed) (intercepted : Bool)
    (answer : Except Fault (Option Held)) :
    r.inquiry.answerVersion r.scope intercepted answer =
      r.inquiry.answerVersion r.scope false answer := by
  cases h with
  | under _ _ _ quiet => exact Inquiry.answerVersion_of_quiet quiet r.scope intercepted answer
  | past _ ended => simp only [Inquiry.answerVersion, ended]

/-- Whatever an undisturbed run hears of its inquiry, it stays undisturbed. -/
theorem Undisturbed.after (h : r.Undisturbed) (consistent : r.Consistent) {e : RunEvent η}
    (undisturbing : e.Undisturbing r) : (e.after r).Undisturbed := by
  cases e with
  | register occasion handler =>
      cases h with
      | past phase ended => exact .past phase ended
      | under far uncalled early quiet attends =>
          refine .under far uncalled early quiet ?_
          cases attends with
          | fresh phase inquiry => exact .fresh phase inquiry
          | asking phase inquiry => exact .asking phase inquiry
          | watching phase => exact .watching phase
  | start =>
      rw [RunEvent.after]
      split
      · obtain ⟨far, uncalled, early, quiet, inquiry⟩ :=
          h.of_early (.inl (consistent.phase_of_idle ‹_›))
        exact .under far uncalled early quiet (.fresh (.inr rfl) inquiry)
      · exact h
  | abort => exact undisturbing.elim
  | move m =>
      refine Undisturbed.close ?_
      cases m with
      | begin =>
          rw [RunMove.apply]
          split
          · exact h.begin ‹_›
          · exact h
      | beginInquiry =>
          exact h.watches undisturbing fun quiet => Inquiry.quiet_begin quiet r.scope r.selected
      | answerPack intercepted answer =>
          rw [RunMove.apply, inquire_congr (h.answerPack_eq intercepted answer)]
          exact h.answered (Inquiry.answers_answerPack answer) fun q quiet =>
            Inquiry.quiet_answerPack quiet false answer
      | answerVersion intercepted answer =>
          rw [RunMove.apply, inquire_congr (h.answerVersion_eq intercepted answer)]
          exact h.answered (Inquiry.answers_answerVersion r.scope answer) fun q quiet =>
            Inquiry.quiet_answerVersion quiet r.scope false answer
      | expire => exact undisturbing.elim
      | wake => exact h.wake
      | conclude =>
          rw [RunMove.apply, Run.conclude]
          split
          · exact absurd ‹_› h.ne_dropped
          · exact h

end Run

/-- A run that is left undisturbed stays so. -/
theorem RunEvent.Undisturbed.afterAll {η : Type} {events : List (RunEvent η)} {r : Run η}
    (undisturbed : RunEvent.Undisturbed events r) (consistent : r.Consistent)
    (h : r.Undisturbed) : (RunEvent.afterAll events r).Undisturbed := by
  induction events generalizing r with
  | nil => exact h
  | cons e later ih =>
      obtain ⟨first, rest⟩ := undisturbed
      exact ih rest (e.consistent_after consistent) (h.after consistent first)

end AddonPicker
