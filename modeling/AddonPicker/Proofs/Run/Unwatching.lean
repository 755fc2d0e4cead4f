import AddonPicker.Proofs.Run.Resigned

/-!
# Runs that never watch their inquiry

A run without a timeout carries out its inquiry itself, and so does a run with one where the runtime
has it do so. No inquiry gets ahead of such a run: it ends with the step with which its inquiry does.
-/

namespace AddonPicker

/-- Whether a run at a phase has taken its first step and watches no inquiry. -/
def Phase.isLate : Phase → Bool
  | .idle => false
  | .scheduled => false
  | .watching => false
  | _ => true

namespace Run

variable {η : Type} {r : Run η}

/-- A run that does not watch its inquiry and will not come to do so. -/
structure Unwatching (r : Run η) : Prop where
  phase : r.phase ≠ .watching
  early : r.phase = .idle ∨ r.phase = .scheduled → r.timeout = .null ∨ r.conduct = .within

/-- A run that has taken its first step comes to watch its inquiry with that or never. -/
theorem unwatching_of_isLate (late : r.phase.isLate = true) : r.Unwatching := by
  constructor
  · intro watching
    rw [watching] at late
    exact Bool.false_ne_true late
  · rintro (idle | scheduled)
    · rw [idle] at late
      exact absurd late Bool.false_ne_true
    · rw [scheduled] at late
      exact absurd late Bool.false_ne_true

theorem Unwatching.inquire (h : r.Unwatching) (f : Inquiry → Inquiry) :
    (r.inquire f).1.Unwatching := by
  rcases inquire_cases r f with ⟨closing, -⟩ | ⟨same, -⟩
  · exact unwatching_of_isLate (by rw [closing]; rfl)
  · rw [same]
    exact ⟨h.phase, h.early⟩

theorem Unwatching.begin (h : r.Unwatching) (scheduled : r.phase = .scheduled) :
    r.begin.1.Unwatching := by
  have begins := begins_begin r
  generalize r.begin.1 = r' at begins ⊢
  cases begins with
  | drops | dismisses | fails => exact unwatching_of_isLate rfl
  | inquires phase asking =>
      have late : ({ r with phase } : Run η).phase.isLate = true := by
        rcases asking with rfl | rfl <;> rfl
      exact (unwatching_of_isLate late).inquire _
  | watches bounded apart =>
      rcases h.early (.inr scheduled) with null | within
      · exact absurd null bounded
      · cases within.symm.trans apart

theorem Unwatching.wake (h : r.Unwatching) : r.wake.1.Unwatching := by
  have wakes := wakes_wake r
  generalize r.wake.1 = r' at wakes ⊢
  cases wakes with
  | hears watching => exact absurd watching h.phase
  | dismisses | skips => exact unwatching_of_isLate rfl
  | ends =>
      refine unwatching_of_isLate ?_
      rw [(ending_finishDismissed _ _ _).phase]
      rfl
  | waits => exact ⟨h.phase, h.early⟩

theorem Unwatching.apply (h : r.Unwatching) (m : RunMove) : (m.apply r).1.Unwatching := by
  cases m with
  | begin =>
      rw [RunMove.apply]
      split
      · exact h.begin ‹_›
      · exact h
  | beginInquiry => exact h.inquire _
  | answerPack intercepted answer => exact h.inquire _
  | answerVersion intercepted answer => exact h.inquire _
  | expire =>
      rw [RunMove.apply, Run.expire]
      split
      · exact absurd ‹_› h.phase
      · split
        · exact h
        · exact ⟨h.phase, h.early⟩
      · exact h
  | wake => exact h.wake
  | conclude =>
      rw [RunMove.apply, Run.conclude]
      split
      · exact unwatching_of_isLate rfl
      · exact h

theorem Unwatching.abort (h : r.Unwatching) : r.abort.2.Unwatching := by
  rw [Run.abort]
  split <;> exact ⟨h.phase, h.early⟩

theorem Unwatching.after (h : r.Unwatching) (consistent : r.Consistent) (e : RunEvent η) :
    (e.after r).Unwatching := by
  cases e with
  | register occasion handler => exact ⟨h.phase, h.early⟩
  | start =>
      rw [RunEvent.after]
      split
      · exact ⟨Phase.noConfusion, fun _ => h.early (.inl (consistent.phase_of_idle ‹_›))⟩
      · exact h
  | abort => exact h.abort
  | move m =>
      rw [RunEvent.after, Run.close]
      split
      · exact unwatching_of_isLate rfl
      · exact h.apply m

/-- An inquiry that is not watched does not get ahead of a run. -/
theorem Unwatching.onTime (h : r.Unwatching) (consistent : r.Consistent)
    (events : List (RunEvent η)) :
    (RunEvent.afterAll events r).Unwatching ∧ RunEvent.Along RunMove.OnTime events r := by
  induction events generalizing r with
  | nil => exact ⟨h, trivial⟩
  | cons e later ih =>
      obtain ⟨unwatching, timely⟩ := ih (h.after consistent e) (e.consistent_after consistent)
      refine ⟨unwatching, ?_, timely⟩
      match e with
      | .move .wake => exact fun overtaken => h.phase overtaken.1
      | .move .begin | .move .beginInquiry | .move (.answerPack _ _) | .move (.answerVersion _ _)
      | .move .expire | .move .conclude | .register _ _ | .start | .abort => exact trivial

end Run

end AddonPicker
