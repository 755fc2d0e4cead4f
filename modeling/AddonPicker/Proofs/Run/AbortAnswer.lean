import AddonPicker.Proofs.Run.Failure
import AddonPicker.Proofs.Run.Unwatching

/-!
# What is answered to an abort

An abort answers whether there was something to cancel. The answer is kept when the run is running:
the run ends as skipped and hands nothing out, unless it watches its inquiry and that ends by itself
before the run goes on. It means nothing when a handler asks while the end of the run is announced:
the run is taken for one that can still be cancelled, and its end stays what it is.
-/

namespace AddonPicker

namespace Run

variable {η : Type} {r : Run η}

/-- Between its steps, a run answers to an abort that there is something to cancel exactly while it
runs and has not passed over its first step. -/
theorem abort_fst_eq (h : r.Consistent) (open_ : r.phase ≠ .closing) :
    r.abort.1 = decide (r.state = .running ∧ r.phase ≠ .dropped) := by
  have fits := h.phase
  rw [abort]
  cases phase : r.phase with
  | closing => exact absurd phase open_
  | idle =>
      rw [phase] at fits
      have idle : r.state = .idle := fits
      simp [idle]
  | done =>
      rw [phase] at fits
      have ended : r.state ≠ .running := RunState.ne_running_of_isFinished fits
      simp [ended]
  | scheduled | inquiring | racing | watching | dismissing | dropped =>
      rw [phase] at fits
      have running : r.state = .running := fits
      simp [running]

/-- An abort that has nothing to cancel changes nothing. -/
theorem abort_of_refused (h : r.Consistent) (refused : ¬(r.state = .running ∧ r.phase ≠ .dropped)) :
    r.abort.2 = r := by
  by_cases running : r.state = .running
  · have dropped : r.phase = .dropped := by
      by_contra other
      exact refused ⟨running, other⟩
    rw [abort, dropped]
  · exact abort_of_ne_running h running

/-- After each event the step that announced an end is left behind. -/
theorem phase_after_ne_closing (open_ : r.phase ≠ .closing) (e : RunEvent η) :
    (e.after r).phase ≠ .closing := by
  cases e with
  | register occasion handler => exact open_
  | start =>
      rw [RunEvent.after]
      split
      · exact Phase.noConfusion
      · exact open_
  | abort =>
      rw [RunEvent.after, phase_abort]
      exact open_
  | move m =>
      rw [RunEvent.after, Run.close]
      split
      · exact Phase.noConfusion
      · assumption

theorem phase_afterAll_ne_closing (open_ : r.phase ≠ .closing) (events : List (RunEvent η)) :
    (RunEvent.afterAll events r).phase ≠ .closing := by
  induction events generalizing r with
  | nil => exact open_
  | cons e later ih => exact ih (phase_after_ne_closing open_ e)

/-- Where a run is left by the step that ends it: in its last step, or past that if it was
dropped. -/
def EndsAt (r r' : Run η) : Prop :=
  r.phase ≠ .dropped ∧ r'.phase = .closing ∨ r.phase = .dropped ∧ r'.phase = .done

theorem inquire_endsAt (r : Run η) (f : Inquiry → Inquiry) :
    (r.inquire f).1.state = r.state ∨ EndsAt r (r.inquire f).1 := by
  cases asking : r.phase.isAsking with
  | false =>
      rw [inquire_of_still asking]
      exact .inl rfl
  | true =>
      have present : r.phase ≠ .dropped := by
        intro dropped
        rw [dropped] at asking
        exact Bool.false_ne_true asking
      rcases inquire_cases r f with ⟨closing, -⟩ | ⟨same, -⟩
      · exact .inr (.inl ⟨present, closing⟩)
      · rw [same]
        exact .inl rfl

theorem begin_endsAt (scheduled : r.phase = .scheduled) :
    r.begin.1.state = r.state ∨ EndsAt r r.begin.1 := by
  have present : r.phase ≠ .dropped := by rw [scheduled]; exact Phase.noConfusion
  have begins := begins_begin r
  generalize r.begin.1 = r' at begins ⊢
  cases begins with
  | drops | watches | dismisses => exact .inl rfl
  | fails => exact .inr (.inl ⟨present, rfl⟩)
  | inquires phase =>
      rw [beginInquiry]
      rcases inquire_cases { r with phase } (Inquiry.begin r.scope r.selected) with
        ⟨closing, -⟩ | ⟨same, -⟩
      · exact .inr (.inl ⟨present, closing⟩)
      · rw [same]
        exact .inl rfl

theorem wake_endsAt (r : Run η) : r.wake.1.state = r.state ∨ EndsAt r r.wake.1 := by
  have present {p : Phase} (phase : r.phase = p) (other : p ≠ .dropped) : r.phase ≠ .dropped :=
    phase ▸ other
  have wakes := wakes_wake r
  generalize r.wake.1 = r' at wakes ⊢
  cases wakes with
  | hears watching =>
      exact .inr (.inl ⟨present watching Phase.noConfusion, (ending_finish _ _).phase⟩)
  | skips dismissing => exact .inr (.inl ⟨present dismissing Phase.noConfusion, rfl⟩)
  | ends dismissing =>
      exact .inr (.inl ⟨present dismissing Phase.noConfusion, (ending_finishDismissed _ _ _).phase⟩)
  | dismisses | waits => exact .inl rfl

/-- A step leaves the state of a run as it is, or it ends the run. -/
theorem apply_endsAt (m : RunMove) (r : Run η) :
    (m.apply r).1.state = r.state ∨ EndsAt r (m.apply r).1 := by
  cases m with
  | begin =>
      rw [RunMove.apply]
      split
      · exact begin_endsAt ‹_›
      · exact .inl rfl
  | beginInquiry => exact inquire_endsAt r _
  | answerPack intercepted answer => exact inquire_endsAt r _
  | answerVersion intercepted answer => exact inquire_endsAt r _
  | expire =>
      rw [RunMove.apply, Run.expire]
      split
      · exact .inl rfl
      · split <;> exact .inl rfl
      · exact .inl rfl
  | wake => exact wake_endsAt r
  | conclude =>
      rw [RunMove.apply, Run.conclude]
      split
      · exact .inr (.inr ⟨‹_›, rfl⟩)
      · exact .inl rfl

/-- A run that announces its end answers to an abort that there is something to cancel, unless it was
dropped. -/
theorem abort_fst_of_ends {m : RunMove} (ends : Ends r (m.apply r)) :
    (m.apply r).1.abort.1 = decide (r.phase ≠ .dropped) := by
  rcases apply_endsAt m r with same | ⟨present, closing⟩ | ⟨dropped, done⟩
  · have finished := ends.finished
    rw [same] at finished
    exact absurd ends.running (RunState.ne_running_of_isFinished finished)
  · rw [abort, closing]
    simp [present]
  · rw [abort, done]
    simp [dropped]

/-- A run that is woken when a search that it watches has succeeded succeeds with it. -/
theorem succeeded_of_overtaken {closure : Closure} (watching : r.phase = .watching)
    (ended : r.inquiry.phase = .ended (.ok closure)) :
    (r.taking [.wake]).state = .succeeded ∧
      (r.taking [.wake]).dependencies = closure.dependencies := by
  have woken : r.taking [.wake] = r.wake.1.close := rfl
  rw [woken, wake_of_watching watching ended]
  exact ⟨rfl, rfl⟩

end Run

namespace Host

variable {σ η : Type} [Host σ η] {i : Nat}

/-- Where an owner is once a step has left a run behind and effects of it are performed. -/
def reached (i : Nat) (r : Run η) (effects : List (Effect η)) (s : σ) : σ :=
  ((perform i effects : Act σ Unit).perform ((Owner.setRun i r : Act σ Unit).perform s).2).2

/-- What a handler hears that asks for an abort when it is called in the course of a step: `ended` is
the run that the step leaves, and `s'` is where the owner is when the handler is called. -/
structure AnswerInHandler (i : Nat) (r ended : Run η) (s' : σ) : Prop where
  known : Owner.run? s' i = some ended
  finished : ended.state.isFinished = true
  /-- There is said to be something to cancel, whatever the run has ended as, unless it never took
  its first step. -/
  answer : ((Owner.abort i).perform s').1 = .ok (decide (r.phase ≠ .dropped))
  unmoved : Owner.run? ((Owner.abort i).perform s').2 i = some ended

/-- What the answer to an abort comes to that is asked for between two stretches of events: `r` is
the run when it is asked for, and `r'` the run after whatever happens later. -/
structure AbortAnswer (i : Nat) (s : σ) (new : Run η) (before after : List (RunEvent η))
    (r r' : Run η) : Prop where
  known : Owner.run? (follow i before s) i = some r
  last : Owner.run? (follow i (before ++ .abort :: after) s) i = some r'
  answer : ((Owner.abort i).perform (follow i before s)).1 =
    .ok (decide (r.state = .running ∧ r.phase ≠ .dropped))
  /-- An abort that has nothing to cancel leaves the run as it is. -/
  refused : ¬(r.state = .running ∧ r.phase ≠ .dropped) →
    Owner.run? (follow i (before ++ [.abort]) s) i = some r
  /-- A running run ends as nothing but skipped and hands nothing out, unless its inquiry gets ahead
  of it. -/
  truthful : r.state = .running → RunEvent.Along RunMove.OnTime after r.abort.2 →
    (r'.state = .running ∨ r'.state = .skipped) ∧ r'.dependencies = []
  /-- It does end when it goes on. -/
  comes : r.state = .running → RunEvent.Along RunMove.OnTime after r.abort.2 → ¬r'.IsOvertaken →
    ∀ pack version, (Owner.run? (follow i (before ++ .abort :: after ++
      (RunMove.finale r' pack version).map .move) s) i).map Run.state = some .skipped
  /-- No inquiry gets ahead of a run that carries it out itself. -/
  alone : new.timeout = .null ∨ new.conduct = .within →
    RunEvent.Along RunMove.OnTime after r.abort.2 ∧ ¬r'.IsOvertaken
  /-- A search that got ahead of the run has the last word. -/
  overtaken : ∀ closure, r'.phase = .watching → r'.inquiry.phase = .ended (.ok closure) →
    (Owner.run? (follow i (before ++ .abort :: after ++ [.move .wake]) s) i).map
      (fun r => (r.state, r.dependencies)) = some (.succeeded, closure.dependencies)
  /-- The end that a run has come to stays what it is, whatever its handlers are told. -/
  handled : ∀ (m : RunMove) (done later : List (Effect η)) (handler : η) (notice : Notice),
    (m.apply r).2 = done ++ .notify handler notice :: later →
      AnswerInHandler i r (m.apply r).1 (reached i (m.apply r).1 done (follow i before s)) ∧
      (Owner.run? (follow i (before ++ .move m :: after) s) i).map Run.state =
        some (m.apply r).1.state

variable [LawfulOwner σ] {s : σ} {r : Run η}

/-- What a run is after events, whoever watches. -/
theorem run?_follow (events : List (RunEvent η)) (known : Owner.run? s i = some r)
    (h : r.Consistent)
    (tame : ∀ h ∈ r.handlers ++ RunEvent.registrations events, AsksOnly σ i h.2) :
    Owner.run? (follow i events s) i = some (RunEvent.afterAll events r) := by
  have watched := Watched.run?_follow (w := { host := s }) events known h tame
  show Owner.run? (follow i events ({ host := s } : Watched σ η).host) i = _
  rw [← Watched.host_follow]
  exact watched

/-- A finished run stays as it is while effects are performed. -/
theorem run?_perform (effects : List (Effect η)) (known : Owner.run? s i = some r)
    (settled : r.abort.2 = r)
    (tame : ∀ c ∈ effects.filterMap Effect.call?, AsksOnly σ i c.1) :
    Owner.run? ((perform i effects : Act σ Unit).perform s).2 i = some r := by
  have told := Watched.told_perform (w := { host := s }) effects known (.inr settled) tame
  have mirrored := Watched.mirrors_perform i effects ({ host := s } : Watched σ η)
  rw [show (perform i effects : Act σ Unit).perform s = _ from mirrored]
  exact told.1

/-- A step that calls a handler ends the run. -/
theorem ends_of_calls (h : r.Consistent) {m : RunMove} {done later : List (Effect η)} {handler : η}
    {notice : Notice} (calls : (m.apply r).2 = done ++ .notify handler notice :: later) :
    Run.Ends r (m.apply r) := by
  refine (m.stays_or_ends h).resolve_left fun stays => ?_
  have silent := stays.silent
  rw [calls, List.filterMap_append] at silent
  exact absurd (List.append_eq_nil_iff.mp silent).2 (List.cons_ne_nil _ _)

theorem answerInHandler (known : Owner.run? s i = some r) (h : r.Consistent)
    (tame : ∀ h ∈ r.handlers, AsksOnly σ i h.2) {m : RunMove} {done later : List (Effect η)}
    {handler : η} {notice : Notice}
    (calls : (m.apply r).2 = done ++ .notify handler notice :: later) :
    AnswerInHandler i r (m.apply r).1 (reached i (m.apply r).1 done s) := by
  have ends := ends_of_calls h calls
  have settled := Run.abort_of_isFinished ends.consistent ends.finished
  have own : ∀ c ∈ done.filterMap Effect.call?, AsksOnly σ i c.1 := by
    intro c among
    have due : c ∈ (m.apply r).1.announcement := by
      rw [← ends.announced, calls, List.filterMap_append]
      exact List.mem_append_left _ among
    obtain ⟨registered, member, same⟩ := Run.exists_of_mem_announcement due
    rw [ends.handlers] at member
    exact same ▸ tame registered member
  have stands : Owner.run? (reached i (m.apply r).1 done s) i = some (m.apply r).1 :=
    run?_perform done (Owner.run?_setRun known _) settled own
  refine ⟨stands, ends.finished, ?_, ?_⟩
  · rw [Owner.perform_abort_fst_of_known stands, Run.abort_fst_of_ends ends]
  · rw [Owner.run?_abort stands, settled]

/-- A run at whose end handlers are called stays what it has ended as. -/
theorem state_of_calls (known : Owner.run? s i = some r) (h : r.Consistent) {m : RunMove}
    {done later : List (Effect η)} {handler : η} {notice : Notice}
    (calls : (m.apply r).2 = done ++ .notify handler notice :: later) (after : List (RunEvent η))
    (tame : ∀ h ∈ r.handlers ++ RunEvent.registrations after, AsksOnly σ i h.2) :
    (Owner.run? (follow i (.move m :: after) s) i).map Run.state = some (m.apply r).1.state := by
  have finished := (ends_of_calls h calls).finished
  have next := RunEvent.consistent_after h (.move m)
  rw [← Run.state_close] at finished ⊢
  rw [run?_follow (.move m :: after) known h tame]
  exact congrArg some (RunEvent.state_afterAll next finished after)

/-- What is answered to an abort of a run whose catalogues intercept no cancellation, at any moment,
among whatever else happens to the run. Its handlers may fail and ask for an abort themselves. -/
theorem abortAnswer_of_new {selected : List Choice} {scope : Scope} {timeout : Value}
    {conduct : Conduct} (known : Owner.run? s i = some { selected, scope, timeout, conduct })
    (before after : List (RunEvent η))
    (suits : RunEvent.Along RunMove.Suits (before ++ .abort :: after)
      { selected, scope, timeout, conduct })
    (tame : ∀ h ∈ RunEvent.registrations (before ++ after), AsksOnly σ i h.2) :
    ∃ r r', AbortAnswer i s { selected, scope, timeout, conduct } before after r r' := by
  have fresh := Run.consistent_new (η := η) selected scope timeout conduct
  have handlers := RunEvent.handlers_afterAll fresh before
  have consistent := RunEvent.consistent_afterAll before fresh
  have settled := Run.phase_afterAll_ne_closing (r := { selected, scope, timeout, conduct })
    Phase.noConfusion before
  have unwatching (alone : timeout = .null ∨ conduct = .within) :=
    (Run.Unwatching.onTime (r := { selected, scope, timeout, conduct })
      ⟨Phase.noConfusion, fun _ => alone⟩ fresh before).1
  have knownBefore := run?_follow before known fresh fun h among => tame h (by
    rw [RunEvent.registrations_append]
    exact List.mem_append_left _ among)
  obtain ⟨suitsBefore, -, suitsAfter⟩ := (RunEvent.along_append _ _ _).mp suits
  have asks := suitsBefore.asks (Run.asks_of_phase rfl)
  -- From here on it does not matter how the run has come to where it stands.
  generalize RunEvent.afterAll before { selected, scope, timeout, conduct } = r at *
  have tame : ∀ h ∈ r.handlers ++ RunEvent.registrations after, AsksOnly σ i h.2 := by
    rw [handlers]
    rw [RunEvent.registrations_append] at tame
    exact tame
  have goes (events : List (RunEvent η))
      (same : RunEvent.registrations events = RunEvent.registrations after) :
      Owner.run? (follow i (before ++ events) s) i = some (RunEvent.afterAll events r) := by
    rw [follow_append]
    exact run?_follow events knownBefore consistent (by rw [same]; exact tame)
  have stays := Run.stays_abort consistent
  have stood := RunEvent.consistent_afterAll after stays.consistent
  have resigned (running : r.state = .running)
      (timely : RunEvent.Along RunMove.OnTime after r.abort.2) :
      (RunEvent.afterAll after r.abort.2).Resigned :=
    suitsAfter.resigned timely stays.consistent (asks.resigned consistent running)
  have later (moves : List RunMove) :
      Owner.run? (follow i (before ++ .abort :: after ++ moves.map .move) s) i =
        some ((RunEvent.afterAll after r.abort.2).taking moves) := by
    have steps := goes (.abort :: (after ++ moves.map .move)) (by
      show RunEvent.registrations (after ++ moves.map .move) = _
      rw [RunEvent.registrations_append, RunEvent.registrations_moves, List.append_nil])
    rw [List.append_assoc, List.cons_append, steps, Run.taking, ← RunEvent.afterAll_append]
    rfl
  refine ⟨r, RunEvent.afterAll after r.abort.2, {
    known := knownBefore
    last := goes (.abort :: after) rfl
    answer := ?_
    refused := fun refused => ?_
    truthful := fun running timely => (resigned running timely).outcome stood
    comes := fun running timely ahead pack version => ?_
    alone := fun alone => ?_
    overtaken := fun closure watching ended => ?_
    handled := fun m done later handler notice calls => ⟨?_, ?_⟩ }⟩
  · rw [Owner.perform_abort_fst_of_known knownBefore, Run.abort_fst_eq consistent settled]
  · rw [follow_concat, happen_abort, Owner.run?_abort knownBefore,
      Run.abort_of_refused consistent refused]
  · rw [later, Option.map_some, (resigned running timely).finale stood ahead]
  · obtain ⟨still, timely⟩ := (unwatching alone).abort.onTime stays.consistent after
    exact ⟨timely, fun overtaken => still.phase overtaken.1⟩
  · obtain ⟨succeeded, handed⟩ := Run.succeeded_of_overtaken watching ended
    rw [show [RunEvent.move .wake] = [RunMove.wake].map .move from rfl, later, Option.map_some,
      succeeded, handed]
  · exact answerInHandler knownBefore consistent
      (fun h among => tame h (List.mem_append_left _ among)) calls
  · rw [follow_append]
    exact state_of_calls knownBefore consistent calls after tame

end Host

namespace Rehearsal.Solo

/-- The run hears of its abort, and of the lookup when that is over. -/
def unwinding : List (RunEvent NotingHandler) :=
  [.move .wake, .move (.answerVersion false (.ok (some (ringVersion 2)))), .move .wake]

/-- An abort while a run watches its inquiry is answered that something is cancelled, and the run is
skipped with nothing to hand out, although the part that is looked up is found. -/
theorem abortAnswer_of_new_ring :
    let new : Run NotingHandler :=
      { selected := ringSelection, scope := ringScope, timeout := .int 30 }
    RunEvent.Along RunMove.Suits (watching ++ .abort :: unwinding) new ∧
    RunEvent.Along RunMove.OnTime unwinding (RunEvent.afterAll watching new).abort.2 ∧
    (∀ h ∈ RunEvent.registrations (watching ++ unwinding), Host.AsksOnly Solo 0 h.2) ∧
    (∃ r r', Host.AbortAnswer 0 watcher.host new watching unwinding r r') ∧
    ((Owner.abort 0).perform (Host.follow 0 watching watcher.host)).1 = .ok true ∧
    (Owner.run? (Host.follow 0 (watching ++ .abort :: unwinding) watcher.host) 0).map
      (fun r => (r.state, r.dependencies.length)) = some (.skipped, 0) := by
  intro new
  have suits : RunEvent.Along RunMove.Suits (watching ++ .abort :: unwinding) new := by
    decide +kernel
  have tame : ∀ h ∈ RunEvent.registrations (watching ++ unwinding), Host.AsksOnly Solo 0 h.2 :=
    fun h _ => asksOnly_invoke 0 h.2
  refine ⟨suits, by decide +kernel, tame, ?_, by decide +kernel, by decide +kernel⟩
  exact Host.abortAnswer_of_new rfl watching unwinding suits tame

/-- A handler for successes that asks for an abort is registered, and the ring is searched. -/
def telling : List (RunEvent NotingHandler) :=
  [.register .succeeded ⟨.str "asks", true, none⟩, .start, .move .begin, .move .beginInquiry,
    .move (.answerPack false (.ok (some (ringPack 1)))),
    .move (.answerVersion false (.ok (some (ringVersion 1)))),
    .move (.answerPack false (.ok (some (ringPack 7)))), .move (.answerVersion false (.ok none)),
    .move (.answerPack false (.ok (some (ringPack 2)))),
    .move (.answerVersion false (.ok (some (ringVersion 2))))]

/-- What handlers were answered that asked for an abort. -/
def answersNoted (j : Journal) : List Bool :=
  j.events.filterMap fun
    | .handlerAborted _ answer => some answer
    | _ => none

/-- An abort may be answered that something is cancelled although the run succeeds and hands out
what it found: when a handler asks that is told of the success, and when the run watches a search
that has ended by the time it hears of the abort. -/
theorem succeeded_although_aborted :
    let alone : Solo := ⟨[{ selected := ringSelection, scope := ringScope }], {}⟩
    answersNoted (Host.follow 0 telling alone).journal = [true] ∧
    (Owner.run? (Host.follow 0 telling alone) 0).map
      (fun r => (r.state, r.dependencies.length)) = some (.succeeded, 2) ∧
    ((Owner.abort 0).perform (Host.follow 0 telling watcher.host)).1 = .ok true ∧
    (Owner.run? (Host.follow 0 (telling ++ [.abort, .move .wake]) watcher.host) 0).map
      (fun r => (r.state, r.dependencies.length)) = some (.succeeded, 2) := by
  intro alone
  exact ⟨by decide +kernel, by decide +kernel, by decide +kernel, by decide +kernel⟩

end Rehearsal.Solo

end AddonPicker
