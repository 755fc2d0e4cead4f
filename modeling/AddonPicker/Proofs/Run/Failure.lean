import AddonPicker.Proofs.Resolution.Ordinary
import AddonPicker.Proofs.Run.Abort
import AddonPicker.Proofs.Run.Lookups
import AddonPicker.Proofs.Run.Undisturbed

/-!
# Runs that fail

A lookup may fail, a provider may have no service, and what the lookups answered may be of no use.
Each of these is a fault that comes up at one step of an inquiry, and it is the end of the inquiry:
no lookup is made after it. A run that was left undisturbed until then fails, whatever happens
later. It tells its handlers the words of the fault, and has nothing to show of what was found by
then.

The faults of services and those of the run itself are kept apart. A service that gave up waiting
has failed to answer, and only a deadline that passed makes a run time out.
-/

namespace AddonPicker

/-- A step of a run at which a fault comes up in its inquiry, and the fault: nobody serves the first
provider that is asked, a lookup fails, or the answers to the lookups are of no use. -/
inductive RunMove.Raises {η : Type} (r : Run η) : RunMove → Fault → Prop
  | begin {f : Fault} (scheduled : r.phase = .scheduled)
      (alone : r.timeout = .null ∨ r.conduct = .within)
      (failed : Search.start r.scope r.selected = .failed f) : Raises r .begin f
  | beginInquiry {f : Fault} (watching : r.phase = .watching)
      (fresh : r.inquiry.phase = .scheduled)
      (failed : Search.start r.scope r.selected = .failed f) : Raises r .beginInquiry f
  | pack {q : Question} (asking : r.inquiry.phase = .awaitingPack q) (intercepted : Bool)
      (f : Fault) : Raises r (.answerPack intercepted (.error f)) f
  | version {q : Question} {pack? : Option Pack}
      (asking : r.inquiry.phase = .awaitingVersion q pack?) (intercepted : Bool) (f : Fault) :
      Raises r (.answerVersion intercepted (.error f)) f
  | use {q : Question} {pack? : Option Pack} {version? : Option Held} {f : Fault}
      (asking : r.inquiry.phase = .awaitingVersion q pack?) (intercepted : Bool)
      (failed : q.answer r.scope pack? version? = .failed f) :
      Raises r (.answerVersion intercepted (.ok version?)) f

namespace Inquiry

variable {q : Inquiry}

/-- The first step of an inquiry is that of its search. -/
theorem begin_of_fresh (fresh : q.phase = .scheduled) (quiet : q.cancelling = false)
    (scope : Scope) (selected : List Choice) :
    q.begin scope selected = ofProgress (Search.start scope selected) := by
  rw [begin, fresh, quiet]
  rfl

theorem answerPack_of_error {question : Question} (asking : q.phase = .awaitingPack question)
    (quiet : q.cancelling = false) (intercepted : Bool) (f : Fault) :
    q.answerPack intercepted (.error f) = ofOutcome (.error f.ofLookup) := by
  rw [answerPack, asking, isInterrupted, quiet]
  rfl

theorem answerVersion_of_error {question : Question} {pack? : Option Pack}
    (asking : q.phase = .awaitingVersion question pack?) (quiet : q.cancelling = false)
    (scope : Scope) (intercepted : Bool) (f : Fault) :
    q.answerVersion scope intercepted (.error f) = ofOutcome (.error f.ofLookup) := by
  rw [answerVersion, asking, isInterrupted, quiet]
  rfl

theorem answerVersion_of_ok {question : Question} {pack? : Option Pack}
    (asking : q.phase = .awaitingVersion question pack?) (quiet : q.cancelling = false)
    (scope : Scope) (intercepted : Bool) (version? : Option Held) :
    q.answerVersion scope intercepted (.ok version?) =
      ofProgress (question.answer scope pack? version?) := by
  rw [answerVersion, asking, isInterrupted, quiet]
  rfl

/-- An inquiry that has ended hears nothing any more. -/
theorem begin_of_ended {outcome : Except Fault Closure} (ended : q.phase = .ended outcome)
    (scope : Scope) (selected : List Choice) : q.begin scope selected = q := by
  rw [begin, ended]

theorem answerPack_of_ended {outcome : Except Fault Closure} (ended : q.phase = .ended outcome)
    (intercepted : Bool) (answer : Except Fault (Option Pack)) :
    q.answerPack intercepted answer = q := by
  rw [answerPack, ended]

theorem answerVersion_of_ended {outcome : Except Fault Closure} (ended : q.phase = .ended outcome)
    (scope : Scope) (intercepted : Bool) (answer : Except Fault (Option Held)) :
    q.answerVersion scope intercepted answer = q := by
  rw [answerVersion, ended]

/-- No lookup is made on the way to the end of an inquiry. -/
theorem made_of_ended {q' : Inquiry} {outcome : Except Fault Closure}
    (ended : q'.phase = .ended outcome) (target : String) : q.made target q' = [] := by
  have none_ : q'.lookup? target = none := by rw [lookup?, ended]
  rw [made, none_, Option.toList_none, ite_self]

end Inquiry

namespace RunEvent

variable {η : Type} {r : Run η} {outcome : Except Fault Closure}

/-- An inquiry that has ended stays as it ended, whatever happens to its run. -/
theorem phase_inquiry_after (ended : r.inquiry.phase = .ended outcome) (e : RunEvent η) :
    (e.after r).inquiry.phase = .ended outcome := by
  have touches := touches_after e r
  generalize (e.after r).inquiry = q at touches ⊢
  cases touches with
  | stays same => exact same.trans ended
  | begins => rw [Inquiry.begin_of_ended ended, ended]
  | packs intercepted answer => rw [Inquiry.answerPack_of_ended ended, ended]
  | versions intercepted answer => rw [Inquiry.answerVersion_of_ended ended, ended]

/-- No lookup is made any more once an inquiry has ended. -/
theorem lookupsAll_of_ended (ended : r.inquiry.phase = .ended outcome) (target : String)
    (events : List (RunEvent η)) : lookupsAll target events r = [] := by
  induction events generalizing r with
  | nil => rfl
  | cons e later ih =>
      have after := phase_inquiry_after ended e
      rw [lookupsAll, lookups, Inquiry.made_of_ended after, ih after]
      rfl

theorem lookupsAll_append (target : String) (before later : List (RunEvent η)) (r : Run η) :
    lookupsAll target (before ++ later) r =
      lookupsAll target before r ++ lookupsAll target later (afterAll before r) := by
  induction before generalizing r with
  | nil => rfl
  | cons e before ih =>
      show e.lookups target r ++ lookupsAll target (before ++ later) (e.after r) = _
      rw [ih, ← List.append_assoc]
      rfl

end RunEvent

namespace Run

variable {η : Type} {r : Run η} {reason : String}

/-- An ordinary fault is what a run fails with. -/
theorem finish_of_isOrdinary {f : Fault} (ordinary : f.isOrdinary = true) (r : Run η) :
    r.finish (.error f) = r.fail f.reason := by
  cases f with
  | cancelled => cases ordinary
  | timedOut words => cases ordinary
  | _ => rfl

theorem finishTimed_of_isOrdinary {f : Fault} (ordinary : f.isOrdinary = true) (r : Run η) :
    r.finishTimed (.error f) = r.fail f.reason := by
  rw [← finish_of_isOrdinary ordinary]
  cases f with
  | cancelled => cases ordinary
  | _ => rfl

/-- A run that has failed for a reason, or that will when it finds that its inquiry has ended. -/
inductive Failing (reason : String) (r : Run η) : Prop
  | pending {f : Fault} (watching : r.phase = .watching)
      (ended : r.inquiry.phase = .ended (.error f)) (ordinary : f.isOrdinary = true)
      (worded : f.reason = reason)
  | failed (state : r.state = .failed) (failure : r.failure = some reason)
      {outcome : Except Fault Closure} (ended : r.inquiry.phase = .ended outcome)

theorem Failing.exists_ended (h : r.Failing reason) :
    ∃ outcome, r.inquiry.phase = .ended outcome := by
  cases h with
  | pending _ ended => exact ⟨_, ended⟩
  | failed _ _ ended => exact ⟨_, ended⟩

theorem Failing.close (h : r.Failing reason) : r.close.Failing reason := by
  rw [Run.close]
  split
  · rename_i closing
    cases h with
    | pending watching => cases closing.symm.trans watching
    | failed state failure ended => exact .failed state failure ended
  · exact h

/-- A run fails with an ordinary fault of its inquiry, at once or when it finds it. -/
theorem failing_inquire {f : Inquiry → Inquiry} {fault : Fault}
    (ordinary : fault.isOrdinary = true)
    (attends : r.phase.isAsking = true ∨ r.phase = .watching)
    (ended : f r.inquiry = .ofOutcome (.error fault)) : (r.inquire f).1.Failing fault.reason := by
  rcases attends with asking | watching
  · have fails : r.inquire f =
        ({ r with inquiry := .ofOutcome (.error fault) } : Run η).fail fault.reason := by
      rcases Phase.isAsking_iff.mp asking with phase | phase
      · simp only [inquire, phase, ended, Inquiry.outcome?_ofOutcome,
          finish_of_isOrdinary ordinary]
      · simp only [inquire, phase, ended, Inquiry.outcome?_ofOutcome,
          finishTimed_of_isOrdinary ordinary]
    rw [fails]
    exact .failed rfl rfl rfl
  · rw [inquire_of_still (isAsking_of_watching watching)]
    exact .pending watching (congrArg Inquiry.phase ended) ordinary rfl

/-- An undisturbed run carries out an inquiry that waits for a lookup, or watches it. -/
theorem Undisturbed.attends (h : r.Undisturbed) (asking : r.inquiry.phase.isAsking = true) :
    r.inquiry.cancelling = false ∧ (r.phase.isAsking = true ∨ r.phase = .watching) := by
  cases h with
  | past _ ended =>
      rw [ended] at asking
      exact absurd asking Bool.false_ne_true
  | under _ _ _ quiet attends =>
      cases attends with
      | fresh _ inquiry =>
          rw [inquiry] at asking
          exact absurd asking Bool.false_ne_true
      | asking phase => exact ⟨quiet, .inl phase⟩
      | watching phase => exact ⟨quiet, .inr phase⟩

/-- A fault that comes up while a run is undisturbed is what the run fails with. -/
theorem Undisturbed.failing (h : r.Undisturbed) {m : RunMove} {f : Fault}
    (raises : m.Raises r f) (other : f ≠ .cancelled) : (m.apply r).1.Failing f.reason := by
  cases raises with
  | begin scheduled alone failed =>
      obtain ⟨far, uncalled, -, quiet, fresh⟩ := h.of_early (.inr scheduled)
      obtain ⟨phase, asking, begins⟩ := begin_of_alone far uncalled alone
      have begun := Inquiry.begin_of_fresh fresh quiet r.scope r.selected
      rw [failed] at begun
      rw [RunMove.apply, if_pos scheduled, begins]
      exact failing_inquire (Search.isOrdinary_of_start failed) (.inl asking) begun
  | beginInquiry watching fresh failed =>
      obtain ⟨-, -, -, quiet⟩ := h.of_watching watching
      have begun := Inquiry.begin_of_fresh fresh quiet r.scope r.selected
      rw [failed] at begun
      exact failing_inquire (Search.isOrdinary_of_start failed) (.inr watching) begun
  | pack asking intercepted =>
      obtain ⟨quiet, attends⟩ := h.attends (by rw [asking]; rfl)
      rw [← Fault.reason_ofLookup f]
      exact failing_inquire (Fault.isOrdinary_ofLookup other) attends
        (Inquiry.answerPack_of_error asking quiet intercepted f)
  | version asking intercepted =>
      obtain ⟨quiet, attends⟩ := h.attends (by rw [asking]; rfl)
      rw [← Fault.reason_ofLookup f]
      exact failing_inquire (Fault.isOrdinary_ofLookup other) attends
        (Inquiry.answerVersion_of_error asking quiet r.scope intercepted f)
  | @use q pack? version? _ asking intercepted failed =>
      obtain ⟨quiet, attends⟩ := h.attends (by rw [asking]; rfl)
      have answered := Inquiry.answerVersion_of_ok asking quiet r.scope intercepted version?
      rw [failed] at answered
      exact failing_inquire (Question.isOrdinary_of_answer failed) attends answered

theorem watching_of_inquire {f : Inquiry → Inquiry}
    (watching : (r.inquire f).1.phase = .watching) : r.phase = .watching := by
  rcases inquire_cases r f with ⟨closing, -⟩ | ⟨same, -⟩
  · cases closing.symm.trans watching
  · rw [same] at watching
    exact watching

theorem watching_of_close (watching : r.close.phase = .watching) : r.phase = .watching := by
  rw [Run.close] at watching
  split at watching
  · cases watching
  · exact watching

/-- A run that watches its inquiry after a fault came up did so before. -/
theorem Undisturbed.watching_of_raises (h : r.Undisturbed) {m : RunMove} {f : Fault}
    (raises : m.Raises r f) (watching : (m.apply r).1.phase = .watching) :
    r.phase = .watching := by
  cases raises with
  | beginInquiry first => exact first
  | pack | version | use => exact watching_of_inquire watching
  | begin scheduled alone =>
      obtain ⟨far, uncalled, -⟩ := h.of_early (.inr scheduled)
      obtain ⟨phase, asking, begins⟩ := begin_of_alone far uncalled alone
      rw [RunMove.apply, if_pos scheduled, begins] at watching
      have same : phase = .watching := watching_of_inquire watching
      rw [same] at asking
      exact absurd asking Bool.false_ne_true

/-- A fault comes up in a running run. -/
theorem Undisturbed.running_of_raises (h : r.Undisturbed) (consistent : r.Consistent) {m : RunMove}
    {f : Fault} (raises : m.Raises r f) : r.state = .running := by
  have attending (asking : r.inquiry.phase.isAsking = true) : r.state = .running := by
    rcases (h.attends asking).2 with asks | watching
    · rcases Phase.isAsking_iff.mp asks with phase | phase <;>
        exact consistent.state_of_phase phase fun _ fits => fits
    · exact consistent.state_of_phase watching fun _ fits => fits
  cases raises with
  | begin scheduled => exact consistent.state_of_phase scheduled fun _ fits => fits
  | beginInquiry watching => exact consistent.state_of_phase watching fun _ fits => fits
  | pack asking => exact attending (by rw [asking]; rfl)
  | version asking => exact attending (by rw [asking]; rfl)
  | use asking => exact attending (by rw [asking]; rfl)

/-- A run that finds that its inquiry has ended with an ordinary fault fails with it. -/
theorem wake_of_isOrdinary {f : Fault} (watching : r.phase = .watching)
    (ended : r.inquiry.phase = .ended (.error f)) (ordinary : f.isOrdinary = true) :
    r.wake = ({ r with cancelling := false } : Run η).fail f.reason := by
  rw [wake_of_watching watching ended, finish_of_isOrdinary ordinary]

/-- A step leaves a run alone that watches an inquiry which has ended, unless the run is woken. -/
theorem failing_apply {f : Fault} (watching : r.phase = .watching)
    (ended : r.inquiry.phase = .ended (.error f)) (ordinary : f.isOrdinary = true) (m : RunMove) :
    (m.apply r).1.Failing f.reason := by
  have unheard {g : Inquiry → Inquiry} (same : g r.inquiry = r.inquiry) :
      (r.inquire g).1.Failing f.reason := by
    rw [inquire_of_quiet (isAsking_of_watching watching) same]
    exact .pending watching ended ordinary rfl
  cases m with
  | begin =>
      have begun : r.phase ≠ .scheduled := by
        rw [watching]
        exact nofun
      rw [RunMove.apply, if_neg begun]
      exact .pending watching ended ordinary rfl
  | beginInquiry => exact unheard (Inquiry.begin_of_ended ended r.scope r.selected)
  | answerPack intercepted answer =>
      exact unheard (Inquiry.answerPack_of_ended ended intercepted answer)
  | answerVersion intercepted answer =>
      exact unheard (Inquiry.answerVersion_of_ended ended r.scope intercepted answer)
  | expire =>
      have late : r.expire = { r with overdue := true } := by rw [Run.expire, watching]
      rw [RunMove.apply, late]
      exact .pending watching ended ordinary rfl
  | wake =>
      rw [RunMove.apply, wake_of_isOrdinary watching ended ordinary]
      exact .failed rfl rfl ended
  | conclude =>
      have same : r.conclude = (r, []) := by rw [Run.conclude, watching]
      rw [RunMove.apply, same]
      exact .pending watching ended ordinary rfl

/-- Whatever happens to a run that fails, it goes on to fail for that reason. -/
theorem Failing.after (h : r.Failing reason) (consistent : r.Consistent) (e : RunEvent η) :
    (e.after r).Failing reason := by
  cases h with
  | failed state failure ended =>
      have finished : r.state.isFinished = true := by rw [state]; rfl
      have view := RunEvent.view_after consistent finished e
      exact .failed ((congrArg RunView.state view).trans state)
        ((congrArg RunView.failure view).trans failure) (RunEvent.phase_inquiry_after ended e)
  | pending watching ended ordinary worded =>
      cases e with
      | register occasion handler => exact .pending watching ended ordinary worded
      | start =>
          have running : r.state = .running := consistent.state_of_phase watching fun _ fits => fits
          have busy : r.state ≠ .idle := by
            rw [running]
            exact RunState.noConfusion
          rw [RunEvent.after, if_neg busy]
          exact .pending watching ended ordinary worded
      | abort =>
          exact .pending ((phase_abort r).trans watching) ((phase_inquiry_abort r).trans ended)
            ordinary worded
      | move m =>
          subst worded
          exact (failing_apply watching ended ordinary m).close

theorem Failing.afterAll (h : r.Failing reason) (consistent : r.Consistent)
    (events : List (RunEvent η)) : (RunEvent.afterAll events r).Failing reason := by
  induction events generalizing r with
  | nil => exact h
  | cons e later ih => exact ih (h.after consistent e) (e.consistent_after consistent)

/-- A run that fails has failed once it was woken. -/
theorem Failing.woken (h : r.Failing reason) (consistent : r.Consistent) :
    ((RunEvent.move .wake).after r).state = .failed := by
  cases h with
  | failed state =>
      have finished : r.state.isFinished = true := by rw [state]; rfl
      exact (congrArg RunView.state (RunEvent.view_after consistent finished _)).trans state
  | pending watching ended ordinary =>
      rw [RunEvent.after, RunMove.apply, wake_of_isOrdinary watching ended ordinary]
      rfl

/-- A run that fails has failed in the end, provided that it does not watch its inquiry without ever
being woken. -/
theorem Failing.state_afterAll (h : r.Failing reason) (consistent : r.Consistent)
    {events : List (RunEvent η)} (woken : r.phase = .watching → .move .wake ∈ events) :
    (RunEvent.afterAll events r).state = .failed := by
  cases h with
  | failed state =>
      rw [RunEvent.state_afterAll consistent (by rw [state]; rfl), state]
  | pending watching ended ordinary worded =>
      obtain ⟨before, later, rfl⟩ := List.append_of_mem (woken watching)
      have h := Failing.pending watching ended ordinary worded
      have stood := RunEvent.consistent_afterAll before consistent
      have failed := (h.afterAll consistent before).woken stood
      rw [RunEvent.afterAll_append]
      show (RunEvent.afterAll later ((RunEvent.move .wake).after _)).state = _
      rw [RunEvent.state_afterAll (RunEvent.consistent_after stood _) (by rw [failed]; rfl), failed]

theorem Failing.failure (h : r.Failing reason) (failed : r.state = .failed)
    (consistent : r.Consistent) : r.failure = some reason := by
  cases h with
  | failed _ failure => exact failure
  | pending watching =>
      have running : r.state = .running := consistent.state_of_phase watching fun _ fits => fits
      cases failed.symm.trans running

theorem Failing.ends (h : r.Failing reason) (consistent : r.Consistent) :
    r.state = .running ∨ r.state = .failed := by
  cases h with
  | pending watching => exact .inl (consistent.state_of_phase watching fun _ fits => fits)
  | failed state => exact .inr state

/-- A run that fails has nothing to show. -/
theorem Failing.empty (h : r.Failing reason) (consistent : r.Consistent) :
    r.dependencies = [] ∧ r.warnings = [] ∧ r.closure = {} := by
  have unsuccessful : r.state ≠ .succeeded := by
    rcases h.ends consistent with state | state <;> rw [state] <;> exact RunState.noConfusion
  obtain ⟨closure, warnings⟩ := consistent.empty unsuccessful
  exact ⟨dependencies_of_state_ne unsuccessful, warnings, closure⟩

/-- No lookup is made once a run fails. -/
theorem Failing.lookupsAll {before : List (RunEvent η)} {e : RunEvent η}
    (h : (e.after (RunEvent.afterAll before r)).Failing reason) (target : String)
    (later : List (RunEvent η)) :
    RunEvent.lookupsAll target (before ++ e :: later) r = RunEvent.lookupsAll target before r := by
  obtain ⟨outcome, ended⟩ := h.exists_ended
  rw [RunEvent.lookupsAll_append, RunEvent.lookupsAll, RunEvent.lookups,
    Inquiry.made_of_ended ended, RunEvent.lookupsAll_of_ended ended, List.append_nil,
    List.append_nil]

end Run

namespace Watched

variable {σ η : Type} [Host σ η] {i : Nat}

/-- What handlers are told of a failure: those for it hear the reason, and those for any end hear
that it is over. -/
def toldOfFailure (reason : String) (handlers : List (Occasion × η)) : List (η × Notice) :=
  ((handlers.filter (·.1 == .failed)).map fun h => (h.2, .failed reason)) ++ finishers handlers

theorem announcement_of_failed {r : Run η} {reason : String} (failed : r.state = .failed)
    (failure : r.failure = some reason) (handlers : List (Occasion × η)) :
    ({ r with handlers } : Run η).announcement = toldOfFailure reason handlers := by
  rw [Run.announcement, Run.notices]
  simp only [failed, failure, List.flatMap_cons, List.flatMap_nil, List.append_nil,
    Option.getD_some]
  rfl

/-- Nothing escapes from what happens to a run but the refusal to start it again. -/
theorem escapes_happen [LawfulOwner σ] {w : Watched σ η} {r : Run η}
    (known : Owner.run? w i = some r) (e : RunEvent η) {f : Fault}
    (escapes : ((Host.happen i e : Act (Watched σ η) Unit).perform w).1 = .error f) :
    e = .start ∧ r.state ≠ .idle ∧ f = .alreadyStarted := by
  cases e with
  | register occasion handler => cases escapes
  | start =>
      by_cases idle : r.state = .idle
      · have started := Owner.perform_start_of_idle known idle
        rw [Host.happen, started] at escapes
        cases escapes
      · have refused := Owner.perform_start_of_ne_idle known idle
        rw [Host.happen, refused] at escapes
        exact ⟨rfl, idle, (Except.error.inj escapes).symm⟩
  | abort =>
      obtain ⟨answer, answered⟩ := Owner.perform_abort_fst i w
      rw [Host.happen, Act.perform_bind] at escapes
      generalize (Owner.abort i : Act (Watched σ η) Bool).perform w = asked at answered escapes
      obtain ⟨result, w'⟩ := asked
      subst answered
      cases escapes
  | move m =>
      rw [Host.happen, Host.perform_transition known] at escapes
      cases escapes

/-- What was registered by then is registered in the end. -/
theorem mem_registrations_of_split {events heard rest : List (RunEvent η)}
    (split : events = heard ++ rest) {h : Occasion × η}
    (among : h ∈ RunEvent.registrations heard) : h ∈ RunEvent.registrations events := by
  rw [split, RunEvent.registrations, List.flatMap_append]
  exact List.mem_append_left _ among

/-- What a fault comes to that comes up in the inquiry of a run: `r` is the run when it comes up,
and `r'` the run after whatever happens later. -/
structure FailsWith (i : Nat) (w : Watched σ η) (new : Run η) (before : List (RunEvent η))
    (m : RunMove) (f : Fault) (later : List (RunEvent η)) (r r' : Run η) : Prop where
  known : Owner.run? (Host.follow i before w) i = some r
  last : Owner.run? (Host.follow i (before ++ .move m :: later) w) i = some r'
  ends : r'.state = .running ∨ r'.state = .failed
  /-- A run that only watches its inquiry fails when it is woken, and any other one at once. -/
  fails : (r.phase = .watching → .move .wake ∈ later) → r'.state = .failed
  failure : r'.state = .failed → r'.failure = some f.reason
  spoken : f.title ≠ "" → f.reason ≠ ""
  /-- Nothing is exposed of what was found by then. -/
  empty : r'.dependencies = [] ∧ r'.warnings = [] ∧ r'.closure = {}
  /-- No lookup is made any more. -/
  lookups : ∀ target, RunEvent.lookupsAll target (before ++ .move m :: later) new =
    RunEvent.lookupsAll target before new
  silent : r'.state = .running →
    (Host.follow i (before ++ .move m :: later) w).calls = w.calls
  /-- The event at which the run fails tells the handlers that were registered before it. -/
  told : r'.state = .failed → ∃ heard e rest r₁, .move m :: later = heard ++ e :: rest ∧
    Owner.run? (Host.follow i (before ++ heard) w) i = some r₁ ∧ r₁.state = .running ∧
    Told i r'.view (toldOfFailure f.reason (RunEvent.registrations (before ++ heard))) w
      (Host.follow i (before ++ .move m :: later) w)
  /-- The fault does not escape from anything, be it that the run is started or takes a step. -/
  contained : ∀ heard e rest, before ++ .move m :: later = heard ++ e :: rest → ∀ g,
    ((Host.happen i e : Act (Watched σ η) Unit).perform (Host.follow i heard w)).1 = .error g →
      e = .start ∧ g = .alreadyStarted
  /-- The run can be waited for from its start on. -/
  waits : ∀ heard rest, before ++ .move m :: later = heard ++ rest →
    (RunEvent.afterAll heard new).state ≠ .idle →
      (Owner.requireStarted i : Act (Watched σ η) Unit).perform (Host.follow i heard w) =
        (.ok (), Host.follow i heard w)

/-- A fault that comes up in the inquiry of a run is reported as it was raised, and nothing else is:
whatever it is that fails and however far the inquiry had come, a run that was not aborted and whose
deadline did not pass fails with the words of the fault, which its handlers are told. -/
theorem failsWith_of_new [LawfulOwner σ] {w : Watched σ η} {selected : List Choice}
    {scope : Scope} {timeout : Value} {conduct : Conduct}
    (known : Owner.run? w i = some { selected, scope, timeout, conduct })
    (far : (Deadline.ofTimeout timeout).isFar = true) {before : List (RunEvent η)}
    (undisturbed : RunEvent.Undisturbed before { selected, scope, timeout, conduct })
    {m : RunMove} {f : Fault}
    (raises : m.Raises (RunEvent.afterAll before { selected, scope, timeout, conduct }) f)
    (other : f ≠ .cancelled) (later : List (RunEvent η))
    (tame : ∀ h ∈ RunEvent.registrations (before ++ .move m :: later), Host.AsksOnly σ i h.2) :
    ∃ r r', FailsWith i w { selected, scope, timeout, conduct } before m f later r r' := by
  have fresh := Run.consistent_new (η := η) selected scope timeout conduct
  have reach (heard rest : List (RunEvent η)) (split : before ++ .move m :: later = heard ++ rest) :
      Owner.run? (Host.follow i heard w) i =
        some (RunEvent.afterAll heard { selected, scope, timeout, conduct }) :=
    run?_follow heard known fresh fun h among => tame h (mem_registrations_of_split split among)
  obtain ⟨r, knownBefore, consistent, handlers, silent⟩ := follow_of_new before known
    fun h among => tame h (mem_registrations_of_split rfl among)
  have reached : RunEvent.afterAll before { selected, scope, timeout, conduct } = r :=
    Option.some.inj ((reach before _ rfl).symm.trans knownBefore)
  rw [reached] at raises
  have steady : r.Undisturbed :=
    reached ▸ undisturbed.afterAll fresh (Run.undisturbed_new selected scope conduct far)
  have running := steady.running_of_raises consistent raises
  have failing : ((RunEvent.move m).after r).Failing f.reason :=
    (steady.failing raises other).close
  have next := RunEvent.consistent_after consistent (.move m)
  have stood := RunEvent.consistent_afterAll later next
  have fails := failing.afterAll next later
  obtain ⟨last, -, told⟩ := told_of_running before knownBefore consistent handlers
    (silent (by rw [running]; rfl)) running (.move m :: later) tame
  have one : RunEvent.afterAll (.move m :: later) r =
      RunEvent.afterAll later ((RunEvent.move m).after r) := rfl
  rw [one] at last told
  exact ⟨r, RunEvent.afterAll later ((RunEvent.move m).after r),
    { known := knownBefore
      last := last
      ends := fails.ends stood
      fails := fun woken => failing.state_afterAll next fun watching =>
        woken (steady.watching_of_raises raises (Run.watching_of_close watching))
      failure := fun failed => fails.failure failed stood
      spoken := Fault.reason_ne_empty
      empty := fails.empty stood
      lookups := fun target => Run.Failing.lookupsAll (reached ▸ failing) target later
      silent := fun going => by
        rcases told with ⟨-, quiet⟩ | ⟨finished, -⟩
        · exact quiet
        · exact absurd going (RunState.ne_running_of_isFinished finished)
      told := fun failed => by
        rcases told with ⟨going, -⟩ | ⟨-, heard, e, rest, r₁, split, at₁, running₁, told⟩
        · cases failed.symm.trans going
        · rw [announcement_of_failed failed (fails.failure failed stood)] at told
          exact ⟨heard, e, rest, r₁, split, at₁, running₁, told⟩
      contained := fun heard e rest split g escapes => by
        obtain ⟨first, -, refused⟩ := escapes_happen (reach heard _ split) e escapes
        exact ⟨first, refused⟩
      waits := fun heard rest split started =>
        Owner.perform_requireStarted (reach heard rest split) started }⟩

end Watched

namespace Rehearsal.Solo

/-- A new run over the ring that watches its inquiry under a deadline. -/
def watcher : Watched Solo NotingHandler where
  host := {
    runs := [{ selected := ringSelection, scope := ringScope, timeout := .int 30 }]
    journal := {} }

/-- The next part of the ring is found, and the version of the part after it is being looked up. -/
def watching : List (RunEvent NotingHandler) :=
  [.register .failed ⟨.str "first", false, none⟩,
    .register .finished ⟨.str "second", true, some (.raised "ValueError" "")⟩,
    .start, .move .begin, .move .beginInquiry, .move (.answerPack false (.ok (some (ringPack 1)))),
    .move (.answerVersion false (.ok (some (ringVersion 1)))),
    .move (.answerPack false (.ok (some (ringPack 2))))]

/-- The service gives up without a word. -/
def gaveUp : RunMove := .answerVersion false (.error (.timedOut ""))

/-- Nobody asks for the run any more but a handler that comes late. -/
def afterwards : List (RunEvent NotingHandler) :=
  [.register .succeeded ⟨.str "third", false, none⟩, .move .wake]

/-- A service that gives up without a word makes the run fail with the name of the fault: the part
that was found by then is not shown, and the run has not timed out. -/
theorem failsWith_of_new_ring :
    (Deadline.ofTimeout (.int 30)).isFar = true ∧
    RunEvent.Undisturbed watching
      ({ selected := ringSelection, scope := ringScope, timeout := .int 30 } :
        Run NotingHandler) ∧
    gaveUp.Raises (RunEvent.afterAll watching
      ({ selected := ringSelection, scope := ringScope, timeout := .int 30 } :
        Run NotingHandler)) (.timedOut "") ∧
    (∀ h ∈ RunEvent.registrations (watching ++ .move gaveUp :: afterwards),
      Host.AsksOnly Solo 0 h.2) ∧
    (∃ r r', Watched.FailsWith 0 watcher
      { selected := ringSelection, scope := ringScope, timeout := .int 30 } watching gaveUp
      (.timedOut "") afterwards r r') ∧
    (Owner.run? (Host.follow 0 (watching ++ .move gaveUp :: afterwards) watcher) 0).map
      (fun r => (r.state, r.failure)) = some (.failed, some "TimeoutError") ∧
    (Host.follow 0 (watching ++ .move gaveUp :: afterwards) watcher).calls.map
      (fun c => (c.handler.label.text, c.notice)) =
      [("first", .failed "TimeoutError"), ("second", .finished)] := by
  have far : (Deadline.ofTimeout (.int 30)).isFar = true := rfl
  have undisturbed : RunEvent.Undisturbed watching
      ({ selected := ringSelection, scope := ringScope, timeout := .int 30 } :
        Run NotingHandler) := by decide +kernel
  have raises : gaveUp.Raises (RunEvent.afterAll watching
      ({ selected := ringSelection, scope := ringScope, timeout := .int 30 } :
        Run NotingHandler)) (.timedOut "") := .version rfl false _
  have tame : ∀ h ∈ RunEvent.registrations (watching ++ .move gaveUp :: afterwards),
      Host.AsksOnly Solo 0 h.2 := fun h _ => asksOnly_invoke 0 h.2
  refine ⟨far, undisturbed, raises, tame, ?_, by decide +kernel, by decide +kernel⟩
  exact Watched.failsWith_of_new (w := watcher) rfl far undisturbed raises Fault.noConfusion
    afterwards tame

end Rehearsal.Solo

end AddonPicker
