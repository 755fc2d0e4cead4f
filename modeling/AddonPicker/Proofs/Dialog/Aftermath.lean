import AddonPicker.Proofs.Dialog.Outcome
import AddonPicker.Proofs.Dialog.Place

/-!
# After the end of a confirmation

A confirmation that has ended leaves no run behind that is still under way, and nothing that happens
to its run tells the user anything any more. It need not have come to a good end: the surface may go
away early, the user interface may fail, the confirmation may be cancelled.

There are two ways to leave the run behind after all. A surface that fails after it has started the
run takes the confirmation down with it. And a confirmation that has aborted its run and is waiting
for the end of it does not wait any longer when it is cancelled.
-/

namespace AddonPicker

/-- Moves that do not fail once the run was started, but for a cancellation. To start the run again
is to fail. -/
def SurfaceMove.orderly (started : Bool) : List SurfaceMove → Bool
  | [] => true
  | .start :: later => !started && orderly true later
  | .startIfIdle :: later => orderly true later
  | .abort _ :: later => orderly started later
  | .pause :: later => orderly started later
  | .await :: later => orderly started later
  | .close _ :: _ => true
  | .closeByOutcome :: _ => true
  | .fail .cancelled :: _ => true
  | .fail _ :: _ => !started

/-- Whether a run has been started. -/
def Run.isStarted (r : Run DialogHandler) : Bool :=
  !(r.state == .idle)

/-- Whether a confirmation stands where it has aborted its run and waits for the end of it. -/
def Stage.isWinding : Stage → Bool
  | .abandoning _ => true
  | .settling _ => true
  | _ => false

/-- How a confirmation that minds its run stands: it will not leave a run behind that is still under
way. -/
def Stage.Minds (r : Run DialogHandler) (cancelling : Bool) : Stage → Prop
  | .surface _ _ later => SurfaceMove.orderly r.isStarted later = true
  | .abandoning _ => cancelling = false
  | .settling _ => cancelling = false
  | .scheduled => False
  | .reviewing _ _ => r.state ≠ .running
  | .ended _ => r.state ≠ .running

variable {r r' : Run DialogHandler} {k k' : Confirmation} {i : Nat}

theorem Stage.minds_of_isPast {stage : Stage} (past : stage.isPast = true)
    (still : r.state ≠ .running) (cancelling : Bool) : stage.Minds r cancelling := by
  cases stage with
  | reviewing box plan => exact still
  | ended v => exact still
  | _ => exact absurd past Bool.false_ne_true

theorem Stage.Minds.still {stage : Stage} {cancelling : Bool} (minds : stage.Minds r cancelling)
    (past : stage.isPast = true) : r.state ≠ .running := by
  cases stage with
  | reviewing box plan => exact minds
  | ended v => exact minds
  | _ => exact absurd past Bool.false_ne_true

namespace SurfaceMove

/-- What moves come to that leave no running run behind. -/
def Tidy : Except Fault SurfaceStep → Run DialogHandler → Prop
  | .ok (.waits _ later), r => orderly r.isStarted later = true
  | .ok (.closed _), _ => True
  | .error .cancelled, _ => True
  | .error _, r => r.state ≠ .running

theorem tidy_course {moves : List SurfaceMove} (proper : orderly r.isStarted moves = true) :
    Tidy (course moves r).1 (course moves r).2 := by
  induction moves generalizing r with
  | nil => trivial
  | cons m later ih =>
      have started (idle : r.state ≠ .idle) : r.isStarted = true := by
        rw [Run.isStarted, beq_eq_false_iff_ne.mpr idle]
        rfl
      have still (idle : r.state = .idle) : r.state ≠ .running := by
        rw [idle]
        exact RunState.noConfusion
      cases m with
      | start =>
          rw [orderly, Bool.and_eq_true] at proper
          rw [course]
          split
          · exact ih proper.2
          · rename_i busy
            rw [started busy] at proper
            exact absurd proper.1 Bool.false_ne_true
      | startIfIdle =>
          rw [course]
          split
          · exact ih proper
          · rename_i busy
            exact ih (by rw [started busy]; exact proper)
      | abort shown =>
          have same : r.abort.2.isStarted = r.isStarted := by
            rw [Run.isStarted, Run.isStarted, (Run.abort_snd_eq r).1]
          exact ih (by rw [same]; exact proper)
      | await =>
          rw [course]
          split
          · rename_i idle
            exact still idle
          · exact proper
      | pause => exact proper
      | close result => trivial
      | closeByOutcome => trivial
      | fail f =>
          by_cases idle : r.state = .idle
          · cases f with
            | cancelled => trivial
            | _ => exact still idle
          · rw [started idle] at proper
            cases f with
            | cancelled => trivial
            | _ => exact absurd proper Bool.false_ne_true

end SurfaceMove

/-- Winding up leaves a run behind that was not started, or waits for its end. -/
theorem Way.minds_windUp {waits stage : Stage} (winding : waits.isWinding = true)
    (leads : (windUp waits r).1.Leads stage) : stage.Minds (windUp waits r).2 false := by
  have state : (windUp waits r).2.state = r.state := (Run.abort_snd_eq r).1
  rcases windUp_cases waits r with ⟨broken, idle⟩ | ⟨stands, -⟩
  · rw [broken] at leads
    cases leads
    refine Stage.minds_of_isPast rfl ?_ false
    rw [state, idle]
    exact RunState.noConfusion
  · rw [stands] at leads
    cases leads
    cases waits with
    | abandoning i => rfl
    | settling i => rfl
    | _ => exact absurd winding Bool.false_ne_true

theorem SurfaceMove.minds_way {moves : List SurfaceMove} {stage : Stage}
    (proper : orderly r.isStarted moves = true) (leads : (way i moves r).1.Leads stage) :
    stage.Minds (way i moves r).2 false := by
  have tidy := tidy_course proper
  rw [way] at leads ⊢
  generalize course moves r = came at tidy leads
  obtain ⟨result, r'⟩ := came
  cases result with
  | ok step =>
      cases step with
      | waits wait later =>
          cases leads
          exact tidy
      | closed result =>
          dsimp only at leads ⊢
          by_cases finished : r'.state.isFinished = true
          · rw [if_pos finished] at leads ⊢
            cases leads with
            | checks past =>
                exact Stage.minds_of_isPast past (RunState.ne_running_of_isFinished finished) false
          · rw [if_neg finished] at leads ⊢
            exact Way.minds_windUp rfl leads
  | error f =>
      cases f with
      | cancelled => exact Way.minds_windUp rfl leads
      | _ =>
          cases leads
          exact tidy

namespace Confirmation

/-- A run of a dialog and a confirmation that minds it. -/
structure Minds (r : Run DialogHandler) (k : Confirmation) : Prop where
  own : r.IsOwn
  stage : k.stage.Minds r k.cancelling

/-- A confirmation that goes on goes on to mind its run. -/
theorem minds_way {stage : Stage} (minds : k.stage.Minds r k.cancelling)
    (ready : k.isReady r = true) (leads : (k.way i r).1.Leads stage) :
    stage.Minds (k.way i r).2 false := by
  obtain ⟨here, cancelling⟩ := k
  -- Where it has waited for the end of the run, the run has ended.
  have finished (waits : here.isWinding = true) (undisturbed : cancelling = false) :
      r.state ≠ .running := by
    subst undisturbed
    cases here with
    | abandoning i => exact RunState.ne_running_of_isFinished ready
    | settling i => exact RunState.ne_running_of_isFinished ready
    | _ => exact absurd waits Bool.false_ne_true
  cases here with
  | surface j wait later =>
      cases cancelling with
      | true => exact Way.minds_windUp rfl leads
      | false => exact SurfaceMove.minds_way minds leads
  | abandoning j =>
      cases leads
      exact finished rfl minds
  | settling j =>
      obtain rfl : cancelling = false := minds
      cases leads with
      | checks past => exact Stage.minds_of_isPast past (finished rfl rfl) false
  | scheduled => exact minds.elim
  | reviewing box plan =>
      cases leads
      exact minds
  | ended v =>
      cases leads
      exact minds

/-- What minds a run minds what has become of it, if it was not started again meanwhile. -/
theorem minds_of_state {stage : Stage} {cancelling : Bool} (minds : stage.Minds r cancelling)
    (started : r'.isStarted = r.isStarted) (still : r.state ≠ .running → r'.state ≠ .running) :
    stage.Minds r' cancelling := by
  cases stage with
  | surface j wait later =>
      show SurfaceMove.orderly r'.isStarted later = true
      rw [started]
      exact minds
  | abandoning j => exact minds
  | settling j => exact minds
  | scheduled => exact minds
  | reviewing box plan => exact still minds
  | ended v => exact still minds

/-- A confirmation goes on to mind its run, unless it is cancelled while it waits for the end of a
run that it has aborted. -/
theorem Minds.turn {e : ConfirmEvent} (minds : k.Minds r) (turn : Turn i e r k r' k')
    (considerate : e = .cancel → k.stage.isWinding = false) : k'.Minds r' := by
  refine ⟨turn.isOwn minds.own, ?_⟩
  cases turn with
  | idle => exact minds.stage
  | resumed checking ready leads => exact minds_way minds.stage ready leads
  | answered past past' => exact Stage.minds_of_isPast past' (minds.stage.still past) _
  | aborted =>
      have state := (Run.abort_snd_eq r).1
      refine minds_of_state minds.stage ?_ fun still => state ▸ still
      rw [Run.isStarted, Run.isStarted, state]
  | moved _ _ m =>
      rcases minds.own.state_move m with state | ⟨running, finished⟩
      · refine minds_of_state minds.stage ?_ fun still => state ▸ still
        rw [Run.isStarted, Run.isStarted, state]
      · refine minds_of_state minds.stage ?_ fun still => absurd running still
        rw [Run.isStarted, Run.isStarted, running,
          beq_eq_false_iff_ne.mpr (RunState.ne_idle_of_isFinished finished)]
        rfl
  | called =>
      have apart := considerate rfl
      have stays := minds.stage
      obtain ⟨stage, cancelling⟩ := k
      cases stage with
      | abandoning j => exact nomatch apart
      | settling j => exact nomatch apart
      | _ => exact stays

end Confirmation

namespace Session

open Act

variable {b s : Session}

/-- A confirmation, given by position, is not cancelled while it waits for the end of a run that it
has aborted. -/
def Spares (c : Nat) (s : Session) (e : ConfirmEvent) : Prop :=
  e = .cancel → ∀ k, s.confirmations[c]? = some k → k.stage.isWinding = false

theorem minds_beginning (proper : SurfaceMove.orderly false b.surface.moves = true)
    {run : Run DialogHandler} (checks : b.newRun? = some run) {stage : Stage}
    (leads : (b.beginning run).1.Leads stage) :
    (stage : Confirmation).Minds (b.beginning run).2 := by
  obtain ⟨own, idle⟩ := isOwn_handled checks
  refine ⟨kept_of_beginning (fun _ => Run.IsOwn.started) (fun _ => Run.IsOwn.abort) own, ?_⟩
  rw [beginning] at leads ⊢
  cases creation : b.surface.creation with
  | some f =>
      rw [creation] at leads
      cases leads
      show (handled run).state ≠ .running
      rw [idle]
      exact RunState.noConfusion
  | none =>
      rw [creation] at leads
      refine SurfaceMove.minds_way ?_ leads
      rw [Run.isStarted, idle]
      exact proper

/-- Whatever happens, a confirmation goes on to mind its run. -/
theorem place_minds (proper : SurfaceMove.orderly false b.surface.moves = true)
    {events : List ConfirmEvent}
    (spared : b.request.2.IsLegal (Spares b.confirmations.length) b.confirmations.length
      b.runs.length events) :
    Place b (fun r k => k.Minds r)
      (b.request.2.pursue b.confirmations.length b.runs.length events) := by
  have requested : Place b (fun r k => k.Minds r) b.request.2 :=
    .requested b.selection.journal false
  refine requested.pursue (fun _ checks _ leads => minds_beginning proper checks leads) ?_ spared
  intro s e r k spares at_ minds r' k' turn
  exact minds.turn turn fun cancelled => spares cancelled k at_.confirmation?

/-- A dialog in which a confirmation has ended that was requested of another one, and in which its
run, if it has one, is not under way. -/
inductive Quiet (b s : Session) : Prop
  | unchecked {k : Confirmation} {v : Verdict} (runs : s.runs = b.runs)
      (known : s.confirmations[b.confirmations.length]? = some k) (ended : k.stage = .ended v)
  | under {r : Run DialogHandler} {k : Confirmation} {v : Verdict} (own : r.IsOwn)
      (still : r.state ≠ .running) (ended : k.stage = .ended v) (at_ : At b r k s)

theorem Quiet.confirmation? (quiet : Quiet b s) :
    ∃ k v, s.confirmations[b.confirmations.length]? = some k ∧ k.stage = .ended v := by
  cases quiet with
  | unchecked runs known ended => exact ⟨_, _, known, ended⟩
  | under own still ended at_ => exact ⟨_, _, at_.confirmation?, ended⟩

/-- A confirmation that has ended neither goes on nor can be cancelled. -/
theorem Quiet.resume_cancel (quiet : Quiet b s) :
    s.resume b.confirmations.length = s ∧ (s.cancel b.confirmations.length).2 = s := by
  obtain ⟨k, v, known, ended⟩ := quiet.confirmation?
  obtain ⟨stage, cancelling⟩ := k
  obtain rfl : stage = .ended v := ended
  rw [Session.resume, Session.cancel, known]
  exact ⟨rfl, rfl⟩

/-- What is done to the run of a confirmation that has ended, and leaves it as it is but for what
does not show, keeps the dialog quiet. -/
theorem quiet_of_does {α : Type} {a : Act Session α} {result : Except Fault α}
    {b' : Session} (own : r'.IsOwn) (still : r'.state ≠ .running)
    (later : ∀ j, At b r' k (Journaled.setJournal j (b'.amid r' k))) {v : Verdict}
    (ended : k.stage = .ended v) (does : Does a result [] (b'.amid r k) (b'.amid r' k))
    (j : Journal) :
    Quiet b (a.perform (Journaled.setJournal j (b'.amid r k))).2 ∧
      (a.perform (Journaled.setJournal j (b'.amid r k))).2.news =
        (Journaled.setJournal j (b'.amid r k)).news := by
  obtain ⟨j', performed, news⟩ := does j
  rw [performed]
  exact ⟨.under own still ended (later j'), news.trans (List.append_nil _)⟩

/-- After its end, nothing that happens to a confirmation or its run tells the user anything. -/
theorem Quiet.undergo (quiet : Quiet b s) (e : ConfirmEvent) :
    Quiet b (s.undergo b.confirmations.length b.runs.length e) ∧
      (s.undergo b.confirmations.length b.runs.length e).news = s.news := by
  obtain ⟨resumed, cancelled⟩ := quiet.resume_cancel
  cases e with
  | cancel =>
      rw [Session.undergo, cancelled]
      exact ⟨quiet, rfl⟩
  | check e =>
      cases e with
      | resume =>
          rw [Session.undergo, happen, resumed]
          split <;> exact ⟨quiet, rfl⟩
      | lookup l =>
          cases quiet with
          | unchecked runs known ended => exact ⟨.unchecked runs known ended, rfl⟩
          | under own still ended at_ => exact ⟨.under own still ended (at_.lookup l), rfl⟩
      | abort =>
          cases quiet with
          | unchecked runs known ended =>
              rw [Session.undergo, happen, perform_abort_of_none (run?_eq_none_of_runs runs)]
              exact ⟨.unchecked runs known ended, rfl⟩
          | @under r k v own still ended at_ =>
              obtain ⟨b', j, rfl, runs, -, goes⟩ := at_.exists_amid
              have same := Run.abort_of_ne_running own.consistent still
              have done := does_abort (b := b') (r := r) (k := k)
              rw [same, runs] at done
              exact quiet_of_does own still (fun j' => goes j' r k rfl) ended done j
      | move m =>
          cases quiet with
          | unchecked runs known ended =>
              rw [Session.undergo, happen, perform_transition_of_none (run?_eq_none_of_runs runs)]
              exact ⟨.unchecked runs known ended, rfl⟩
          | @under r k v own still ended at_ =>
              obtain ⟨b', j, rfl, runs, -, goes⟩ := at_.exists_amid
              obtain ⟨r', own', ⟨view, done⟩ | ⟨running, -⟩⟩ := does_transition b' k own m
              · have state : r'.state = r.state := congrArg RunView.state view
                rw [runs] at done
                exact quiet_of_does own' (state ▸ still) (fun j' => goes j' r' k rfl) ended done j
              · exact absurd running still

theorem Quiet.news_pursue (quiet : Quiet b s) (later : List ConfirmEvent) :
    (s.pursue b.confirmations.length b.runs.length later).news = s.news := by
  induction later generalizing s with
  | nil => rfl
  | cons e later ih =>
      obtain ⟨quiet', same⟩ := quiet.undergo e
      exact (ih quiet').trans same

/-- A confirmation that has minded its run leaves a quiet dialog behind. -/
theorem quiet_of_verdict {v : Verdict} (place : Place b (fun r k => k.Minds r) s)
    (verdict : s.verdict? b.confirmations.length = some v) : Quiet b s := by
  obtain ⟨k, known, came⟩ := Option.bind_eq_some_iff.mp verdict
  have ended : k.stage = .ended v := by
    obtain ⟨stage, cancelling⟩ := k
    cases stage with
    | ended v' => exact congrArg Stage.ended (Option.some.inj came)
    | _ => exact nomatch came
  cases place with
  | requested j cancelling =>
      rw [confirmation?_awaiting] at known
      obtain rfl := Option.some.inj known
      exact nomatch ended
  | unchecked runs known' past => exact .unchecked runs known ended
  | @under _ r k' minds at_ =>
      obtain rfl : k' = k := Option.some.inj (at_.confirmation?.symm.trans known)
      exact .under minds.own (minds.stage.still (by rw [ended]; rfl)) ended at_

/-- When a confirmation has ended, the run that it made is not under way, and nothing that happens
to either of them from then on tells the user anything. This is so for every surface that does not
fail after it has started the run, and however the confirmation came to its end, unless it was
cancelled while it waited for the end of a run that it had aborted. -/
theorem aftermath_of_pursue (proper : SurfaceMove.orderly false b.surface.moves = true)
    (events : List ConfirmEvent)
    (spared : b.request.2.IsLegal (Spares b.confirmations.length) b.confirmations.length
      b.runs.length events) {v : Verdict}
    (verdict : (b.request.2.pursue b.confirmations.length b.runs.length events).verdict?
      b.confirmations.length = some v) :
    let s := b.request.2.pursue b.confirmations.length b.runs.length events
    (∀ r, s.runs[b.runs.length]? = some r → r.state ≠ .running) ∧
      ∀ later, (s.pursue b.confirmations.length b.runs.length later).news = s.news := by
  intro s
  have quiet := quiet_of_verdict (place_minds proper spared) verdict
  refine ⟨fun r known => ?_, quiet.news_pursue⟩
  cases quiet with
  | unchecked runs known' ended =>
      exact nomatch known.symm.trans (run?_eq_none_of_runs runs)
  | @under r' k v own still ended at_ =>
      obtain rfl : r' = r := Option.some.inj (at_.run?.symm.trans known)
      exact still

/-- The lamps are confirmed, and the confirmation is cancelled during the lookup. -/
def called : List ConfirmEvent :=
  [.check .resume, .check (.move .begin), .cancel, .check .resume,
    .check (.move (.answerPack false (.ok none))), .check .resume]

theorem isLegal_called : lamps.request.2.IsLegal (Spares 0) 0 0 called := by
  refine isLegal_of_take fun n e now cancelled k known => ?_
  subst cancelled
  rcases n with _ | _ | _ | n
  · exact nomatch now
  · exact nomatch now
  · have stands : (lamps.request.2.pursue 0 0 (called.take 2)).confirmations[0]?.map
        (fun k => k.stage.isWinding) = some false := by decide +kernel
    rw [known] at stands
    exact Option.some.inj stands
  · rcases n with _ | _ | _ | n <;> exact nomatch now

/-- The run has been skipped by then. -/
theorem aftermath_of_pursue_called :
    SurfaceMove.orderly false lamps.surface.moves = true ∧
    lamps.request.2.IsLegal (Spares 0) 0 0 called ∧
    let s := lamps.request.2.pursue 0 0 called
    (s.verdict? 0).isSome = true ∧ s.runs.map Run.state = [.skipped] ∧
      (∀ r, s.runs[0]? = some r → r.state ≠ .running) ∧
      ∀ later, (s.pursue 0 0 later).news = s.news := by
  have ended : ((lamps.request.2.pursue 0 0 called).verdict? 0).isSome = true := by
    decide +kernel
  obtain ⟨v, verdict⟩ := Option.isSome_iff_exists.mp ended
  exact ⟨rfl, isLegal_called, ended, by decide +kernel,
    aftermath_of_pursue (b := lamps) rfl called isLegal_called verdict⟩

/-- A surface that starts the run twice. -/
def hasty : Session :=
  { lamps with surface := { moves := [.start, .start] } }

/-- The confirmation fails with the surface, and its run goes on to show its warnings. -/
theorem running_after_hasty :
    let s := hasty.request.2.pursue 0 0 [.check .resume]
    (s.verdict? 0).isSome = true ∧ s.runs.map Run.state = [.running] ∧
      s.news.map UiCall.method = [] ∧
      (s.pursue 0 0 [.check (.move .begin),
        .check (.move (.answerPack false (.ok (some
          { addonId := .number 2, name := "Bulbs", provider := .modrinth })))),
        .check (.move (.answerVersion false (.ok none)))]).news.map UiCall.method =
          [.showWarnings] := by
  decide +kernel

end Session

end AddonPicker
