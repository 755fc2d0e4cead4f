import AddonPicker.Proofs.Dialog.Answer
import AddonPicker.Rehearsal.DialogScene

/-!
# Where a confirmation stands

While a confirmation is under way, its run takes steps, may be aborted, and the confirmation goes
on whenever it does not wait for the run. `Standing` says where the confirmation may be found then,
with its run and with what the user was told by that time. Neither what the run does by itself nor
asking for its cancellation changes this.
-/

namespace AddonPicker

/-- Something that happens while a confirmation is under way. -/
inductive CheckEvent
  /-- The confirmation goes on, unless it waits for a run that is still to end. -/
  | resume
  /-- The cancellation of the run is asked for. -/
  | abort
  | move (m : RunMove)
  /-- A lookup is noted. -/
  | lookup (l : Lookup)

namespace Session

open Act

/-- Whether a confirmation can go on. One that is cancelled does not wait for anything. -/
def isReady (c : Nat) (s : Session) : Bool :=
  match s.confirmations[c]? with
  | none => false
  | some confirmation => confirmation.cancelling ||
      match Rehearsal.awaitedRun? confirmation with
      | some i => (s.runState i).isFinished
      | none => true

/-- Let an event happen to a confirmation and its run, which are given by position. -/
def happen (c i : Nat) (e : CheckEvent) (s : Session) : Session :=
  match e with
  | .resume => if s.isReady c then s.resume c else s
  | .abort => ((Owner.abort i).perform s).2
  | .move m => ((Host.transition i m.apply).perform s).2
  | .lookup l => ((Journaled.noteLookup l).perform s).2

/-- What events come to. -/
def follow (c i : Nat) (events : List CheckEvent) (s : Session) : Session :=
  events.foldl (fun s e => s.happen c i e) s

/-- How a confirmation ended, what the user was told, and the selection that it leaves, as the run
decides it. A selection that cannot be presented and a review in which a move fails are left out. -/
structure Concluded (b : Session) (r : Run DialogHandler) (v : Verdict) (told : List UiCall)
    (after : Selection) : Prop where
  skipped : r.state = .skipped →
    v = .returned false ∧ told = b.ui.shown [.reject] ∧ after = b.selection
  reviewed : r.state ≠ .skipped → ∀ box box',
    (b.presented r).review b.naming b.emptyBox = (.ok (), box) →
    b.nextPlan.moves.foldlM ReviewBox.moved box = .ok box' →
      v = .returned b.nextPlan.approves ∧
      told = b.ui.shown (r.report ++ [.execReview box] ++
        if b.nextPlan.approves then [.accept] else []) ∧
      after = b.nextPlan.concluded box' (b.presented r)

/-- Where the confirmation of a dialog may stand with its run, what the user was told by then, and
what the dialog has become but for the run and the confirmation. -/
inductive Stands (b : Session) (r : Run DialogHandler) : List UiCall → Session → Stage → Prop
  | surface {kept : List (Value × Value)} {wait : SurfaceWait} {later : List SurfaceMove}
      (fit : SurfaceMove.fit r.state later = true) :
      Stands b r (b.ui.shown r.report) (b.engaged kept) (.surface b.runs.length wait later)
  | settling {kept : List (Value × Value)} (started : r.state ≠ .idle) :
      Stands b r (b.ui.shown r.report) (b.engaged kept) (.settling b.runs.length)
  | reviewing {kept : List (Value × Value)} {box : ReviewBox}
      (finished : r.state.isFinished = true) (unskipped : r.state ≠ .skipped)
      (built : (b.presented r).review b.naming b.emptyBox = (.ok (), box)) :
      Stands b r (b.ui.shown r.report ++ b.ui.shown [.execReview box])
        ((b.engaged kept).reviewed (b.presented r)) (.reviewing box b.nextPlan)
  | ended {told : List UiCall} {b' : Session} {v : Verdict}
      (finished : r.state.isFinished = true) (concluded : Concluded b r v told b'.selection)
      (runs : b'.runs = b.runs) (confirmations : b'.confirmations = b.confirmations) :
      Stands b r told b' (.ended v)

variable {b : Session} {r r' : Run DialogHandler} {stage : Stage} {told : List UiCall}

/-- Where a confirmation may stand hangs on what the run shows. -/
theorem Stands.of_view {b' : Session} (stands : Stands b r told b' stage)
    (view : r'.view = r.view) : Stands b r' told b' stage := by
  have state : r'.state = r.state := congrArg RunView.state view
  have dependencies : r'.dependencies = r.dependencies := congrArg RunView.dependencies view
  have report : r'.report = r.report := Run.report_congr view
  have presented : b.presented r' = b.presented r := congrArg b.selection.takenInAll dependencies
  cases stands with
  | surface fit =>
      rw [← report]
      exact .surface (state ▸ fit)
  | settling started =>
      rw [← report]
      exact .settling (state ▸ started)
  | reviewing finished unskipped built =>
      rw [← report, ← presented]
      exact .reviewing (state ▸ finished) (state ▸ unskipped) (presented ▸ built)
  | ended finished concluded runs confirmations =>
      refine .ended (state ▸ finished) ⟨?_, ?_⟩ runs confirmations
      · rw [state]
        exact concluded.skipped
      · rw [state, report, presented]
        exact concluded.reviewed

theorem Stands.runs {b' : Session} (stands : Stands b r told b' stage) : b'.runs = b.runs := by
  cases stands with
  | ended finished concluded runs confirmations => exact runs
  | _ => rfl

theorem Stands.confirmations {b' : Session} (stands : Stands b r told b' stage) :
    b'.confirmations = b.confirmations := by
  cases stands with
  | ended finished concluded runs confirmations => exact confirmations
  | _ => rfl

/-- The run is found with the confirmation. -/
theorem Stands.run?_amid {b' : Session} (stands : Stands b r told b' stage) (j : Journal) :
    (Journaled.setJournal j (b'.amid r stage)).runs[b.runs.length]? = some r := by
  rw [← stands.runs]
  exact run?_setJournal_amid j

/-- A run that comes to its end lets a confirmation stand where it stood. -/
theorem Stands.end {b' : Session} (stands : Stands b r told b' stage)
    (running : r.state = .running) (finished : r'.state.isFinished = true) :
    Stands b r' (told ++ b.ui.shown r'.report) b' stage := by
  have unreported : r.report = [] := by rw [Run.report, running]
  have started : r'.state ≠ .idle := RunState.ne_idle_of_isFinished finished
  cases stands with
  | surface fit =>
      rw [unreported]
      refine .surface ?_
      rw [SurfaceMove.fit, running, if_neg RunState.noConfusion] at fit
      rw [SurfaceMove.fit, if_neg started]
      exact fit
  | settling =>
      rw [unreported]
      exact .settling started
  | reviewing finished => exact absurd running (RunState.ne_running_of_isFinished finished)
  | ended finished => exact absurd running (RunState.ne_running_of_isFinished finished)

/-- What a dialog has become since a confirmation was requested, and what the user was told. -/
inductive Standing (b : Session) : List UiCall → Session → Prop
  | requested : Standing b [] b.request.2
  | under {r : Run DialogHandler} {told : List UiCall} {b' : Session} {stage : Stage}
      (own : r.IsOwn) (stands : Stands b r told b' stage) : Standing b told (b'.amid r stage)

/-- What a step makes of a dialog whatever its journal is: it stands as it may, and the user was
told the news that were added. -/
def Advances (b : Session) (told : List UiCall) (s : Session) (f : Session → Session) : Prop :=
  ∀ j : Journal, ∃ (j' : Journal) (told' : List UiCall) (s' : Session),
    f (Journaled.setJournal j s) = Journaled.setJournal j' s' ∧ j'.news = j.news ++ told' ∧
      Standing b (told ++ told') s'

/-- What an action does, a step makes of a dialog. -/
theorem advances_of_does {α : Type} {a : Act Session α} {result : Except Fault α} {s s' : Session}
    {told' : List UiCall} (done : Does a result told' s s') (standing : Standing b (told ++ told') s') :
    Advances b told s fun s => (a.perform s).2 := by
  intro j
  obtain ⟨j', performed, news⟩ := done j
  exact ⟨j', told', s', congrArg Prod.snd performed, news, standing⟩

/-- No run is there for a confirmation that has not begun. -/
theorem run?_requested (j : Journal) :
    Owner.run? (Journaled.setJournal j b.request.2) b.runs.length = none :=
  List.getElem?_eq_none (Nat.le_refl _)

theorem advances_abort {s : Session} (standing : Standing b told s) :
    Advances b told s (happen b.confirmations.length b.runs.length .abort) := by
  cases standing with
  | requested =>
      have nothing : Does (Owner.abort b.runs.length) (.ok false) [] b.request.2 b.request.2 := by
        apply does_get_bind
        intro j
        rw [run?_requested]
        exact does_pure false j
      exact advances_of_does nothing .requested
  | under own stands =>
      have onward := Run.Onward.abort own
      have view := (Run.stays_abort own.consistent).view
      rw [← stands.runs]
      refine advances_of_does does_abort ?_
      rw [List.append_nil]
      exact .under onward.own (stands.of_view view)

theorem advances_move {s : Session} (standing : Standing b told s) (m : RunMove) :
    Advances b told s (happen b.confirmations.length b.runs.length (.move m)) := by
  cases standing with
  | requested =>
      have nothing : Does (Host.transition b.runs.length m.apply) (.ok ()) [] b.request.2
          b.request.2 := by
        apply does_get_bind
        intro j
        rw [run?_requested]
        exact does_pure () j
      exact advances_of_does nothing .requested
  | @under r told b' stage own stands =>
      obtain ⟨r', own', ⟨view, done⟩ | ⟨running, finished, done⟩⟩ :=
        does_transition b' stage own m
      · rw [← stands.runs]
        refine advances_of_does done ?_
        rw [List.append_nil]
        exact .under own' (stands.of_view view)
      · have sameUi : b'.ui = b.ui := by
          cases stands with
          | ended finished => exact absurd running (RunState.ne_running_of_isFinished finished)
          | _ => rfl
        rw [← stands.runs]
        refine advances_of_does done ?_
        rw [sameUi]
        exact .under own' (stands.end running finished)

/-- Lookups are no news. -/
theorem advances_lookup {s : Session} (standing : Standing b told s) (l : Lookup) :
    Advances b told s (happen b.confirmations.length b.runs.length (.lookup l)) := by
  have noted : Does (Journaled.noteLookup l) (.ok ()) [] s s :=
    does_edit fun _ => (List.append_nil _).symm
  refine advances_of_does noted ?_
  rw [List.append_nil]
  exact standing

end Session

end AddonPicker
