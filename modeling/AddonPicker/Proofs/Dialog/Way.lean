import AddonPicker.Proofs.Dialog.Aside
import AddonPicker.Proofs.Dialog.Resume

/-!
# The way through a check

Until a run has ended and the answer to it is due, a confirmation tells the user nothing and changes
nothing but its run. So it hangs on the run and on the surface alone where it goes on to, however
the surface and the user interface behave: it waits, it breaks off, or it checks what came of the
run. `Way` says which of these it is, and what has become of the run by then.
-/

namespace AddonPicker

namespace Act

variable {σ α β : Type} [Journaled σ] {s s' s'' : σ}

/-- Whatever the journal is, one action from one state comes down to another action from the other
state, with no news in between. -/
def Comes (a a' : Act σ α) (s s' : σ) : Prop :=
  ∀ j : Journal, ∃ j' : Journal,
    a.perform (Journaled.setJournal j s) = a'.perform (Journaled.setJournal j' s') ∧
      j'.news = j.news

theorem comes_refl (a : Act σ α) : Comes a a s s :=
  fun j => ⟨j, rfl, rfl⟩

/-- What an action does without news, it comes down to. -/
theorem Does.comes {a : Act σ α} {result : Except Fault α} (done : Does a result [] s s') :
    Comes a (check result) s s' := by
  intro j
  obtain ⟨j', performed, news⟩ := done j
  exact ⟨j', performed, news.trans (List.append_nil _)⟩

theorem Does.bind_comes {a : Act σ α} {f : α → Act σ β} {x : α} {rest : Act σ β}
    (first : Does a (.ok x) [] s s') (later : Comes (f x) rest s' s'') :
    Comes (a >>= f) rest s s'' := by
  intro j
  obtain ⟨j', performed, news⟩ := first j
  obtain ⟨j'', performed', news'⟩ := later j'
  refine ⟨j'', ?_, ?_⟩
  · rw [perform_bind, performed]
    exact performed'
  · rw [news', news, List.append_nil]

theorem comes_get_bind {f : σ → Act σ α} {rest : Act σ α}
    (later : ∀ j : Journal, ∃ j' : Journal,
      (f (Journaled.setJournal j s)).perform (Journaled.setJournal j s) =
        rest.perform (Journaled.setJournal j' s') ∧ j'.news = j.news) :
    Comes (get >>= f) rest s s' := by
  intro j
  rw [perform_bind]
  exact later j

end Act

/-- How a confirmation goes on. -/
inductive Way
  | stands (stage : Stage)
  | breaks (fault : Fault)
  /-- The run has ended, and the answer to it is due. -/
  | checks

namespace Way

/-- What is left to do of a confirmation whose run is given by position. -/
def act (i : Nat) : Way → Act Session Step
  | .stands stage => pure (.waits stage)
  | .breaks f => throw f
  | .checks => Session.afterCheck i

/-- The stages that a way leads to. What the answer to a check leads to is left open. -/
inductive Leads : Way → Stage → Prop
  | stands (stage : Stage) : Leads (.stands stage) stage
  | breaks (f : Fault) : Leads (.breaks f) (.ended (.ofFault f))
  | checks {stage : Stage} (past : stage.isPast = true) : Leads .checks stage

/-- A run is aborted, and the confirmation waits for its end if it was started. -/
def windUp (stage : Stage) (r : Run DialogHandler) : Way × Run DialogHandler :=
  (if r.state = .idle then .breaks .notStarted else .stands stage, r.abort.2)

end Way

/-- Where moves of a surface lead a confirmation. -/
def SurfaceMove.way (i : Nat) (moves : List SurfaceMove) (r : Run DialogHandler) :
    Way × Run DialogHandler :=
  match course moves r with
  | (.ok (.waits wait later), r) => (.stands (.surface i wait later), r)
  | (.ok (.closed _), r) =>
    if r.state.isFinished then (.checks, r) else Way.windUp (.settling i) r
  | (.error .cancelled, r) => Way.windUp (.abandoning i) r
  | (.error f, r) => (.breaks f, r)

/-- Whether a stage is one of those in which a confirmation has a run that is given by position. -/
def Stage.isChecking (i : Nat) : Stage → Bool
  | .surface j _ _ => j == i
  | .abandoning j => j == i
  | .settling j => j == i
  | _ => false

/-- There is one such run. -/
theorem Stage.eq_of_isChecking {stage : Stage} {i j : Nat} (checking : stage.isChecking i = true)
    (checking' : stage.isChecking j = true) : i = j := by
  cases stage <;> simp_all [isChecking]

/-- In the check of its run, a confirmation is not past it. -/
theorem Stage.isPast_of_isChecking {i : Nat} {stage : Stage}
    (checking : stage.isChecking i = true) : stage.isPast = false := by
  cases stage with
  | reviewing box plan => exact absurd checking Bool.false_ne_true
  | ended v => exact absurd checking Bool.false_ne_true
  | _ => rfl

/-- Winding up waits where it is told to, if it waits. -/
theorem Way.windUp_cases (stage : Stage) (r : Run DialogHandler) :
    (windUp stage r).1 = .breaks .notStarted ∧ r.state = .idle ∨
      (windUp stage r).1 = .stands stage ∧ r.state ≠ .idle := by
  by_cases idle : r.state = .idle
  · exact .inl ⟨if_pos idle, idle⟩
  · exact .inr ⟨if_neg idle, idle⟩

/-- A surface leaves a confirmation in the check of its run, or leads on to the answer after the end
of the run. -/
theorem SurfaceMove.way_cases (i : Nat) (moves : List SurfaceMove) (r : Run DialogHandler) :
    (∃ f, (way i moves r).1 = .breaks f) ∨
      (∃ stage, (way i moves r).1 = .stands stage ∧ stage.isChecking i = true) ∨
      ((way i moves r).1 = .checks ∧ (way i moves r).2.state.isFinished = true) := by
  have winding (stage : Stage) (checking : stage.isChecking i = true) (r : Run DialogHandler) :
      (∃ f, (Way.windUp stage r).1 = .breaks f) ∨
      (∃ stage', (Way.windUp stage r).1 = .stands stage' ∧ stage'.isChecking i = true) ∨
      ((Way.windUp stage r).1 = .checks ∧ (Way.windUp stage r).2.state.isFinished = true) := by
    rcases Way.windUp_cases stage r with ⟨broken, -⟩ | ⟨stands, -⟩
    · exact .inl ⟨_, broken⟩
    · exact .inr (.inl ⟨_, stands, checking⟩)
  rw [way]
  split
  · exact .inr (.inl ⟨_, rfl, beq_self_eq_true i⟩)
  · split
    · rename_i finished
      exact .inr (.inr ⟨rfl, finished⟩)
    · exact winding (.settling i) (beq_self_eq_true i) _
  · exact winding (.abandoning i) (beq_self_eq_true i) _
  · exact .inl ⟨_, rfl⟩

theorem SurfaceMove.isChecking_of_way {i : Nat} {moves : List SurfaceMove}
    {r : Run DialogHandler} {stage : Stage} (stands : (way i moves r).1 = .stands stage) :
    stage.isChecking i = true := by
  rcases way_cases i moves r with ⟨f, broken⟩ | ⟨stage', here, checking⟩ | ⟨checks, -⟩
  · exact nomatch broken.symm.trans stands
  · obtain rfl := Way.stands.inj (here.symm.trans stands)
    exact checking
  · exact nomatch checks.symm.trans stands

/-- Where a confirmation goes on to from the check of a run. -/
def Confirmation.way (i : Nat) (k : Confirmation) (r : Run DialogHandler) :
    Way × Run DialogHandler :=
  match k.stage with
  | .surface _ _ later =>
    if k.cancelling then Way.windUp (.abandoning i) r else SurfaceMove.way i later r
  | .settling _ => if k.cancelling then (.breaks .cancelled, r) else (.checks, r)
  | _ => (.breaks .cancelled, r)

/-- A confirmation that waits on its way waits in the check of its run. -/
theorem Confirmation.isChecking_of_way {i : Nat} {k : Confirmation} {r : Run DialogHandler}
    {stage : Stage} (stands : (k.way i r).1 = .stands stage) : stage.isChecking i = true := by
  rw [way] at stands
  split at stands
  · split at stands
    · rcases Way.windUp_cases (.abandoning i) r with ⟨broken, -⟩ | ⟨here, -⟩
      · exact nomatch broken.symm.trans stands
      · obtain rfl := Way.stands.inj (here.symm.trans stands)
        exact beq_self_eq_true i
    · exact SurfaceMove.isChecking_of_way stands
  · split at stands <;> exact nomatch stands
  · exact nomatch stands

section

variable {P : Run DialogHandler → Prop}

/-- What holds of a run from its start on, and goes on to hold when it is aborted, holds whatever a
surface makes of it. -/
theorem SurfaceMove.kept_of_course
    (start : ∀ r, P r → r.state = .idle → P { r with state := .running, phase := .scheduled })
    (abort : ∀ r, P r → P r.abort.2) (moves : List SurfaceMove) {r : Run DialogHandler}
    (holds : P r) : P (course moves r).2 := by
  induction moves generalizing r with
  | nil => exact holds
  | cons m later ih =>
      cases m with
      | start =>
          rw [course]
          split
          · rename_i idle
            exact ih (start r holds idle)
          · exact holds
      | startIfIdle =>
          rw [course]
          split
          · rename_i idle
            exact ih (start r holds idle)
          · exact ih holds
      | abort shown => exact ih (abort r holds)
      | await =>
          rw [course]
          split <;> exact holds
      | _ => exact holds

theorem SurfaceMove.kept_of_way
    (start : ∀ r, P r → r.state = .idle → P { r with state := .running, phase := .scheduled })
    (abort : ∀ r, P r → P r.abort.2) (i : Nat) (moves : List SurfaceMove)
    {r : Run DialogHandler} (holds : P r) : P (way i moves r).2 := by
  have kept := kept_of_course start abort moves holds
  rw [way]
  generalize course moves r = came at kept
  obtain ⟨result, r'⟩ := came
  dsimp only at kept ⊢
  split
  · rename_i same
    obtain ⟨-, rfl⟩ := Prod.mk.inj same
    exact kept
  · rename_i same
    obtain ⟨-, rfl⟩ := Prod.mk.inj same
    split
    · exact kept
    · exact abort _ kept
  · rename_i same
    obtain ⟨-, rfl⟩ := Prod.mk.inj same
    exact abort _ kept
  · rename_i same
    obtain ⟨-, rfl⟩ := Prod.mk.inj same
    exact kept

theorem Confirmation.kept_of_way
    (start : ∀ r, P r → r.state = .idle → P { r with state := .running, phase := .scheduled })
    (abort : ∀ r, P r → P r.abort.2) (i : Nat) (k : Confirmation) {r : Run DialogHandler}
    (holds : P r) : P (k.way i r).2 := by
  rw [way]
  split
  · split
    · exact abort r holds
    · exact SurfaceMove.kept_of_way start abort i _ holds
  · split <;> exact holds
  · exact holds

end

namespace Session

open Act

/-- Where a confirmation goes on to that begins with a run. -/
def beginning (run : Run DialogHandler) (b : Session) : Way × Run DialogHandler :=
  match b.surface.creation with
  | some f => (.breaks f, handled run)
  | none => SurfaceMove.way b.runs.length b.surface.moves (handled run)

variable {b : Session} {r : Run DialogHandler} {k : Confirmation}

theorem isChecking_of_beginning {run : Run DialogHandler} {stage : Stage}
    (stands : (b.beginning run).1 = .stands stage) : stage.isChecking b.runs.length = true := by
  rw [beginning] at stands
  split at stands
  · exact nomatch stands
  · exact SurfaceMove.isChecking_of_way stands

/-- What holds of a run that was just made, from its start on, and when it is aborted, holds of the
run of a confirmation that has begun. -/
theorem kept_of_beginning {P : Run DialogHandler → Prop}
    (start : ∀ r, P r → r.state = .idle → P { r with state := .running, phase := .scheduled })
    (abort : ∀ r, P r → P r.abort.2) {run : Run DialogHandler} (holds : P (handled run)) :
    P (b.beginning run).2 := by
  rw [beginning]
  split
  · exact holds
  · exact SurfaceMove.kept_of_way start abort _ _ holds

/-- Aborting the run and waiting for its end. -/
theorem comes_windUp (b : Session) (k : Confirmation) (stage : Stage) (r : Run DialogHandler) :
    Comes (do
      let _ ← Owner.abort b.runs.length
      Owner.requireStarted b.runs.length
      return Step.waits stage) ((Way.windUp stage r).1.act b.runs.length) (b.amid r k)
      (b.amid (Way.windUp stage r).2 k) := by
  have state : r.abort.2.state = r.state := (Run.abort_snd_eq r).1
  refine (does_abort (r := r)).bind_comes (f := fun _ => _) ?_
  rw [Way.windUp]
  dsimp only
  split
  · rename_i idle
    exact (does_requireStarted_of_idle (state.trans idle)).bind_error.comes
  · rename_i started
    exact (does_requireStarted (state ▸ started)).bind_comes (f := fun _ => _) (comes_refl _)

/-- Moves of a surface lead a confirmation on. -/
theorem comes_inSurface (b : Session) (k : Confirmation) (moves : List SurfaceMove)
    (r : Run DialogHandler) :
    Comes (inSurface b.runs.length moves)
      ((SurfaceMove.way b.runs.length moves r).1.act b.runs.length) (b.amid r k)
      (b.amid (SurfaceMove.way b.runs.length moves r).2 k) := by
  have moved := (does_surfaceMoves b k moves r).outcome
  rw [SurfaceMove.way]
  generalize SurfaceMove.course moves r = course at moved
  obtain ⟨result, r'⟩ := course
  refine moved.bind_comes (f := fun _ => _) ?_
  cases result with
  | error f =>
      cases f with
      | cancelled => exact comes_windUp b k (.abandoning b.runs.length) r'
      | _ => exact comes_refl _
  | ok step =>
      cases step with
      | waits wait later => exact comes_refl _
      | closed result =>
          have after : Comes (afterSurface b.runs.length)
              ((if r'.state.isFinished then (Way.checks, r')
                else Way.windUp (.settling b.runs.length) r').1.act b.runs.length) (b.amid r' k)
              (b.amid (if r'.state.isFinished then (Way.checks, r')
                else Way.windUp (.settling b.runs.length) r').2 k) := by
            apply comes_get_bind
            intro j
            rw [runState_amid]
            split
            · exact comes_refl _ j
            · exact comes_windUp b k (.settling b.runs.length) r' j
          apply comes_get_bind
          intro j
          have same : (Journaled.setJournal j (b.amid r' k)).surface.noted = b.surface.noted := rfl
          rw [same]
          cases b.surface.noted with
          | false => exact after j
          | true => exact (does_note_quiet rfl).bind_comes (f := fun _ => _) after j

/-- A surface that comes up leads a confirmation on, one that fails to come up breaks it off. -/
theorem comes_comeUp (b : Session) (k : Confirmation) (run : Run DialogHandler) :
    Comes (comeUp b.runs.length) ((b.beginning run).1.act b.runs.length) (b.amid (handled run) k)
      (b.amid (b.beginning run).2 k) := by
  apply comes_get_bind
  intro j
  have same : (Journaled.setJournal j (b.amid (handled run) k)).surface = b.surface := rfl
  dsimp only
  rw [same, beginning]
  cases b.surface.creation with
  | some f => exact (does_check (.error f)).bind_error.comes j
  | none =>
      refine does_failOn_none.bind_comes (f := fun _ => _) ?_ j
      have surfaced := comes_inSurface b k b.surface.moves (handled run)
      cases b.surface.noted with
      | false => exact surfaced
      | true => exact (does_note_quiet rfl).bind_comes (f := fun _ => _) surfaced

/-- A confirmation that begins takes on a run and brings up the surface. -/
theorem comes_beginConfirm {run : Run DialogHandler} (checks : b.newRun? = some run) :
    Comes beginConfirm ((b.beginning run).1.act b.runs.length)
      { b.request.2 with confirming := true }
      ((b.engaged b.settings).amid (b.beginning run).2 Stage.scheduled) := by
  have surfaced := comes_comeUp (b.engaged b.settings) Stage.scheduled run
  have adopted := does_adopt (b := b) (handled run)
  apply comes_get_bind
  intro j
  rw [newRun?_requested, checks]
  exact adopted.bind_comes (f := comeUp) surfaced j

/-- A confirmation in a check goes its way. -/
theorem comes_continueConfirm (checking : k.stage.isChecking b.runs.length = true)
    (r : Run DialogHandler) :
    Comes (continueConfirm k.cancelling k.stage) ((k.way b.runs.length r).1.act b.runs.length)
      (b.amid r k) (b.amid (k.way b.runs.length r).2 k) := by
  obtain ⟨stage, cancelling⟩ := k
  cases stage with
  | surface i wait later =>
      obtain rfl : i = b.runs.length := by simpa [Stage.isChecking] using checking
      cases cancelling with
      | true => exact comes_windUp b _ _ r
      | false => exact comes_inSurface b _ later r
  | settling i =>
      obtain rfl : i = b.runs.length := by simpa [Stage.isChecking] using checking
      cases cancelling <;> exact comes_refl _
  | abandoning i => exact comes_refl _
  | _ => exact absurd checking Bool.false_ne_true

end Session

end AddonPicker
