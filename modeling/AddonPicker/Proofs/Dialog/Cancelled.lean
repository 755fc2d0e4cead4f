import AddonPicker.Proofs.Dialog.Guard
import AddonPicker.Proofs.Dialog.Opening
import AddonPicker.Proofs.Dialog.Standard
import AddonPicker.Proofs.Dialog.Steady
import AddonPicker.Proofs.Run.Stopping
import AddonPicker.Proofs.Selection.Dropped

/-!
# Confirmations that are cancelled in their check

On the standard surface a confirmation waits for the end of its run and for nothing else. When it is
cancelled there, it aborts the run, waits for the end of it and ends as cancelled, even if the run
has come to a good end of its own by then. Whatever else happens to the dialog in the meantime, it
is left as it was when the confirmation began as long as nobody selects or deselects anything, and
nothing has been asked of the user.
-/

namespace AddonPicker

variable {r : Run DialogHandler} {k : Confirmation} {i : Nat} {heeded : Prop} {called : Bool}

/-- Whether an event leaves alone what is selected, and does not cancel a confirmation, which is
given by position. -/
def DialogEvent.IsApart (c : Nat) : DialogEvent → Prop
  | .add _ _ _ => False
  | .remove _ _ => False
  | .pick _ _ _ => False
  | .confirm c' _ .cancel => c' ≠ c
  | _ => True

instance (c : Nat) : DecidablePred (DialogEvent.IsApart c)
  | .add _ _ _ | .remove _ _ | .pick _ _ _ => inferInstanceAs (Decidable False)
  | .confirm c' _ .cancel => inferInstanceAs (Decidable (c' ≠ c))
  | .selectPage _ | .pageChanged _ _ | .search _ _ | .request | .confirm _ _ (.check _) =>
    inferInstanceAs (Decidable True)

namespace Confirmation

/-- How a confirmation stands to its run, which is given by position, if it waits for nothing but
the end of the run. Once it is called off, it has its run aborted and ends as cancelled. If
cancellations are heeded, the run is stopping then. -/
inductive Awaits (heeded : Prop) (i : Nat) (r : Run DialogHandler) : Bool → Confirmation → Prop
  | waits (called : Bool) (started : r.state ≠ .idle) (asks : heeded → r.Asks) :
      Awaits heeded i r called
        { stage := .surface i .runEnd [.closeByOutcome], cancelling := called }
  | abandoning (stopping : heeded → r.Stopping) : Awaits heeded i r true (Stage.abandoning i)
  | ended (finished : r.state.isFinished = true) : Awaits heeded i r true (Stage.ended .cancelled)

theorem Awaits.imp {heeded' : Prop} (imp : heeded' → heeded)
    (awaits : k.Awaits heeded i r called) : k.Awaits heeded' i r called := by
  cases awaits with
  | waits called started asks => exact .waits called started fun heeds => asks (imp heeds)
  | abandoning stopping => exact .abandoning fun heeds => stopping (imp heeds)
  | ended finished => exact .ended finished

theorem Awaits.abort (awaits : k.Awaits heeded i r called) :
    k.Awaits heeded i r.abort.2 called := by
  have state := r.abort_snd_eq.1
  cases awaits with
  | waits called started asks =>
      exact .waits called (state ▸ started) fun heeds => (asks heeds).abort
  | abandoning stopping => exact .abandoning fun heeds => (stopping heeds).abort
  | ended finished => exact .ended (state ▸ finished)

theorem Awaits.move (awaits : k.Awaits heeded i r called) (own : r.IsOwn) {m : RunMove}
    (befits : heeded → m.Befits r) : k.Awaits heeded i (m.apply r).1.close called := by
  have state := own.state_move m
  cases awaits with
  | waits called started asks =>
      refine .waits called ?_ fun heeds => ((asks heeds).apply (befits heeds)).close
      rcases state with same | ⟨-, finished⟩
      · exact same ▸ started
      · exact RunState.ne_idle_of_isFinished finished
  | abandoning stopping =>
      exact .abandoning fun heeds => ((stopping heeds).apply (befits heeds)).close
  | ended finished =>
      refine .ended ?_
      rcases state with same | ⟨-, finished⟩
      · exact same ▸ finished
      · exact finished

end Confirmation

namespace Session

open Act

variable {b s t : Session} {c : Nat}

/-- The calls that belong to the answer to a check, as far as they were made. -/
def answers (s : Session) : List Event :=
  s.selection.journal.events.filter Event.isAnswer

/-- A dialog that holds what another one held, in which nothing has been reviewed, answered or kept
since. -/
structure Unchanged (b s : Session) : Prop where
  selection : b.selection.SameAs s.selection
  settings : s.settings = b.settings
  reviews : s.reviews = b.reviews
  answers : s.answers = b.answers

theorem Unchanged.of_view (unchanged : Unchanged b s) (selection : t.selection = s.selection)
    (settings : t.settings = s.settings) (reviews : t.reviews = s.reviews) : Unchanged b t where
  selection := selection ▸ unchanged.selection
  settings := settings.trans unchanged.settings
  reviews := reviews.trans unchanged.reviews
  answers := by
    rw [Session.answers, selection]
    exact unchanged.answers

/-- What is written into the journal changes nothing, unless it is such a call. -/
theorem Unchanged.write (unchanged : Unchanged b s) {j : Journal}
    (events : j.events.filter Event.isAnswer = s.answers) :
    Unchanged b (Journaled.setJournal j s) :=
  ⟨unchanged.selection.trans ⟨rfl, rfl, rfl⟩, unchanged.settings, unchanged.reviews,
    events.trans unchanged.answers⟩

theorem steady_unchanged (b : Session) : Steady (Unchanged b) where
  say level message := keeps_modify fun s unchanged => unchanged.write
    (congrArg (List.filter Event.isAnswer) (s.selection.journal.events_write level message))
  note e _ other := keeps_modify fun s unchanged => unchanged.write (by
    show List.filter _ (_ ++ [e]) = _
    rw [List.filter_append, List.filter_cons_of_neg (by rw [other]; exact Bool.false_ne_true)]
    exact List.append_nil _)
  lookup _ := keeps_modify fun _ unchanged => unchanged.write rfl
  runs _ _ unchanged := unchanged.of_view rfl rfl rfl
  confirmations _ _ unchanged := unchanged.of_view rfl rfl rfl
  confirming _ _ unchanged := unchanged.of_view rfl rfl rfl

theorem browsed_unchanged (b : Session) : Browsed (Unchanged b) where
  say := (steady_unchanged b).say
  search page term := keeps_modify fun s unchanged => by
    have marks := Selection.map_modify_pages Page.marked
      (f := fun p => { p with searchTerm := term }) (fun _ => rfl) page s.selection.pages
    exact ⟨unchanged.selection.trans ⟨rfl, rfl, marks⟩, unchanged.settings, unchanged.reviews,
      unchanged.answers⟩
  shown _ _ unchanged := unchanged.of_view rfl rfl rfl
  container _ _ unchanged := unchanged.of_view rfl rfl rfl

/-- A confirmation is in the check of a run, both of which are given by position. -/
def IsChecking (c i : Nat) (s : Session) : Prop :=
  ∃ k, s.confirmations[c]? = some k ∧ k.stage.isChecking i = true

instance : Decidable (s.IsChecking c i) :=
  decidable_of_iff (s.confirmations[c]?.any (·.stage.isChecking i) = true) (by
    rw [Option.any_eq_true]
    rfl)

theorem IsChecking.stage (checks : s.IsChecking c i) (known : s.confirmations[c]? = some k) :
    k.stage.isChecking i = true := by
  obtain ⟨k', known', checking⟩ := checks
  obtain rfl : k' = k := Option.some.inj (known'.symm.trans known)
  exact checking

theorem IsChecking.not_isPast (checks : s.IsChecking c i) (known : s.confirmations[c]? = some k)
    (past : k.stage.isPast = true) : False :=
  Bool.false_ne_true ((Stage.isPast_of_isChecking (checks.stage known)).symm.trans past)

/-- An event that happens while a confirmation is in the check of a run, and neither touches what is
selected nor cancels the confirmation. -/
def Meanwhile (c i : Nat) (s : Session) (e : DialogEvent) : Prop :=
  s.IsChecking c i ∧ e.IsApart c

instance : DecidablePred (s.Meanwhile c i) := fun _ => inferInstanceAs (Decidable (_ ∧ _))

/-- A run, given by position, takes only steps that it may take if no catalogue intercepts a
cancellation. -/
def Heeds (i : Nat) (s : Session) : DialogEvent → Prop
  | .confirm _ j (.check (.move m)) => j = i → ∀ r ∈ s.runs[j]?, m.Befits r
  | _ => True

instance : DecidablePred (s.Heeds i)
  | .confirm _ j (.check (.move m)) =>
    inferInstanceAs (Decidable (j = i → ∀ r ∈ s.runs[j]?, m.Befits r))
  | .add _ _ _ | .remove _ _ | .pick _ _ _ | .selectPage _ | .pageChanged _ _ | .search _ _
  | .request | .confirm _ _ .cancel | .confirm _ _ (.check .resume)
  | .confirm _ _ (.check .abort) | .confirm _ _ (.check (.lookup _)) =>
    inferInstanceAs (Decidable True)

/-- A dialog in which a confirmation waits for its run, and in which nothing has changed since the
confirmation began. -/
structure Waiting (heeded : Prop) (called : Bool) (b : Session) (c i : Nat) (r : Run DialogHandler)
    (k : Confirmation) (s : Session) : Prop where
  guarded : s.IsGuarded
  unchanged : Unchanged b s
  confirmation : s.confirmations[c]? = some k
  run : s.runs[i]? = some r
  own : r.IsOwn
  awaits : k.Awaits heeded i r called

/-- A confirmation that begins on the standard surface with a check waits for its run. -/
theorem waiting_resume (guarded : b.IsGuarded) (standard : b.surface = .standard)
    (waits : b.confirmations[c]? = some {}) (checks : (b.resume c).IsChecking c b.runs.length)
    (heeded : Prop) : ∃ r k, Waiting heeded false b c b.runs.length r k (b.resume c) := by
  have inside : c < b.confirmations.length := (List.getElem?_eq_some_iff.mp waits).1
  have guarded := guarded.resume c
  -- If it is turned down or has no check to begin with, it is past its check at once.
  cases busy : b.confirming with
  | true =>
      obtain ⟨j, turned, -⟩ := turnDown_eq c b
      rw [resume_of_busy waits busy, turned] at checks
      exact (checks.not_isPast (List.getElem?_set_self inside) rfl).elim
  | false =>
      have begun := resume_of_scheduled waits busy
      cases made : b.newRun? with
      | none =>
          have opens := perform_beginConfirm_of_none (s := { b with confirming := true }) made
          have same := leaves_openReview isAside_confirmations (fun _ _ => rfl)
            { b with confirming := true }
          rw [begun, opens] at checks
          refine (checks.not_isPast (confirmation?_settle _ ?_)
            (isPast_after (yields_openReview _))).elim
          rw [same]
          exact inside
      | some run =>
          rw [perform_beginConfirm (s := { b with confirming := true }) standard made] at begun
          obtain ⟨own, idle⟩ := isOwn_handled made
          rw [begun] at guarded ⊢
          exact ⟨_, _, {
            guarded
            unchanged := ⟨⟨rfl, rfl, rfl⟩, rfl, rfl, rfl⟩
            confirmation := List.getElem?_set_self inside
            run := List.getElem?_concat_length
            own := own.started idle
            awaits := .waits false RunState.noConfusion fun _ => Run.asks_of_phase rfl }⟩

/-- The cancellation of a confirmation that waits for its run. -/
theorem Waiting.cancel (waiting : Waiting heeded false b c i r k s) :
    (s.cancel c).1 = true ∧
      Waiting heeded true b c i r { k with cancelling := true } (s.cancel c).2 := by
  obtain ⟨guarded, unchanged, known, run, own, awaits⟩ := waiting
  have guarded := guarded.cancel c
  have unchanged := (steady_unchanged b).cancel c unchanged
  cases awaits with
  | waits _ started asks =>
      rw [Session.cancel, known] at guarded unchanged ⊢
      exact ⟨rfl, guarded, unchanged,
        List.getElem?_set_self (List.getElem?_eq_some_iff.mp known).1, run, own,
        .waits true started asks⟩

/-- What changes nothing but runs, and those only in ways that keep a confirmation waiting. -/
theorem Waiting.modify (waiting : Waiting heeded called b c i r k s) {j : Nat}
    {f : Run DialogHandler → Run DialogHandler} (guard : t.guard = s.guard)
    (unchanged : Unchanged b t) (runs : t.runs = s.runs.modify j f)
    (next : j = i → (f r).IsOwn ∧ k.Awaits heeded i (f r) called) :
    ∃ r', Waiting heeded called b c i r' k t := by
  obtain ⟨guarded, -, known, run, own, awaits⟩ := waiting
  have same : t.confirmations = s.confirmations := congrArg Prod.fst guard
  have changed : t.runs[i]? = some (if j = i then f r else r) := by
    rw [runs, List.getElem?_modify, run]
    rfl
  split at changed
  · rename_i here
    exact ⟨_, guarded.of_guard guard, unchanged, same ▸ known, changed, (next here).1,
      (next here).2⟩
  · exact ⟨_, guarded.of_guard guard, unchanged, same ▸ known, changed, own, awaits⟩

/-- A confirmation that waits for its run stands where it stands until it goes on past its check. -/
theorem Waiting.happen_resume (waiting : Waiting heeded false b c i r k s) {j : Nat}
    (checks : (s.happen c j .resume).IsChecking c i) : s.happen c j .resume = s := by
  obtain ⟨-, -, known, run, -, awaits⟩ := waiting
  cases awaits with
  | waits _ started asks =>
      rw [Session.happen, isReady_of_awaits known run rfl] at checks ⊢
      cases finished : r.state.isFinished with
      | false => rfl
      | true =>
          -- The surface goes away with the end of the run, and the answer leaves the check behind.
          have ended : (s.runState i).isFinished = true := by
            rw [runState, run]
            exact finished
          obtain ⟨j, closes⟩ := perform_inSurface_of_isFinished ended
          have resumed : s.resume c = settle c
              ((afterCheck i).perform (Journaled.setJournal j s)).1
              ((afterCheck i).perform (Journaled.setJournal j s)).2 := by
            rw [← closes]
            exact resume_of_isChecking known (beq_self_eq_true i)
          have same := leaves_afterCheck isAside_confirmations (fun _ _ => rfl) i
            (Journaled.setJournal j s)
          rw [finished, Bool.false_or, if_pos rfl, resumed] at checks
          refine (checks.not_isPast (confirmation?_settle _ ?_)
            (isPast_after (yields_afterCheck i _))).elim
          rw [same]
          exact (List.getElem?_eq_some_iff.mp known).1

/-- A confirmation that was called off goes on to its end. -/
theorem Waiting.quits (waiting : Waiting heeded true b c i r k s) (j : Nat) :
    ∃ r' k', Waiting heeded true b c i r' k' (s.happen c j .resume) ∧
      (k' = Stage.abandoning i ∨ k' = Stage.ended .cancelled) := by
  obtain ⟨guarded, unchanged, known, run, own, awaits⟩ := waiting
  have inside : c < s.confirmations.length := (List.getElem?_eq_some_iff.mp known).1
  have steady := steady_unchanged b
  have guarded' := guarded.undergo c j (.check .resume)
  rw [Session.undergo] at guarded'
  cases awaits with
  | waits _ started asks =>
      have resumed : s.happen c j .resume =
          setStage c (.abandoning i) ((Owner.abort i).perform s).2 := by
        have performed := resume_of_isChecking known (i := i) (beq_self_eq_true i)
        have abandons : (continueConfirm true (.surface i .runEnd [.closeByOutcome])).perform s =
            _ := perform_abandon run started
        rw [abandons] at performed
        rw [Session.happen, isReady_of_awaits known run rfl, Bool.true_or, if_pos rfl, performed]
        rfl
      have same : ((Owner.abort i).perform s).2.confirmations = s.confirmations :=
        (isAside_confirmations.tended (fun _ _ => rfl) _).abort i s rfl
      rw [resumed] at guarded' ⊢
      refine ⟨_, _, ⟨guarded', ?_, List.getElem?_set_self (same ▸ inside),
        Owner.run?_abort (s := s) run, own.abort, .abandoning fun heeds => ?_⟩, .inl rfl⟩
      · exact steady.setStage c _ (steady.tended.abort i s unchanged)
      · exact (asks heeds).stopping (own.consistent.phase_ne_idle started)
  | abandoning stopping =>
      rw [Session.happen, isReady_of_awaits known run rfl, Bool.false_or] at guarded' ⊢
      cases finished : r.state.isFinished with
      | false =>
          exact ⟨r, _, ⟨guarded, unchanged, known, run, own, .abandoning stopping⟩, .inl rfl⟩
      | true =>
          rw [finished, if_pos rfl, resume_of_abandoning known] at guarded'
          rw [if_pos rfl, resume_of_abandoning known]
          exact ⟨r, _, ⟨guarded', steady.settle c (.error .cancelled) unchanged,
            List.getElem?_set_self inside, run, own, .ended finished⟩, .inr rfl⟩
  | ended finished =>
      rw [Session.happen, resume_of_ended known, ite_self]
      exact ⟨r, _, ⟨guarded, unchanged, known, run, own, .ended finished⟩, .inr rfl⟩

/-- Switching pages keeps a confirmation waiting. -/
theorem Waiting.browse (waiting : Waiting heeded called b c i r k s) {α : Type} {a : Act Session α}
    (browses : ∀ {J : Session → Prop}, Browsed J → Keeps J a) :
    Waiting heeded called b c i r k (a.perform s).2 := by
  have aside : IsAside fun t : Session => (t.guard, t.runs) := ⟨fun _ _ => rfl, fun _ _ => rfl⟩
  have kept := (aside.browsed (fun _ _ => rfl) (fun _ _ => rfl) (s.guard, s.runs)).and
    (browsed_unchanged b)
  obtain ⟨same, unchanged⟩ := browses kept s ⟨rfl, waiting.unchanged⟩
  obtain ⟨guard, runs⟩ := Prod.mk.inj same
  have confirmations : (a.perform s).2.confirmations = s.confirmations := congrArg Prod.fst guard
  exact ⟨waiting.guarded.of_guard guard, unchanged, confirmations ▸ waiting.confirmation,
    runs ▸ waiting.run, waiting.own, waiting.awaits⟩

/-- So does the cancellation of another confirmation, -/
theorem Waiting.cancel_other (waiting : Waiting heeded called b c i r k s) {c' : Nat}
    (other : c' ≠ c) : Waiting heeded called b c i r k (s.cancel c').2 := by
  have same : (s.cancel c').2.confirmations[c]? = s.confirmations[c]? ∧
      (s.cancel c').2.runs = s.runs := by
    unfold Session.cancel
    split
    · exact ⟨rfl, rfl⟩
    · exact ⟨rfl, rfl⟩
    · exact ⟨List.getElem?_set_ne other, rfl⟩
  exact ⟨waiting.guarded.cancel c', (steady_unchanged b).cancel c' waiting.unchanged,
    same.1.trans waiting.confirmation, same.2 ▸ waiting.run, waiting.own, waiting.awaits⟩

/-- and so does another confirmation that goes on, for it is turned down. -/
theorem Waiting.resume_other (waiting : Waiting heeded called b c i r k s)
    (under : k.stage.isUnderWay = true) {c' : Nat} (other : c' ≠ c) :
    Waiting heeded called b c i r k (s.resume c') := by
  have guarded := waiting.guarded.resume c'
  rcases waiting.guarded.resume_other waiting.confirmation under other with
    same | ⟨j, v, turned, events⟩
  · rw [same]
    exact waiting
  · rw [turned] at guarded ⊢
    have unchanged : Unchanged b (Journaled.setJournal j s) :=
      waiting.unchanged.write (congrArg (List.filter Event.isAnswer) events)
    exact ⟨guarded, (steady_unchanged b).confirmations _ _ unchanged,
      (List.getElem?_set_ne other).trans waiting.confirmation, waiting.run, waiting.own,
      waiting.awaits⟩

/-- Whatever happens meanwhile, the confirmation goes on to wait for its run. -/
theorem Waiting.react (waiting : Waiting heeded called b c i r k s) {e : DialogEvent}
    (meanwhile : s.Meanwhile c i e) (heeds : heeded → s.Heeds i e)
    (checks : called = false → (s.react e).IsChecking c i) :
    ∃ r' k', Waiting heeded called b c i r' k' (s.react e) := by
  have steady := steady_unchanged b
  have under := Stage.isUnderWay_of_isChecking (meanwhile.1.stage waiting.confirmation)
  cases e with
  | add pack version indexed => exact meanwhile.2.elim
  | remove pack version => exact meanwhile.2.elim
  | pick page pack version => exact meanwhile.2.elim
  | selectPage id => exact ⟨r, k, waiting.browse fun browsed => browsed.selectPage id⟩
  | pageChanged previous selected =>
      exact ⟨r, k, waiting.browse fun browsed => browsed.pageChanged previous selected⟩
  | search page term => exact ⟨r, k, waiting.browse fun browsed => browsed.search page term⟩
  | request =>
      have inside := (List.getElem?_eq_some_iff.mp waiting.confirmation).1
      exact ⟨r, k, waiting.guarded.request, steady.confirmations s _ waiting.unchanged,
        (List.getElem?_append_left inside).trans waiting.confirmation, waiting.run, waiting.own,
        waiting.awaits⟩
  | confirm c' j e =>
      cases e with
      | cancel => exact ⟨r, k, waiting.cancel_other meanwhile.2⟩
      | check e =>
          cases e with
          | abort =>
              obtain ⟨r', next⟩ := waiting.modify (t := ((Owner.abort j).perform s).2)
                ((isOutside_guard.tended _).abort j s rfl)
                (steady.tended.abort j s waiting.unchanged) (Owner.runs_abort j s)
                fun _ => ⟨waiting.own.abort, waiting.awaits.abort⟩
              exact ⟨r', k, next⟩
          | move m =>
              obtain ⟨r', next⟩ := waiting.modify (t := ((Host.transition j m.apply).perform s).2)
                ((isOutside_guard.tended s.guard).transition rfl (fun _ _ => rfl)
                  fun _ holds => holds)
                (steady.tended.transition waiting.unchanged
                  (fun _ _ => steady.runs s _ waiting.unchanged)
                  fun t unchanged => steady.runs t _ unchanged)
                (runs_transition j m.apply s)
                fun same => ⟨waiting.own.move m, waiting.awaits.move waiting.own fun heeded =>
                  heeds heeded same r (same ▸ waiting.run)⟩
              exact ⟨r', k, next⟩
          | lookup l =>
              exact ⟨r, k, waiting.guarded.of_guard rfl, steady.lookup l s waiting.unchanged,
                waiting.confirmation, waiting.run, waiting.own, waiting.awaits⟩
          | resume =>
              by_cases own : c' = c
              · subst own
                cases called with
                | false =>
                    have stays : s.react (.confirm c' j (.check .resume)) = s :=
                      waiting.happen_resume (j := j) (checks rfl)
                    rw [stays]
                    exact ⟨r, k, waiting⟩
                | true =>
                    obtain ⟨r', k', next, -⟩ := waiting.quits j
                    exact ⟨r', k', next⟩
              · show ∃ r' k', Waiting heeded called b c i r' k'
                  (if s.isReady c' then s.resume c' else s)
                split
                · exact ⟨r, k, waiting.resume_other under own⟩
                · exact ⟨r, k, waiting⟩

theorem isChecking_of_admits {events : List DialogEvent}
    (meanwhile : s.Admits (Meanwhile c i) events) (last : (s.through events).IsChecking c i) :
    s.IsChecking c i := by
  cases events with
  | nil => exact last
  | cons e later => exact meanwhile.1.1

theorem Waiting.through (waiting : Waiting heeded called b c i r k s) {events : List DialogEvent}
    (meanwhile : s.Admits (Meanwhile c i) events) (heeds : heeded → s.Admits (Heeds i) events)
    (checks : called = false → (s.through events).IsChecking c i) :
    ∃ r' k', Waiting heeded called b c i r' k' (s.through events) := by
  induction events generalizing r k s with
  | nil => exact ⟨r, k, waiting⟩
  | cons e later ih =>
      obtain ⟨r', k', next⟩ := waiting.react meanwhile.1 (fun heeded => (heeds heeded).1)
        fun uncalled => isChecking_of_admits meanwhile.2 (checks uncalled)
      exact ih next meanwhile.2 (fun heeded => (heeds heeded).2) checks

/-- The steps of a run show in that run, and leave confirmations alone. -/
theorem follow_moves (known : s.confirmations[c]? = some k) (run : s.runs[i]? = some r)
    (moves : List RunMove) :
    (s.follow c i (moves.map .move)).confirmations[c]? = some k ∧
      (s.follow c i (moves.map .move)).runs[i]? = some (r.taking moves) := by
  induction moves generalizing r s with
  | nil => exact ⟨known, run⟩
  | cons m later ih =>
      have same : ((Host.transition i m.apply).perform s).2.confirmations = s.confirmations :=
        (isAside_confirmations.tended (fun _ _ => rfl) _).transition rfl (fun _ _ => rfl)
          fun _ holds => holds
      have moved : ((Host.transition i m.apply).perform s).2.runs[i]? =
          some (m.apply r).1.close := by
        rw [runs_transition, List.getElem?_modify_eq, run]
        rfl
      exact ih (same ▸ known) moved

end Session

/-- One turn of everything that a confirmation may wait for which was cancelled. -/
def CheckEvent.round (pack : Except Fault (Option Pack)) (version : Except Fault (Option Held)) :
    List CheckEvent :=
  [.resume] ++ (RunMove.round pack version).map .move ++ [.resume]

namespace Session

variable {b s : Session} {c : Nat}

theorem follow_append (c i : Nat) (before later : List CheckEvent) (s : Session) :
    s.follow c i (before ++ later) = (s.follow c i before).follow c i later :=
  List.foldl_append

theorem verdict?_of_known (known : s.confirmations[c]? = some k) :
    s.verdict? c = k.stage.verdict? := by
  rw [Session.verdict?, known]
  rfl

theorem verdict?_setStage (inside : c < s.confirmations.length) (v : Verdict) :
    (s.setStage c (.ended v)).verdict? c = some v :=
  verdict?_of_known (k := Stage.ended v) (List.getElem?_set_self inside)

theorem verdict?_endConfirm (inside : c < s.confirmations.length) (v : Verdict) :
    (s.endConfirm c v).verdict? c = some v :=
  verdict?_setStage inside v

/-- If cancellations are heeded, a confirmation that was called off ends within one round. -/
theorem Waiting.verdict?_round (waiting : Waiting True true b c i r k s)
    (pack : Except Fault (Option Pack)) (version : Except Fault (Option Held)) :
    (s.follow c i (CheckEvent.round pack version)).verdict? c = some .cancelled := by
  obtain ⟨r, k, quits, stands⟩ := waiting.quits i
  obtain ⟨known, run⟩ := follow_moves quits.confirmation quits.run (RunMove.round pack version)
  have once (t : Session) : t.follow c i [.resume] = t.happen c i .resume := rfl
  have awaits := quits.awaits
  rw [CheckEvent.round, follow_append, follow_append, once, once, Session.happen]
  rcases stands with rfl | rfl
  · cases awaits with
    | abandoning stopping =>
        have finished := (stopping trivial).round quits.own.consistent pack version
        have ready := isReady_of_awaits known run rfl
        rw [finished, Bool.or_true] at ready
        rw [if_pos ready, resume_of_abandoning known]
        exact verdict?_endConfirm (List.getElem?_eq_some_iff.mp known).1 .cancelled
  · rw [resume_of_ended known, ite_self]
    exact verdict?_of_known known

/-- What a confirmation has come to that began in a dialog and was cancelled in the check of a run,
both of which are given by position. -/
structure Cancelled (heeded : Prop) (b : Session) (c i : Nat) (s : Session) : Prop where
  unchanged : Unchanged b s
  /-- It ends as cancelled, and after its run. -/
  ends : ∀ v, s.verdict? c = some v → v = .cancelled ∧
    ∃ r, s.runs[i]? = some r ∧ r.state.isFinished = true
  /-- It comes to its end, whatever the answers to the lookups are. -/
  comes : heeded → ∀ pack version,
    (s.follow c i (CheckEvent.round pack version)).verdict? c = some .cancelled

theorem Waiting.cancelled (waiting : Waiting heeded true b c i r k s) :
    Cancelled heeded b c i s where
  unchanged := waiting.unchanged
  ends v verdict := by
    obtain ⟨-, -, known, run, -, awaits⟩ := waiting
    rw [verdict?_of_known known] at verdict
    cases awaits with
    | waits => exact nomatch verdict
    | abandoning => exact nomatch verdict
    | ended finished => exact ⟨(Option.some.inj verdict).symm, r, run, finished⟩
  comes heeds := by
    obtain ⟨guarded, unchanged, known, run, own, awaits⟩ := waiting
    have heeding : k.Awaits True i r true := awaits.imp fun _ => heeds
    exact Waiting.verdict?_round ⟨guarded, unchanged, known, run, own, heeding⟩

/-- A confirmation that is cancelled in its check, at whatever point and however far its run has
come by then, changes nothing, whatever else happens to the dialog meanwhile. It ends as cancelled
once its run has ended, and that comes about unless a catalogue intercepts cancellations. The dialog
is guarded when the confirmation begins, as every dialog is at all times. -/
theorem cancelled_through {b : Session} (guarded : b.IsGuarded) (standard : b.surface = .standard)
    {c : Nat} (waits : b.confirmations[c]? = some {}) {before after : List DialogEvent}
    (meanwhile : (b.resume c).Admits (Meanwhile c b.runs.length) before)
    (checks : ((b.resume c).through before).IsChecking c b.runs.length)
    (meanwhile' : (((b.resume c).through before).cancel c).2.Admits (Meanwhile c b.runs.length)
      after) :
    let i := b.runs.length
    let s := (b.resume c).through before
    (s.cancel c).1 = true ∧
      Cancelled ((b.resume c).Admits (Heeds i) (before ++ .confirm c i .cancel :: after)) b c i
        ((s.cancel c).2.through after) := by
  intro i s
  obtain ⟨r, k, begun⟩ := waiting_resume guarded standard waits
    (isChecking_of_admits meanwhile checks)
    ((b.resume c).Admits (Heeds i) (before ++ .confirm c i .cancel :: after))
  obtain ⟨r, k, waiting⟩ := begun.through meanwhile
    (fun heeds => (admits_append.mp heeds).1) fun _ => checks
  obtain ⟨answered, called⟩ := waiting.cancel
  obtain ⟨r, k, ending⟩ := called.through meanwhile' (fun heeds => (admits_append.mp heeds).2.2)
    fun never => nomatch never
  exact ⟨answered, ending.cancelled⟩

/-- The check of the selection finds the other mod, while a second confirmation is turned down and a
page is searched. The first one has not heard of it yet. -/
def found : List DialogEvent :=
  [.confirm 0 0 (.check (.move .begin)), .request, .confirm 1 0 (.check .resume),
    .confirm 0 0 (.check (.move (.answerPack false (twins.pack .modrinth (.number 2))))),
    .search 0 (.str "lamps"),
    .confirm 0 0 (.check (.move (.answerVersion false
      (twins.version .modrinth { addonId := .number 2 }))))]

/-- A confirmation that was cancelled goes on twice, and another one is turned down meanwhile. -/
def quitting : List DialogEvent :=
  [.confirm 0 0 (.check .resume), .request, .confirm 2 0 (.check .resume),
    .confirm 0 0 (.check .resume)]

/-- The mod is ready to be merged when the confirmation is cancelled, and is not. -/
theorem cancelled_through_found :
    let b := lanterns.request.2
    let s := (b.resume 0).through found
    let o := (s.cancel 0).2.through quitting
    (b.IsGuarded ∧ b.surface = .standard ∧ b.confirmations[0]? = some ({} : Confirmation)) ∧
      ((b.resume 0).Admits (Meanwhile 0 0) found ∧ s.IsChecking 0 0 ∧
        (s.cancel 0).2.Admits (Meanwhile 0 0) quitting) ∧
      s.runs.map (fun r => (r.state, r.dependencies.map (·.pack.addonId))) =
        [(.succeeded, [.number 2])] ∧
      o.verdict? 0 = some .cancelled ∧ Unchanged b o ∧
      (o.follow 0 0 (CheckEvent.round (.ok none) (.ok none))).verdict? 0 = some .cancelled := by
  intro b s o
  have meanwhile : (b.resume 0).Admits (Meanwhile 0 0) found := by decide +kernel
  have checks : s.IsChecking 0 0 := by decide +kernel
  have meanwhile' : (s.cancel 0).2.Admits (Meanwhile 0 0) quitting := by decide +kernel
  have heeds : (b.resume 0).Admits (Heeds 0) (found ++ .confirm 0 0 .cancel :: quitting) := by
    decide +kernel
  obtain ⟨-, cancelled⟩ := cancelled_through (b := b) rfl rfl rfl meanwhile checks meanwhile'
  have ended : (o.verdict? 0).isSome := by decide +kernel
  obtain ⟨v, verdict⟩ := Option.isSome_iff_exists.mp ended
  obtain ⟨rfl, -⟩ := cancelled.ends v verdict
  exact ⟨⟨rfl, rfl, rfl⟩, ⟨meanwhile, checks, meanwhile'⟩, by decide +kernel, verdict,
    cancelled.unchanged, cancelled.comes heeds _ _⟩

end Session

end AddonPicker
