import AddonPicker.Proofs.Dialog.Review
import AddonPicker.Proofs.Run.Watch

/-!
# A dialog amid a check

While a confirmation is under way, a dialog has one run and one confirmation more than before.
What happens to the run shows in that run alone, and the user hears of it when the run comes to
its end: of the reason of a failure, of the warnings of a success, and of nothing otherwise.
-/

namespace AddonPicker

instance : LawfulOwner Session where
  runs_setRuns _ _ := rfl
  runs_setJournal _ _ := rfl

/-- What the handlers of a dialog show when a run has ended. -/
def Run.report (r : Run DialogHandler) : List UiCall :=
  match r.state with
  | .failed => [.showError "Error" (r.failure.getD "")]
  | .succeeded =>
    if r.warnings.isEmpty then [] else [.showWarnings "Warnings" ("\n".intercalate r.warnings)]
  | _ => []

theorem Run.report_congr {r r' : Run DialogHandler} (view : r'.view = r.view) :
    r'.report = r.report := by
  simp only [Run.view, RunView.mk.injEq] at view
  obtain ⟨state, -, warnings, -, failure⟩ := view
  rw [report, report, state, warnings, failure]

/-- A run as a dialog makes it: the handlers are those that the dialog registers. -/
structure Run.IsOwn (r : Run DialogHandler) : Prop where
  consistent : r.Consistent
  handlers : r.handlers = [(.failed, .showError), (.succeeded, .showWarnings)]

/-- A stage is that of a confirmation which stands there undisturbed. -/
instance : Coe Stage Confirmation where
  coe stage := { stage }

namespace Session

open Act

/-- A dialog with one run more and one confirmation more. -/
def amid (r : Run DialogHandler) (k : Confirmation) (b : Session) : Session :=
  { b with runs := b.runs ++ [r], confirmations := b.confirmations ++ [k] }

variable {b : Session} {r : Run DialogHandler} {k : Confirmation}

/-- The confirmation that is under way is found where it was requested. -/
theorem confirmation?_amid {b' : Session} (same : b'.confirmations = b.confirmations)
    (j : Journal) :
    (Journaled.setJournal j (b'.amid r k)).confirmations[b.confirmations.length]? = some k := by
  rw [← same]
  exact List.getElem?_concat_length

theorem setRun_amid (r' : Run DialogHandler) :
    Does (Owner.setRun b.runs.length r') (.ok ()) [] (b.amid r k) (b.amid r' k) := by
  apply does_modify
  intro j
  show Journaled.setJournal j { b.amid r k with
    runs := (b.runs ++ [r]).set b.runs.length r' } = _
  rw [List.set_append_right _ _ (Nat.le_refl _), Nat.sub_self]
  rfl

theorem modify_amid (f : Run DialogHandler → Run DialogHandler) :
    Does (modify fun s : Session =>
        Owner.setRuns ((Owner.runs s).modify b.runs.length f) s) (.ok ()) []
      (b.amid r k) (b.amid (f r) k) := by
  apply does_modify
  intro j
  show Journaled.setJournal j { b.amid r k with
    runs := (b.runs ++ [r]).modify b.runs.length f } = _
  rw [List.modify_eq_take_cons_drop (by simp)]
  simp [amid]

theorem run?_setJournal_amid (j : Journal) :
    Owner.run? (Journaled.setJournal j (b.amid r k)) b.runs.length = some r :=
  List.getElem?_concat_length

/-- Asking for the cancellation of the run. -/
theorem does_abort :
    Does (Owner.abort b.runs.length) (.ok r.abort.1) [] (b.amid r k)
      (b.amid r.abort.2 k) := by
  apply does_get_bind
  intro j
  rw [run?_setJournal_amid]
  dsimp only
  cases asked : r.abort with
  | mk answer r' =>
      have set : Does (Owner.setRun b.runs.length r') (.ok ()) [] (b.amid r k)
          (b.amid r' k) := setRun_amid r'
      have answered := set.bind (f := fun _ => pure answer) (does_pure answer)
      cases answer with
      | false => exact answered j
      | true => exact (does_say .info _).bind (f := fun _ => _ >>= fun _ => pure true) answered j

/-- Starting the run. -/
theorem does_start (idle : r.state = .idle) :
    Does (Owner.start b.runs.length) (.ok ()) [] (b.amid r k)
      (b.amid { r with state := .running, phase := .scheduled } k) := by
  intro j
  have set : Does (Owner.setRun b.runs.length { r with state := .running, phase := .scheduled })
      (.ok ()) [] (b.amid r k)
      (b.amid { r with state := .running, phase := .scheduled } k) := setRun_amid _
  obtain ⟨j', set, news⟩ := set j
  exact ⟨j', (Owner.perform_start_of_idle (run?_setJournal_amid j) idle).trans set, news⟩

/-- A run that was started may be waited for. -/
theorem does_requireStarted (started : r.state ≠ .idle) :
    Does (Owner.requireStarted b.runs.length) (.ok ()) [] (b.amid r k) (b.amid r k) := by
  apply does_get_bind
  intro j
  rw [run?_setJournal_amid]
  dsimp only
  rw [if_neg started]
  exact does_pure () j

/-- What a handler of a dialog shows for a notice. -/
def shows (warnings : List String) : DialogHandler × Notice → List UiCall
  | (.showError, n) => [.showError "Error" (n.reason?.getD "")]
  | (.showWarnings, _) =>
    if warnings.isEmpty then [] else [.showWarnings "Warnings" ("\n".intercalate warnings)]

/-- A handler shows what it shows whether or not the user interface then fails. -/
theorem perform_invoke (b : Session) (r : Run DialogHandler) (k : Confirmation)
    (c : DialogHandler × Notice) (j : Journal) :
    ∃ (result : Except Fault Unit) (j' : Journal),
      (Host.invoke b.runs.length c.1 c.2 : Act Session Unit).perform
          (Journaled.setJournal j (b.amid r k)) =
        (result, Journaled.setJournal j' (b.amid r k)) ∧
      j'.news = j.news ++ b.ui.shown (shows r.warnings c) := by
  obtain ⟨handler, n⟩ := c
  cases handler with
  | showError =>
      obtain ⟨j', called, news⟩ :=
        b.ui.perform_call (.showError "Error" (n.reason?.getD "")) (b.amid r k) j
      exact ⟨_, j', called, news⟩
  | showWarnings =>
      have seen : (Journaled.setJournal j (b.amid r k)).runs[b.runs.length]? = some r :=
        List.getElem?_concat_length
      have sameUi : (Journaled.setJournal j (b.amid r k)).ui = b.ui := rfl
      show ∃ result j', (Session.invoke b.runs.length .showWarnings n).perform _ = _ ∧ _
      simp only [Session.invoke, perform_bind, perform_get, seen, shows]
      cases r.warnings.isEmpty with
      | true => exact ⟨.ok (), j, rfl, (List.append_nil _).symm⟩
      | false =>
          obtain ⟨j', called, news⟩ := b.ui.perform_call
            (.showWarnings "Warnings" ("\n".intercalate r.warnings)) (b.amid r k) j
          exact ⟨_, j', called, news⟩

/-- Effects without a call tell nothing. -/
theorem does_perform_of_silent {effects : List (Effect DialogHandler)} {i : Nat} {s : Session}
    (silent : effects.filterMap Effect.call? = []) :
    Does (Host.perform i effects) (.ok ()) [] s s := by
  induction effects with
  | nil => exact does_pure ()
  | cons effect later ih =>
      cases effect with
      | log level message => exact (does_say level message).bind (f := fun _ => _) (ih silent)
      | notify handler notice => exact absurd silent (List.cons_ne_nil _ _)

/-- Effects with one call tell what its handler shows. -/
theorem does_perform_of_call {effects : List (Effect DialogHandler)} {c : DialogHandler × Notice}
    (single : effects.filterMap Effect.call? = [c]) :
    Does (Host.perform b.runs.length effects) (.ok ()) (b.ui.shown (shows r.warnings c))
      (b.amid r k) (b.amid r k) := by
  induction effects with
  | nil => exact nomatch single
  | cons effect later ih =>
      cases effect with
      | log level message => exact (does_say level message).bind (f := fun _ => _) (ih single)
      | notify handler notice =>
          obtain ⟨rfl, silent⟩ := List.cons.inj single
          intro j
          obtain ⟨result, j', called, news⟩ := perform_invoke b r k (handler, notice) j
          have rest : Does (Host.perform b.runs.length later) (.ok ()) [] (b.amid r k)
              (b.amid r k) := does_perform_of_silent silent
          rw [Host.perform_notify, called]
          dsimp only
          split
          · obtain ⟨j'', performed, news'⟩ := rest j'
            exact ⟨j'', performed, by rw [news', List.append_nil, news]⟩
          · exact ⟨j', rfl, news⟩
          · have said := fun message => (does_say .error message).bind (f := fun _ => _) rest
            obtain ⟨j'', performed, news'⟩ := said _ j'
            refine ⟨j'', performed, ?_⟩
            rw [news', news]
            exact List.append_nil _

/-- What an own run announces is one call at most. -/
theorem announcement_of_isOwn (own : r.IsOwn) :
    r.announcement = [] ∧ r.report = [] ∨
      ∃ c, r.announcement = [c] ∧ r.report = shows r.warnings c := by
  simp only [Run.announcement, Run.notices, Run.report, own.handlers]
  cases r.state with
  | succeeded => exact .inr ⟨(.showWarnings, .succeeded), rfl, rfl⟩
  | failed => exact .inr ⟨(.showError, .failed (r.failure.getD "")), rfl, rfl⟩
  | _ => exact .inl ⟨rfl, rfl⟩

theorem does_transition_of_perform {f : Run DialogHandler → Run DialogHandler × List (Effect _)}
    {told : List UiCall}
    (performed : Does (Host.perform b.runs.length (f r).2) (.ok ()) told (b.amid (f r).1 k)
      (b.amid (f r).1 k)) :
    Does (Host.transition b.runs.length f) (.ok ()) told (b.amid r k)
      (b.amid (f r).1.close k) := by
  have set : Does (Owner.setRun b.runs.length (f r).1) (.ok ()) [] (b.amid r k)
      (b.amid (f r).1 k) := setRun_amid _
  have left : Does (modify fun s : Session =>
      Owner.setRuns ((Owner.runs s).modify b.runs.length Run.close) s) (.ok ()) []
      (b.amid (f r).1 k) (b.amid (f r).1.close k) := modify_amid Run.close
  have moved := set.bind (f := fun _ => Host.perform b.runs.length (f r).2 >>= fun _ => _)
    (performed.bind (f := fun _ => _) left)
  rw [List.append_nil] at moved
  apply does_get_bind
  intro j
  rw [run?_setJournal_amid]
  exact moved j

/-- A step of the run tells the user what its end has to tell, if it ends the run. -/
theorem does_transition (b : Session) (k : Confirmation) (own : r.IsOwn) (m : RunMove) :
    ∃ r' : Run DialogHandler, r'.IsOwn ∧
      ((r'.view = r.view ∧
          Does (Host.transition b.runs.length m.apply) (.ok ()) [] (b.amid r k)
            (b.amid r' k)) ∨
        (r.state = .running ∧ r'.state.isFinished = true ∧
          Does (Host.transition b.runs.length m.apply) (.ok ()) (b.ui.shown r'.report)
            (b.amid r k) (b.amid r' k))) := by
  rcases m.stays_or_ends own.consistent with stays | ends
  · obtain ⟨view, handlers, consistent⟩ := Run.consistent_close stays.consistent
    refine ⟨(m.apply r).1.close, ⟨consistent, ?_⟩, .inl ⟨view.trans stays.view, ?_⟩⟩
    · rw [handlers, stays.handlers, own.handlers]
    · exact does_transition_of_perform (does_perform_of_silent stays.silent)
  · obtain ⟨view, handlers, consistent⟩ := Run.consistent_close ends.consistent
    have own' : (m.apply r).1.IsOwn := ⟨ends.consistent, ends.handlers.trans own.handlers⟩
    have state : (m.apply r).1.close.state = (m.apply r).1.state := congrArg RunView.state view
    refine ⟨(m.apply r).1.close, ⟨consistent, handlers.trans own'.handlers⟩,
      .inr ⟨ends.running, state ▸ ends.finished, does_transition_of_perform ?_⟩⟩
    rw [Run.report_congr view]
    rcases announcement_of_isOwn own' with ⟨none, nothing⟩ | ⟨c, one, shown⟩
    · rw [nothing]
      exact does_perform_of_silent (ends.announced.trans none)
    · rw [shown]
      exact does_perform_of_call (ends.announced.trans one)

end Session

end AddonPicker
