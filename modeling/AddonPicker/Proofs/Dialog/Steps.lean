import AddonPicker.Proofs.Dialog.Way

/-!
# A confirmation step by step

Whatever the user interface does, what an event comes to for a confirmation and its run hangs on
these two alone: `Confirmation.Turn`. The rest of a dialog is as it was at the request until the
answer to the check is due. After that, only the runs and the confirmations are known to be as
before: `Session.At`.
-/

namespace AddonPicker

/-- Something that happens while a confirmation may be under way. -/
inductive ConfirmEvent
  /-- The confirmation goes on, or something happens to its run. -/
  | check (e : CheckEvent)
  /-- The cancellation of the confirmation is asked for. -/
  | cancel

namespace Session

/-- Let an event happen to a confirmation and its run, which are given by position. -/
def undergo (c i : Nat) (e : ConfirmEvent) (s : Session) : Session :=
  match e with
  | .check e => s.happen c i e
  | .cancel => (s.cancel c).2

/-- What events come to. -/
def pursue (c i : Nat) (events : List ConfirmEvent) (s : Session) : Session :=
  events.foldl (fun s e => s.undergo c i e) s

/-- Each event may happen where it does. -/
def IsLegal (admits : Session → ConfirmEvent → Prop) (c i : Nat) :
    List ConfirmEvent → Session → Prop
  | [], _ => True
  | e :: later, s => admits s e ∧ IsLegal admits c i later (s.undergo c i e)

/-- It is enough to look at every position. -/
theorem isLegal_of_take {admits : Session → ConfirmEvent → Prop} {c i : Nat}
    {events : List ConfirmEvent} {s : Session}
    (admitted : ∀ n e, events[n]? = some e → admits (s.pursue c i (events.take n)) e) :
    s.IsLegal admits c i events := by
  induction events generalizing s with
  | nil => trivial
  | cons e later ih => exact ⟨admitted 0 e rfl, ih fun n e now => admitted (n + 1) e now⟩

end Session

namespace Confirmation

/-- Whether a confirmation can go on, given the run that it may wait for. -/
def isReady (k : Confirmation) (r : Run DialogHandler) : Bool :=
  k.cancelling || (Rehearsal.awaitedRun? k).isNone || r.state.isFinished

/-- What an event makes of a run, which is given by position, and of its confirmation. -/
inductive Turn (i : Nat) : ConfirmEvent → Run DialogHandler → Confirmation →
    Run DialogHandler → Confirmation → Prop
  | idle (e : ConfirmEvent) (r : Run DialogHandler) (k : Confirmation) : Turn i e r k r k
  | resumed {r : Run DialogHandler} {k : Confirmation} {stage : Stage}
      (checking : k.stage.isChecking i = true) (ready : k.isReady r = true)
      (leads : (k.way i r).1.Leads stage) :
      Turn i (.check .resume) r k (k.way i r).2 stage
  | answered {r : Run DialogHandler} {k : Confirmation} {stage : Stage}
      (past : k.stage.isPast = true) (past' : stage.isPast = true) :
      Turn i (.check .resume) r k r stage
  | aborted (r : Run DialogHandler) (k : Confirmation) : Turn i (.check .abort) r k r.abort.2 k
  | moved (r : Run DialogHandler) (k : Confirmation) (m : RunMove) :
      Turn i (.check (.move m)) r k (m.apply r).1.close k
  | called (r : Run DialogHandler) (k : Confirmation) :
      Turn i .cancel r k r { k with cancelling := true }

end Confirmation

namespace Run

variable {r : Run DialogHandler}

theorem IsOwn.started (own : r.IsOwn) (idle : r.state = .idle) :
    ({ r with state := .running, phase := .scheduled } : Run DialogHandler).IsOwn :=
  (Run.Onward.start own idle).own

theorem IsOwn.abort (own : r.IsOwn) : r.abort.2.IsOwn :=
  (Run.Onward.abort own).own

/-- A run that takes a step keeps the handlers of its dialog. -/
theorem IsOwn.move (own : r.IsOwn) (m : RunMove) : (m.apply r).1.close.IsOwn := by
  have next : (m.apply r).1.Consistent ∧ (m.apply r).1.handlers = r.handlers := by
    rcases m.stays_or_ends own.consistent with stays | ends
    · exact ⟨stays.consistent, stays.handlers⟩
    · exact ⟨ends.consistent, ends.handlers⟩
  obtain ⟨-, handlers, consistent⟩ := Run.consistent_close next.1
  exact ⟨consistent, handlers.trans (next.2.trans own.handlers)⟩

/-- A step leaves the state of a run as it is, or ends the run. -/
theorem IsOwn.state_move (own : r.IsOwn) (m : RunMove) :
    (m.apply r).1.close.state = r.state ∨
      r.state = .running ∧ (m.apply r).1.close.state.isFinished = true := by
  rcases m.stays_or_ends own.consistent with stays | ends
  · obtain ⟨view, -, -⟩ := consistent_close stays.consistent
    exact .inl (congrArg RunView.state (view.trans stays.view))
  · obtain ⟨view, -, -⟩ := consistent_close ends.consistent
    have state : (m.apply r).1.close.state = (m.apply r).1.state := congrArg RunView.state view
    exact .inr ⟨ends.running, state ▸ ends.finished⟩

end Run

/-- The run of a confirmation stays that of its dialog. -/
theorem Confirmation.Turn.isOwn {i : Nat} {e : ConfirmEvent} {r r' : Run DialogHandler}
    {k k' : Confirmation} (turn : Turn i e r k r' k') (own : r.IsOwn) : r'.IsOwn := by
  cases turn with
  | resumed checking ready leads =>
      exact kept_of_way (fun _ own idle => own.started idle) (fun _ own => own.abort) i k own
  | aborted => exact own.abort
  | moved _ _ m => exact own.move m
  | _ => exact own

namespace Session

open Act

variable {b s : Session} {r r' : Run DialogHandler} {k k' : Confirmation}

/-- A dialog in which a confirmation that was requested of another one has a run. -/
inductive At (b : Session) (r : Run DialogHandler) (k : Confirmation) : Session → Prop
  | checking (j : Journal) (checking : k.stage.isChecking b.runs.length = true) :
      At b r k (Journaled.setJournal j ((b.engaged b.settings).amid r k))
  | past {b' : Session} (runs : b'.runs = b.runs)
      (confirmations : b'.confirmations = b.confirmations) (past : k.stage.isPast = true) :
      At b r k (b'.amid r k)

/-- What happens to the run and leaves the stage alone leaves the rest alone as well. -/
theorem At.exists_amid (at_ : At b r k s) :
    ∃ (b' : Session) (j : Journal), s = Journaled.setJournal j (b'.amid r k) ∧
      b'.runs = b.runs ∧ b'.confirmations = b.confirmations ∧
      ∀ (j' : Journal) (r' : Run DialogHandler) (k' : Confirmation), k'.stage = k.stage →
        At b r' k' (Journaled.setJournal j' (b'.amid r' k')) := by
  cases at_ with
  | checking j checking =>
      exact ⟨b.engaged b.settings, j, rfl, rfl, rfl, fun j' r' k' same =>
        .checking j' (same ▸ checking)⟩
  | @past b' runs confirmations past =>
      refine ⟨b', b'.selection.journal, rfl, runs, confirmations, fun j' r' k' same => ?_⟩
      have later : At b r' k' ((Journaled.setJournal j' b').amid r' k') :=
        .past runs confirmations (same ▸ past)
      exact later

theorem At.confirmation? (at_ : At b r k s) :
    s.confirmations[b.confirmations.length]? = some k := by
  obtain ⟨b', j, rfl, -, confirmations, -⟩ := at_.exists_amid
  exact confirmation?_amid confirmations j

theorem At.run? (at_ : At b r k s) : s.runs[b.runs.length]? = some r := by
  obtain ⟨b', j, rfl, runs, -, -⟩ := at_.exists_amid
  rw [← runs]
  exact run?_setJournal_amid j

/-- Effects are performed to their end, whatever the handlers do. -/
theorem meets_perform (effects : List (Effect DialogHandler)) :
    Meets (.lax False) (Host.perform b.runs.length effects) (.ok ()) (b.amid r k)
      (b.amid r k) := by
  induction effects with
  | nil => exact meets_pure ()
  | cons effect later ih =>
      cases effect with
      | log level message => exact (meets_say level message).bind (f := fun _ => _) ih
      | notify handler notice =>
          intro j
          obtain ⟨result, j', called, -⟩ := perform_invoke b r k (handler, notice) j
          rw [Host.perform_notify, called]
          dsimp only
          split
          · exact ih j'
          · exact .inl ⟨j', rfl, trivial⟩
          · exact (meets_say .error _).bind (f := fun _ => _) ih j'

/-- A transition of the run changes nothing else, whatever the handlers do. -/
theorem meets_transition (f : Run DialogHandler → Run DialogHandler × List (Effect _)) :
    Meets (.lax False) (Host.transition b.runs.length f) (.ok ()) (b.amid r k)
      (b.amid (f r).1.close k) := by
  have set : Meets (.lax False) (Owner.setRun b.runs.length (f r).1) (.ok ()) (b.amid r k)
      (b.amid (f r).1 k) := (setRun_amid _).meets
  have left : Meets (.lax False) (modify fun s : Session =>
      Owner.setRuns ((Owner.runs s).modify b.runs.length Run.close) s) (.ok ())
      (b.amid (f r).1 k) (b.amid (f r).1.close k) := (modify_amid Run.close).meets
  have moved := set.bind (f := fun _ => Host.perform b.runs.length (f r).2 >>= fun _ => _)
    ((meets_perform (f r).2).bind (f := fun _ => _) left)
  apply meets_get_bind
  intro j
  rw [run?_setJournal_amid]
  exact moved

theorem At.abort (at_ : At b r k s) :
    At b r.abort.2 k ((Owner.abort b.runs.length).perform s).2 := by
  obtain ⟨b', j, rfl, runs, -, goes⟩ := at_.exists_amid
  obtain ⟨j', performed, -⟩ := does_abort (b := b') (r := r) (k := k) j
  rw [← runs, performed]
  exact goes j' _ _ rfl

theorem At.move (at_ : At b r k s) (m : RunMove) :
    At b (m.apply r).1.close k ((Host.transition b.runs.length m.apply).perform s).2 := by
  obtain ⟨b', j, rfl, runs, -, goes⟩ := at_.exists_amid
  rcases meets_transition (b := b') (r := r) (k := k) m.apply j with
    ⟨j', performed, -⟩ | ⟨never, -⟩
  · rw [← runs, performed]
    exact goes j' _ _ rfl
  · exact never.elim

theorem At.lookup (at_ : At b r k s) (l : Lookup) :
    At b r k ((Journaled.noteLookup l).perform s).2 := by
  obtain ⟨b', j, rfl, -, -, goes⟩ := at_.exists_amid
  exact goes (j.noteLookup l) _ _ rfl

/-- A confirmation that has not ended is cancelled when that is asked for. -/
theorem At.cancel_of_ne_ended (at_ : At b r k s) (unended : ∀ v, k.stage ≠ .ended v) :
    (s.cancel b.confirmations.length).1 = true ∧
      At b r { k with cancelling := true } (s.cancel b.confirmations.length).2 := by
  have known := at_.confirmation?
  obtain ⟨b', j, rfl, -, confirmations, goes⟩ := at_.exists_amid
  have called : At b r { k with cancelling := true } { Journaled.setJournal j (b'.amid r k) with
      confirmations := (b'.amid r k).confirmations.set b.confirmations.length
        { k with cancelling := true } } := by
    have set : (b'.amid r k).confirmations.set b.confirmations.length
        { k with cancelling := true } =
          (b'.amid r { k with cancelling := true }).confirmations := by
      show (b'.confirmations ++ [k]).set _ _ = _
      rw [← confirmations, List.set_append_right _ _ (Nat.le_refl _), Nat.sub_self]
      rfl
    rw [set]
    exact goes j r { k with cancelling := true } rfl
  rw [Session.cancel, known]
  obtain ⟨stage, cancelling⟩ := k
  cases stage with
  | ended v => exact absurd rfl (unended v)
  | _ => exact ⟨rfl, called⟩

/-- A confirmation that has ended cannot be cancelled any more; any other one is. -/
theorem At.cancel (at_ : At b r k s) :
    ∃ k', Confirmation.Turn b.runs.length .cancel r k r k' ∧
      At b r k' (s.cancel b.confirmations.length).2 := by
  by_cases ended : ∃ v, k.stage = .ended v
  · obtain ⟨v, ended⟩ := ended
    have known := at_.confirmation?
    obtain ⟨stage, cancelling⟩ := k
    obtain rfl : stage = .ended v := ended
    refine ⟨_, .idle _ _ _, ?_⟩
    rw [Session.cancel, known]
    exact at_
  · exact ⟨_, .called _ _, (at_.cancel_of_ne_ended fun v here => ended ⟨v, here⟩).2⟩

/-- Taking over a result changes the confirmations and leaves everything else alone. -/
theorem part_settle {γ : Type} {part : Session → γ} (same : ∀ confirmations confirming s,
    part { s with confirmations, confirming } = part s) (c : Nat) (result : Except Fault Step)
    (s : Session) : part (s.settle c result) = part s := by
  unfold settle
  split <;> exact same _ _ s

theorem runs_settle (c : Nat) (result : Except Fault Step) (s : Session) :
    (s.settle c result).runs = s.runs :=
  part_settle (fun _ _ _ => rfl) c result s

/-- A confirmation that has a result stands where the result leads to. -/
theorem confirmation?_settle {c : Nat} (result : Except Fault Step)
    (inside : c < s.confirmations.length) :
    (s.settle c result).confirmations[c]? = some { stage := Stage.after result } := by
  cases result with
  | ok step => cases step <;> exact List.getElem?_set_self inside
  | error f => cases f <;> exact List.getElem?_set_self inside

/-- Where the result of the answer to a check leads to. -/
theorem isPast_after {result : Except Fault Step}
    (past : ∀ step, result = .ok step → step.IsPast) : (Stage.after result).isPast = true := by
  cases result with
  | error f => rfl
  | ok step =>
      cases step with
      | waits stage => exact past _ rfl stage rfl
      | returns accepted => rfl

/-- A piece of the workflow that comes after the check leaves a confirmation past the check. -/
theorem at_settle {a : Act Session Step} (at_ : s.runs = b.runs ++ [r])
    (confirmations : s.confirmations = b.confirmations ++ [k])
    (runs : Leaves Session.runs a) (others : Leaves Session.confirmations a)
    (yields : Yields Step.IsPast a) :
    ∃ stage : Stage, stage.isPast = true ∧
      At b r stage (settle b.confirmations.length (a.perform s).1 (a.perform s).2) := by
  have past := isPast_after (yields s)
  refine ⟨_, past, ?_⟩
  have runs' := (runs s).trans at_
  have confirmations' := (others s).trans confirmations
  generalize (a.perform s).1 = result at past
  generalize (a.perform s).2 = t at runs' confirmations'
  -- But for the run and the confirmation, the dialog may be any by now.
  let b' : Session := { t with runs := b.runs, confirmations := b.confirmations }
  have same : t = Journaled.setJournal t.selection.journal (b'.amid r k) := by
    show t = { t with runs := b.runs ++ [r], confirmations := b.confirmations ++ [k] }
    rw [← runs', ← confirmations']
  have settled := settle_amid (b := b') (r := r) (k := k) result t.selection.journal
  rw [← same] at settled
  show At b r (Stage.after result) (settle b'.confirmations.length result t)
  rw [settled]
  have after : At b r (Stage.after result)
      ((Journaled.setJournal t.selection.journal (b'.left result)).amid r
        (Stage.after result)) := by
    refine .past ?_ ?_ past
    · cases result with
      | error f => rfl
      | ok step => cases step <;> rfl
    · cases result with
      | error f => rfl
      | ok step => cases step <;> rfl
  exact after

/-- A confirmation that goes its way is where the way leads to. -/
theorem at_of_way (way : Way) (checking : ∀ stage, way = .stands stage →
    stage.isChecking b.runs.length = true) (r : Run DialogHandler) (k : Confirmation)
    (j : Journal) :
    let performed := (way.act b.runs.length).perform
      (Journaled.setJournal j ((b.engaged b.settings).amid r k))
    ∃ stage : Stage, way.Leads stage ∧
      At b r stage (settle b.confirmations.length performed.1 performed.2) := by
  intro performed
  have settled (result : Except Fault Step) :
      settle b.confirmations.length result
        (Journaled.setJournal j ((b.engaged b.settings).amid r k)) = _ :=
    settle_amid (b := b.engaged b.settings) result j
  cases way with
  | stands stage =>
      refine ⟨stage, .stands stage, ?_⟩
      rw [show performed = (.ok (.waits stage), _) from rfl, settled]
      exact .checking j (checking stage rfl)
  | breaks f =>
      refine ⟨_, .breaks f, ?_⟩
      rw [show performed = (.error f, _) from rfl, settled]
      have ended : At b r (Stage.ended (.ofFault f)) ((Journaled.setJournal j
          ((b.engaged b.settings).left (.error f))).amid r (Stage.ended (.ofFault f))) :=
        .past rfl rfl rfl
      exact ended
  | checks =>
      obtain ⟨stage, past, at_⟩ := at_settle (b := b) (r := r) (k := k)
        (s := Journaled.setJournal j ((b.engaged b.settings).amid r k)) rfl rfl
        (leaves_afterCheck isAside_runs (fun _ _ => rfl) b.runs.length)
        (leaves_afterCheck isAside_confirmations (fun _ _ => rfl) b.runs.length)
        (yields_afterCheck b.runs.length)
      exact ⟨stage, .checks past, at_⟩

/-- Whether a confirmation can go on hangs on itself and on its run. -/
theorem At.isReady_eq (at_ : At b r k s) :
    s.isReady b.confirmations.length = k.isReady r := by
  have known := at_.confirmation?
  have run := at_.run?
  have own (i : Nat) (awaited : Rehearsal.awaitedRun? k = some i) : s.runState i = r.state := by
    have here : i = b.runs.length := by
      obtain ⟨stage, cancelling⟩ := k
      cases at_ with
      | checking j checking =>
          cases stage with
          | surface i' wait later =>
              cases wait with
              | quiet => exact nomatch awaited
              | runEnd =>
                  obtain rfl := Option.some.inj awaited
                  exact eq_of_beq checking
          | settling i' =>
              obtain rfl := Option.some.inj awaited
              exact eq_of_beq checking
          | abandoning i' =>
              obtain rfl := Option.some.inj awaited
              exact eq_of_beq checking
          | _ => exact nomatch awaited
      | past runs confirmations past =>
          cases stage with
          | reviewing box plan => exact nomatch awaited
          | ended v => exact nomatch awaited
          | _ => exact absurd past Bool.false_ne_true
    rw [runState, here, run]
  rw [Session.isReady, known]
  dsimp only
  rw [Confirmation.isReady, Bool.or_assoc]
  cases awaited : Rehearsal.awaitedRun? k with
  | none => rfl
  | some i =>
      dsimp only
      rw [own i awaited]
      rfl

/-- A confirmation in a check goes on from its stage. -/
theorem resume_of_isChecking {c i : Nat} (known : s.confirmations[c]? = some k)
    (checking : k.stage.isChecking i = true) :
    s.resume c = settle c ((continueConfirm k.cancelling k.stage).perform s).1
      ((continueConfirm k.cancelling k.stage).perform s).2 := by
  rw [resume, known]
  obtain ⟨stage, cancelling⟩ := k
  cases stage with
  | scheduled => exact absurd checking Bool.false_ne_true
  | ended v => exact absurd checking Bool.false_ne_true
  | _ => rfl

/-- A confirmation that is past its check stands where it stands or goes on with its review. -/
theorem resume_of_isPast {c : Nat} (known : s.confirmations[c]? = some k)
    (past : k.stage.isPast = true) :
    s.resume c = s ∨ ∃ a : Act Session Step, s.resume c = settle c (a.perform s).1 (a.perform s).2 ∧
      Yields Step.IsPast a ∧ ∀ {γ : Type} {part : Session → γ}, IsAside part → Leaves part a := by
  rw [resume, known]
  obtain ⟨stage, cancelling⟩ := k
  cases stage with
  | ended v => exact .inl rfl
  | reviewing box plan =>
      exact .inr ⟨_, rfl, yields_continueReview cancelling box plan,
        fun aside => leaves_continueReview aside cancelling box plan⟩
  | _ => exact absurd past Bool.false_ne_true

/-- A confirmation in a check that goes on does what is left to do on its way. -/
theorem exists_resume_checking (checking : k.stage.isChecking b.runs.length = true)
    (r : Run DialogHandler) (j : Journal) :
    ∃ (j' : Journal) (performed : Except Fault Step × Session),
      performed = ((k.way b.runs.length r).1.act b.runs.length).perform
        (Journaled.setJournal j' ((b.engaged b.settings).amid (k.way b.runs.length r).2 k)) ∧
      resume b.confirmations.length (Journaled.setJournal j ((b.engaged b.settings).amid r k)) =
        settle b.confirmations.length performed.1 performed.2 := by
  obtain ⟨j', performed, -⟩ := comes_continueConfirm (b := b.engaged b.settings) checking r j
  have same : (b.engaged b.settings).confirmations = b.confirmations := rfl
  exact ⟨j', _, performed, resume_of_isChecking (confirmation?_amid same j) checking⟩

/-- A confirmation in a check is where its way leads to once it has gone on. -/
theorem At.resume_of_isChecking (at_ : At b r k s)
    (checking : k.stage.isChecking b.runs.length = true) :
    ∃ stage : Stage, (k.way b.runs.length r).1.Leads stage ∧
      At b (k.way b.runs.length r).2 stage (s.resume b.confirmations.length) := by
  cases at_ with
  | checking j _ =>
      obtain ⟨j', performed, rfl, resumed⟩ := exists_resume_checking checking r j
      rw [resumed]
      exact at_of_way (b := b) (k.way b.runs.length r).1
        (fun _ => Confirmation.isChecking_of_way) (k.way b.runs.length r).2 k j'
  | past runs confirmations past =>
      exact absurd ((Stage.isPast_of_isChecking checking).symm.trans past) Bool.false_ne_true

/-- A confirmation that goes on takes a turn. -/
theorem At.resume (at_ : At b r k s) (ready : k.isReady r = true) :
    ∃ r' k', Confirmation.Turn b.runs.length (.check .resume) r k r' k' ∧
      At b r' k' (s.resume b.confirmations.length) := by
  have known := at_.confirmation?
  cases at_ with
  | checking j checking =>
      obtain ⟨stage, leads, at_⟩ := (At.checking (b := b) j checking).resume_of_isChecking checking
      exact ⟨_, _, .resumed checking ready leads, at_⟩
  | @past b' runs confirmations past =>
      have runs' : (b'.amid r k).runs = b.runs ++ [r] := congrArg (· ++ [r]) runs
      have confirmations' : (b'.amid r k).confirmations = b.confirmations ++ [k] :=
        congrArg (· ++ [k]) confirmations
      rcases resume_of_isPast known past with stands | ⟨a, goes, yields, leaves⟩
      · rw [stands]
        exact ⟨r, k, .idle _ _ _, .past runs confirmations past⟩
      · obtain ⟨stage, past', at_⟩ := at_settle runs' confirmations' (leaves isAside_runs)
          (leaves isAside_confirmations) yields
        rw [goes]
        exact ⟨r, stage, .answered past past', at_⟩

/-- Every event is a turn of the confirmation. -/
theorem At.undergo (at_ : At b r k s) (e : ConfirmEvent) :
    ∃ r' k', Confirmation.Turn b.runs.length e r k r' k' ∧
      At b r' k' (s.undergo b.confirmations.length b.runs.length e) := by
  cases e with
  | cancel =>
      obtain ⟨k', turn, at_⟩ := at_.cancel
      exact ⟨r, k', turn, at_⟩
  | check e =>
      cases e with
      | abort => exact ⟨_, _, .aborted r k, at_.abort⟩
      | move m => exact ⟨_, _, .moved r k m, at_.move m⟩
      | lookup l => exact ⟨_, _, .idle _ r k, at_.lookup l⟩
      | resume =>
          rw [Session.undergo, happen, at_.isReady_eq]
          cases ready : k.isReady r with
          | false => exact ⟨_, _, .idle _ r k, at_⟩
          | true => exact at_.resume ready

end Session

end AddonPicker
