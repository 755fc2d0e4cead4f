import AddonPicker.Proofs.Dialog.Cancelled
import AddonPicker.Proofs.Dialog.Commit
import AddonPicker.Proofs.Dialog.Geometry
import AddonPicker.Proofs.Dialog.Opening

/-!
# Closing a dialog

A dialog is closed by its owner, or by a confirmation that ends with the selection accepted or with a
check that was skipped. Up to the call that closes it, a confirmation keeps no settings. So however a
dialog is closed, the geometry of its window is kept, and any dialog that comes up with the same
settings and the same key gives it back.
-/

namespace AddonPicker

theorem Stage.verdict?_of_isChecking {i : Nat} {stage : Stage}
    (checking : stage.isChecking i = true) : stage.verdict? = none := by
  cases stage with
  | ended v => exact absurd checking Bool.false_ne_true
  | _ => rfl

namespace Session

open Act

variable {s t : Session} {c i : Nat} {ι : Type} {part : Session → ι}

/-! ### How a piece of a workflow ends -/

/-- How a piece of a workflow ends. It closes the dialog as its last step, which does not fail, or it
is declined, waits or fails. -/
inductive Ends (J declined : Session → Prop) : Except Fault Step × Session → Prop
  | closes {m : Session} (accepted : Bool) (holds : J m)
      (done : ((close accepted).perform m).1 = .ok ()) :
      Ends J declined (.ok (.returns accepted), ((close accepted).perform m).2)
  | declines {t : Session} (holds : declined t) : Ends J declined (.ok (.returns false), t)
  | waits (t : Session) {stage : Stage} (pending : stage.verdict? = none) :
      Ends J declined (.ok (.waits stage), t)
  | fails (f : Fault) (t : Session) : Ends J declined (.error f, t)

theorem Ends.imp {J K declined declined' : Session → Prop} (imp : ∀ s, J s → K s)
    (imp' : ∀ s, declined s → declined' s) {performed : Except Fault Step × Session}
    (ends : Ends J declined performed) : Ends K declined' performed := by
  cases ends with
  | closes accepted holds done => exact .closes accepted (imp _ holds) done
  | declines holds => exact .declines (imp' _ holds)
  | waits t pending => exact .waits t pending
  | fails f t => exact .fails f t

theorem ends_close {J declined : Session → Prop} (accepted : Bool) {m : Session} (holds : J m) :
    Ends J declined ((close accepted >>= fun _ => pure (Step.returns accepted)).perform m) := by
  rw [perform_bind]
  cases performed : (close accepted).perform m with
  | mk result t =>
      cases result with
      | error f => exact .fails f t
      | ok u =>
          have ends : Ends J declined (.ok (.returns accepted), ((close accepted).perform m).2) :=
            .closes accepted holds (by rw [performed])
          rw [performed] at ends
          exact ends

/-- A piece of a workflow ends as its last step does, if the steps before leave a part alone. -/
theorem ends_bind {α : Type} {a : Act Session α} {f : α → Act Session Step} {x : ι}
    {declined : Session → Prop} (first : Leaves part a)
    (later : ∀ y t, part t = x → Ends (fun t => part t = x) declined ((f y).perform t))
    (holds : part s = x) : Ends (fun t => part t = x) declined ((a >>= f).perform s) :=
  (leaves_iff.mp first x).bind_of (fun fault t _ => .fails fault t) later holds

section

variable (unselected : IsUnselected part)

include unselected

theorem IsUnselected.reviewMove (box : ReviewBox) (m : ReviewMove) :
    Leaves part (reviewMove box m) := by
  cases m with
  | untick position => exact leaves_pure _
  | setEnabled name enabled => exact fun _ => rfl
  | remove pack version => exact (unselected.onSelection _).bind fun _ => leaves_pure _
  | add pack version => exact (unselected.onSelection _).bind fun _ => leaves_pure _

/-- A review ends with the dialog accepted or is declined. -/
theorem ends_finishReview (box : ReviewBox) (plan : ReviewPlan) {x : ι} (holds : part s = x) :
    Ends (fun t => part t = x) (fun t => part t = x) ((finishReview box plan).perform s) := by
  have moved : Leaves part (plan.moves.foldlM Session.reviewMove box) := leaves_iff.mpr fun x =>
    keeps_foldlM_of_mem (fun m _ box => leaves_iff.mp (unselected.reviewMove box m) x) box
  refine ends_bind moved (fun box t holds => ?_) holds
  split
  · have dropped : Leaves part (box.deselected.forM fun name =>
        Session.onSelection (Selection.removeByName name)) :=
      leaves_forM (fun _ => unselected.onSelection _) _
    simp only [commit, bind_assoc]
    refine ends_bind dropped (fun _ t holds => ?_) holds
    refine ends_bind leaves_get (fun _ t holds => ?_) holds
    exact ends_bind (unselected.edit _) (fun _ t holds => ends_close true holds) holds
  · exact .declines holds

variable (uncounted : ∀ n s, part { s with reviews := n } = part s)

include uncounted

/-- So does a review that is opened, unless it waits for the user. -/
theorem ends_openReview {x : ι} (holds : part s = x) :
    Ends (fun t => part t = x) (fun t => part t = x) (openReview.perform s) := by
  refine ends_bind leaves_get (fun s t holds => ?_) holds
  dsimp only
  refine ends_bind (leaves_iff.mpr fun _ => keeps_check _) (fun _ t holds => ?_) holds
  refine ends_bind (leaves_counting uncounted) (fun _ t holds => ?_) holds
  refine ends_bind (unselected.callUi _) (fun _ t holds => ?_) holds
  split
  · exact .waits t rfl
  · exact ends_finishReview unselected _ _ holds

end

/-- A check that has ended closes the dialog if its run was skipped, and goes on to the review if
it was not. -/
theorem ends_afterCheck (i : Nat) {x : List (Value × Value) × Value × Ui}
    (holds : s.keeping = x) :
    Ends (fun t => t.keeping = x) (fun t => t.runState i ≠ .skipped) ((afterCheck i).perform s) := by
  rw [afterCheck, perform_bind, perform_get]
  dsimp only
  split
  · exact ends_bind (isUnselected_keeping.edit _) (fun _ t holds => ends_close false holds)
      holds
  · rename_i unskipped
    have unselected : IsUnselected fun t : Session => (t.keeping, t.runs) := fun _ _ => rfl
    have reviewed := ends_bind (x := (x, s.runs)) (unselected.merge (s.runDependencies i))
      (f := fun _ => openReview) (fun _ t holds => ends_openReview unselected (fun _ _ => rfl) holds)
      (Prod.ext holds rfl)
    refine Ends.imp (fun t holds => congrArg Prod.fst holds) (fun t holds => ?_) reviewed
    have runs : t.runs = s.runs := congrArg Prod.snd holds
    rwa [runState, runs]

/-- A check that goes on closes the dialog only when its run was skipped. -/
theorem Goes.ends {x : List (Value × Value) × Value × Ui} {performed : Except Fault Step × Session}
    (goes : Goes (fun t => t.keeping = x) i performed) :
    Ends (fun t => t.keeping = x) (fun t => t.runState i ≠ .skipped) performed := by
  cases goes with
  | stands checking holds => exact .waits _ (Stage.verdict?_of_isChecking checking)
  | breaks f holds => exact .fails f _
  | answers holds => exact ends_afterCheck i holds

/-! ### How a confirmation ends -/

/-- A confirmation is in the check of a run, or is to begin with the check of the next one. -/
def ChecksRun (c i : Nat) (s : Session) : Prop :=
  ∃ k, s.confirmations[c]? = some k ∧
    (k.stage.isChecking i = true ∨ k.stage = .scheduled ∧ i = s.runs.length)

theorem runState_settle (c : Nat) (result : Except Fault Step) (s : Session) (i : Nat) :
    (s.settle c result).runState i = s.runState i := by
  rw [runState, runs_settle]
  rfl

theorem inside_of_verdict? {v : Verdict} (ended : s.verdict? c = some v) :
    c < s.confirmations.length := by
  obtain ⟨k, known, -⟩ := Option.bind_eq_some_iff.mp ended
  exact (List.getElem?_eq_some_iff.mp known).1

theorem length_confirmations_settle (c : Nat) (result : Except Fault Step) (s : Session) :
    (s.settle c result).confirmations.length = s.confirmations.length := by
  unfold settle
  split <;> exact List.length_set

/-- A dialog that a confirmation has closed, as the last thing it did. Until then, what a geometry is
kept by was as it had been in another dialog. -/
def ClosedBy (c : Nat) (accepted : Bool) (s o : Session) : Prop :=
  ∃ m, m.keeping = s.keeping ∧ ((close accepted).perform m).1 = .ok () ∧
    o = settle c (.ok (.returns accepted)) ((close accepted).perform m).2

/-- A confirmation with a result has closed the dialog, unless it was declined. -/
theorem Ends.closedBy {declined : Session → Prop} {performed : Except Fault Step × Session}
    (ends : Ends (fun t => t.keeping = s.keeping) declined performed) {accepted : Bool}
    (ended : (settle c performed.1 performed.2).verdict? c = some (.returned accepted))
    (undeclined : accepted = false → ¬ declined performed.2) :
    ClosedBy c accepted s (settle c performed.1 performed.2) := by
  have inside : c < performed.2.confirmations.length :=
    length_confirmations_settle c performed.1 _ ▸ inside_of_verdict? ended
  rw [verdict?_settle inside] at ended
  cases ends with
  | @closes m accepted' holds done =>
      obtain rfl : accepted' = accepted := by
        injection ended with same
        injection same
      exact ⟨m, holds, done, rfl⟩
  | declines holds =>
      injection ended with same
      injection same with same
      exact absurd holds (undeclined same.symm)
  | waits t pending => exact nomatch pending.symm.trans ended
  | fails f t => cases f <;> exact nomatch ended

/-- So has one that goes on with a check and has a result, unless the run was not skipped. -/
theorem closedBy_of_resume {accepted : Bool} {performed : Except Fault Step × Session}
    (resumed : s.resume c = settle c performed.1 performed.2)
    (ends : Ends (fun t => t.keeping = s.keeping) (fun t => t.runState i ≠ .skipped) performed)
    (ended : (s.resume c).verdict? c = some (.returned accepted))
    (skipped : accepted = false → (s.resume c).runState i = .skipped) :
    ClosedBy c accepted s (s.resume c) := by
  rw [resumed] at ended skipped ⊢
  refine ends.closedBy ended fun rejected unskipped => unskipped ?_
  exact (runState_settle c _ _ i).symm.trans (skipped rejected)

theorem tended_keeping (s : Session) : Tended fun t => t.keeping = s.keeping :=
  isUnselected_keeping.tended (fun _ _ => rfl) s.keeping

section

variable {cancelling accepted : Bool}

/-- A confirmation that ends as it begins has closed the dialog if it was accepted, or if the run
that it has made was skipped. -/
theorem closedBy_of_scheduled (known : s.confirmations[c]? = some { cancelling })
    (ended : (s.resume c).verdict? c = some (.returned accepted))
    (skipped : accepted = false → (s.resume c).runState s.runs.length = .skipped) :
    ClosedBy c accepted s (s.resume c) := by
  have inside := (List.getElem?_eq_some_iff.mp known).1
  -- A run that is yet to be made is not one that was skipped.
  have unmade (t : Session) (runs : t.runs = s.runs) : t.runState s.runs.length ≠ .skipped := by
    rw [runState, runs, List.getElem?_eq_none (Nat.le_refl _)]
    exact RunState.noConfusion
  cases cancelling with
  | true =>
      have called : (s.resume c).verdict? c = some .cancelled := by
        rw [resume, known]
        exact verdict?_setStage inside .cancelled
      cases called.symm.trans ended
  | false =>
      cases busy : s.confirming with
      | true =>
          rw [resume_of_busy known busy] at ended skipped
          have turned : (s.turnDown c).verdict? c = some (.returned false) :=
            verdict?_setStage inside (.returned false)
          injection ended.symm.trans turned with same
          injection same with rejected
          exact absurd (skipped rejected) (unmade _ rfl)
      | false =>
          have holds : ({ s with confirming := true } : Session).keeping = s.keeping := rfl
          refine closedBy_of_resume (resume_of_scheduled known busy) ?_ ended skipped
          rcases (tended_keeping s).beginConfirm holds with ⟨-, opens⟩ | goes
          · rw [opens]
            have unselected : IsUnselected fun t : Session => (t.keeping, t.runs) := fun _ _ => rfl
            have reviewed := ends_openReview unselected (fun _ _ => rfl)
              (s := { s with confirming := true }) rfl
            exact reviewed.imp (fun t holds => congrArg Prod.fst holds)
              fun t holds => unmade t (congrArg Prod.snd holds)
          · exact goes.ends

end

/-- A confirmation that is to close the dialog as it goes on: it ends, and the selection is accepted
or the run that it checks is skipped. -/
structure IsClosing (c : Nat) (accepted : Bool) (s : Session) : Prop where
  pending : s.verdict? c = none
  ends : (s.resume c).verdict? c = some (.returned accepted)
  skips : accepted = false → ∃ i, s.ChecksRun c i ∧ (s.resume c).runState i = .skipped

theorem IsClosing.closedBy {accepted : Bool} (closing : s.IsClosing c accepted) :
    ClosedBy c accepted s (s.resume c) := by
  obtain ⟨pending, ended, skipped⟩ := closing
  cases known : s.confirmations[c]? with
  | none =>
      rw [resume, known] at ended
      cases pending.symm.trans ended
  | some k =>
      have skips (rejected : accepted = false) : ∃ i, (k.stage.isChecking i = true ∨
          k.stage = .scheduled ∧ i = s.runs.length) ∧ (s.resume c).runState i = .skipped := by
        obtain ⟨i, ⟨k', known', checks⟩, skip⟩ := skipped rejected
        obtain rfl := Option.some.inj (known'.symm.trans known)
        exact ⟨i, checks, skip⟩
      have continues {i : Nat} (checking : k.stage.isChecking i = true) :
          ClosedBy c accepted s (s.resume c) := by
        refine closedBy_of_resume (resume_of_isChecking known checking)
          ((tended_keeping s).continueConfirm checking k.cancelling s rfl).ends ended
          fun rejected => ?_
        obtain ⟨j, checking' | ⟨scheduled, -⟩, skip⟩ := skips rejected
        · exact Stage.eq_of_isChecking checking' checking ▸ skip
        · rw [scheduled] at checking
          exact absurd checking Bool.false_ne_true
      obtain ⟨stage, cancelling⟩ := k
      cases stage with
      | scheduled =>
          refine closedBy_of_scheduled known ended fun rejected => ?_
          obtain ⟨j, checking | ⟨-, rfl⟩, skip⟩ := skips rejected
          · exact absurd checking Bool.false_ne_true
          · exact skip
      | surface j wait later => exact continues (beq_self_eq_true j)
      | abandoning j => exact continues (beq_self_eq_true j)
      | settling j => exact continues (beq_self_eq_true j)
      | reviewing box plan =>
          have resumed : s.resume c = settle c
              ((continueConfirm cancelling (.reviewing box plan)).perform s).1
              ((continueConfirm cancelling (.reviewing box plan)).perform s).2 := by
            rw [resume, known]
          rw [resumed] at ended ⊢
          have ends : Ends (fun t => t.keeping = s.keeping) (fun t => t.keeping = s.keeping)
              ((continueConfirm cancelling (.reviewing box plan)).perform s) := by
            cases cancelling with
            | true => exact .fails .cancelled s
            | false => exact ends_finishReview isUnselected_keeping box plan rfl
          refine ends.closedBy ended fun rejected => ?_
          obtain ⟨j, checking | ⟨scheduled, -⟩, -⟩ := skips rejected
          · exact absurd checking Bool.false_ne_true
          · cases scheduled
      | ended v =>
          rw [resume, known] at ended
          cases pending.symm.trans ended

/-! ### What survives -/

/-- A geometry survives the closing of a dialog. No setting but its own has changed, and any dialog
that comes up with the settings and the key gives it to its window. -/
structure Survives (bytes : List UInt8) (s o : Session) : Prop where
  others : o.otherSettings s.geometryKey = s.otherSettings s.geometryKey
  restores : ∀ t : Session, t.settings = o.settings → t.geometryKey = s.geometryKey →
    t.Restores bytes

/-- The geometry that a user interface answers with survives where the dialog is closed. -/
theorem survives_close {m o : Session} {text : String} {bytes : List UInt8} (accepted : Bool)
    (keyed : s.geometryKey = .str text) (used : (Value.str text).isTrue = true)
    (same : m.keeping = s.keeping) (answered : m.answer = .ok bytes)
    (closed : o.settings = ((close accepted).perform m).2.settings) : Survives bytes s o := by
  have settings : m.settings = s.settings := congrArg (·.1) same
  have key : m.geometryKey = s.geometryKey := congrArg (·.2.1) same
  have self : (Value.str text).isSameMember (.str text) = true := Value.isSameMember_str.mpr rfl
  have kept := closed.trans (settings_close (key.trans keyed) used answered accepted)
  refine ⟨?_, fun t given known => ?_⟩
  · rw [keyed, otherSettings, kept]
    refine (otherSettings_keepSetting self _ m).trans ?_
    rw [otherSettings, otherSettings, settings]
  · refine restores (known.trans keyed) used ?_
    exact (setting?_congr (given.trans kept) _).trans (setting?_keepSetting self _ m)

theorem settings_settle (c : Nat) (result : Except Fault Step) (s : Session) :
    (s.settle c result).settings = s.settings :=
  part_settle (fun _ _ _ => rfl) c result s

/-- However a dialog is closed, the geometry of its window survives: by its owner, whether or not the
user interface takes this well, and by a confirmation, which asks for the geometry as it closes the
dialog. -/
theorem survives_closing (keyed : s.config.geometrySaveKey = .null ∨
    ∃ text, s.config.geometrySaveKey = .str text) :
    (∀ accepted bytes, s.answer = .ok bytes →
      Survives bytes s ((close accepted).perform s).2) ∧
    ∀ c accepted, s.IsClosing c accepted → ∃ m bytes, m.keeping = s.keeping ∧
      m.answer = .ok bytes ∧
      s.resume c = settle c (.ok (.returns accepted)) ((close accepted).perform m).2 ∧
      Survives bytes s (s.resume c) := by
  obtain ⟨text, key, used⟩ := exists_geometryKey keyed
  constructor
  · intro accepted bytes answered
    exact survives_close accepted key used rfl answered rfl
  · intro c accepted closing
    obtain ⟨m, same, done, resumed⟩ := closing.closedBy
    have known : m.geometryKey = s.geometryKey := congrArg (·.2.1) same
    obtain ⟨bytes, answered⟩ := exists_answer (known.trans key) used done
    refine ⟨m, bytes, same, answered, resumed, ?_⟩
    refine survives_close accepted key used same answered ?_
    rw [resumed, settings_settle]

/-- A dialog with two settings, whose window is larger each time that something was noted. -/
def parlour : Session :=
  { lanterns with
    config := { checkDependencies := .bool false }
    settings := [(.str "ModDownloadGeometry", .str "b2xk"), (.str "theme", .str "dark")]
    ui := { geometry := fun events => [1, 2, 255, UInt8.ofNat events.length] }
    reviewPlan _ := {} }

/-- Its confirmation is accepted at once. The old geometry gives way to one of four bytes. -/
theorem survives_closing_parlour :
    parlour.request.2.config.geometrySaveKey = .null ∧
    parlour.request.2.answer = .ok [1, 2, 255, 1] ∧ parlour.request.2.IsClosing 0 true ∧
    ((parlour.request.2.resume 0).settings.map fun kv => (kv.1.text, kv.2.text)) =
      [("ModDownloadGeometry", "AQL/Ag=="), ("theme", "dark")] ∧
    Survives [1, 2, 255, 1] parlour.request.2 (reject.perform parlour.request.2).2 ∧
    ∃ bytes, Survives bytes parlour.request.2 (parlour.request.2.resume 0) := by
  have keyed : parlour.request.2.config.geometrySaveKey = .null := rfl
  have ended : (parlour.request.2.resume 0).verdict? 0 = some (.returned true) := by
    decide +kernel
  have closing : parlour.request.2.IsClosing 0 true := ⟨rfl, ended, fun same => nomatch same⟩
  obtain ⟨directly, confirmed⟩ := survives_closing (.inl keyed)
  obtain ⟨m, bytes, -, -, -, survives⟩ := confirmed 0 true closing
  exact ⟨keyed, rfl, closing, by decide +kernel, directly false _ rfl, bytes, survives⟩

end Session

end AddonPicker
