import AddonPicker.Proofs.Dialog.Steps
import AddonPicker.Proofs.Dialog.Tended

/-!
# What a dialog sustains

Anything may happen to a dialog at any time: packs are selected and deselected, pages are switched
and searched, confirmations are requested, go on and are cancelled, and runs take their steps. What
is upheld by the few kinds of steps that all of this is made of holds through every history, in
whatever order things happen and wherever a collaborator fails.

Some things hold only as long as certain versions are not handed in, or as long as runs hear nothing
but certain answers. Such a condition is one on the events of a history, each in its place.
-/

namespace AddonPicker

open Act

/-- A stage that hands in no version but those that may be handed in. -/
def Stage.IsHanded (handed : VersionId → Prop) (stage : Stage) : Prop :=
  ∀ box plan, stage = .reviewing box plan → plan.IsHanded handed

theorem Stage.isHanded_of_isChecking {handed : VersionId → Prop} {i : Nat} {stage : Stage}
    (checking : stage.isChecking i = true) : stage.IsHanded handed := by
  rintro box plan rfl
  exact absurd checking Bool.false_ne_true

theorem Stage.isUnderWay_of_isChecking {i : Nat} {stage : Stage}
    (checking : stage.isChecking i = true) : stage.isUnderWay = true := by
  cases stage with
  | scheduled => exact absurd checking Bool.false_ne_true
  | ended v => exact absurd checking Bool.false_ne_true
  | _ => rfl

/-- A piece of a workflow that is still under way where it waits, and hands in no version but those
that may be handed in. -/
def Step.Fits (handed : VersionId → Prop) (step : Step) : Prop :=
  ∀ stage, step = .waits stage → stage.isUnderWay = true ∧ stage.IsHanded handed

theorem Step.Answers.fits {handed : VersionId → Prop} {step : Step}
    (answers : step.Answers handed) : step.Fits handed := by
  rintro stage ⟨⟩
  cases answers with
  | reviews box fits =>
      refine ⟨rfl, ?_⟩
      rintro box plan ⟨⟩
      exact fits

namespace Session

section

variable {handed : VersionId → Prop} {J : Session → Prop} (tended : Tended J)
  (answered : Answered handed J)

include answered

theorem Goes.secured {i : Nat} {performed : Except Fault Step × Session}
    (goes : Goes J i performed) :
    J performed.2 ∧ ∀ step, performed.1 = .ok step → step.Fits handed := by
  cases goes with
  | stands checking holds =>
      refine ⟨holds, ?_⟩
      rintro step ⟨⟩ stage ⟨⟩
      exact ⟨Stage.isUnderWay_of_isChecking checking, Stage.isHanded_of_isChecking checking⟩
  | breaks f holds => exact ⟨holds, nofun⟩
  | answers holds => exact ((answered.afterCheck i).imp fun _ => Step.Answers.fits) _ holds

include tended

theorem secures_beginConfirm : Secures J (Step.Fits handed) beginConfirm := by
  intro s holds
  rcases tended.beginConfirm holds with ⟨-, opens⟩ | goes
  · rw [opens]
    exact (answered.openReview.imp fun _ => Step.Answers.fits) s holds
  · exact goes.secured answered

theorem secures_continueConfirm (cancelled : Bool) {stage : Stage} (fits : stage.IsHanded handed) :
    Secures J (Step.Fits handed) (continueConfirm cancelled stage) := by
  have checks {i : Nat} (checking : stage.isChecking i = true) :
      Secures J (Step.Fits handed) (continueConfirm cancelled stage) :=
    fun s holds => (tended.continueConfirm checking cancelled s holds).secured answered
  cases stage with
  | scheduled => exact secures_beginConfirm tended answered
  | reviewing box plan =>
      exact (answered.continueReview cancelled box (fits box plan rfl)).imp
        fun _ => Step.Answers.fits
  | ended v => exact secures_throw _
  | surface i wait later => exact checks (beq_self_eq_true i)
  | abandoning i => exact checks (beq_self_eq_true i)
  | settling i => exact checks (beq_self_eq_true i)

end

/-- What going on makes of a confirmation and its dialog, while something is upheld by the check. -/
inductive GoesOn (J : Session → Prop) (c : Nat) (s : Session) : Session → Prop
  /-- There is none, or it has ended. -/
  | stands : GoesOn J c s s
  /-- It ends before it begins. -/
  | turned {t : Session} (v : Verdict) (holds : J t) : GoesOn J c s (t.setStage c (.ended v))
  | opens (unchecked : s.newRun? = none) : GoesOn J c s
      (settle c (openReview.perform { s with confirming := true }).1
        (openReview.perform { s with confirming := true }).2)
  | checks {i : Nat} {performed : Except Fault Step × Session} (goes : Goes J i performed) :
      GoesOn J c s (settle c performed.1 performed.2)
  | reviews {cancelling : Bool} {box : ReviewBox} {plan : ReviewPlan}
      (known : s.confirmations[c]? = some { stage := .reviewing box plan, cancelling }) :
      GoesOn J c s
        (settle c ((continueConfirm cancelling (.reviewing box plan)).perform s).1
          ((continueConfirm cancelling (.reviewing box plan)).perform s).2)

theorem GoesOn.imp {J K : Session → Prop} (imp : ∀ s, J s → K s) {c : Nat} {s o : Session}
    (goes : GoesOn J c s o) : GoesOn K c s o := by
  cases goes with
  | stands => exact .stands
  | turned v holds => exact .turned v (imp _ holds)
  | opens unchecked => exact .opens unchecked
  | checks goes => exact .checks (goes.imp imp)
  | reviews known => exact .reviews known

theorem Tended.goesOn {J : Session → Prop} {s : Session} (tended : Tended J) (c : Nat) (holds : J s)
    (confirming : J { s with confirming := true }) : GoesOn J c s (s.resume c) := by
  cases known : s.confirmations[c]? with
  | none =>
      rw [resume, known]
      exact .stands
  | some k =>
      have continues {i : Nat} (checking : k.stage.isChecking i = true) :
          GoesOn J c s (s.resume c) := by
        rw [resume_of_isChecking known checking]
        exact .checks (tended.continueConfirm checking k.cancelling s holds)
      obtain ⟨stage, cancelling⟩ := k
      cases stage with
      | scheduled =>
          cases cancelling with
          | true =>
              rw [resume, known]
              exact .turned .cancelled holds
          | false =>
              cases busy : s.confirming with
              | true =>
                  rw [resume_of_busy known busy]
                  exact .turned _ (tended.say _ _ s holds)
              | false =>
                  rw [resume_of_scheduled known busy]
                  rcases tended.beginConfirm confirming with ⟨unchecked, opens⟩ | goes
                  · rw [opens]
                    exact .opens unchecked
                  · exact .checks goes
      | surface i wait later => exact continues (beq_self_eq_true i)
      | abandoning i => exact continues (beq_self_eq_true i)
      | settling i => exact continues (beq_self_eq_true i)
      | reviewing box plan =>
          rw [resume, known]
          exact .reviews known
      | ended v =>
          rw [resume, known]
          exact .stands

/-- What every step upholds by which pages are switched. -/
structure Browsed (J : Session → Prop) : Prop where
  say : ∀ level message, Keeps J (Journaled.say level message)
  search : ∀ page term, Keeps J (search page term)
  shown : ∀ s shown, J s → J { s with shown }
  container : ∀ s container, J s → J { s with container }

namespace Browsed

variable {J : Session → Prop} (browsed : Browsed J)

include browsed

theorem sayForeign (name : Value) : Keeps J (sayForeign name) :=
  keeps_get_bind fun _ => browsed.say _ _

theorem pageChanged (previous selected : PageRef) : Keeps J (pageChanged previous selected) := by
  cases previous with
  | foreign id name => exact browsed.sayForeign name
  | own i =>
      cases selected with
      | foreign id name => exact browsed.sayForeign name
      | own j =>
          have shown : Keeps J (modify fun s => { s with shown := some j }) :=
            keeps_modify fun s => browsed.shown s (some j)
          refine shown.bind fun _ => keeps_get_bind fun s => ?_
          split
          · exact browsed.search j _
          · exact keeps_pure ()

theorem selectPage (id : Value) : Keeps J (selectPage id) := by
  refine keeps_get_bind fun s => ?_
  have switched : Keeps J (modify fun now => { now with container := (s.container.select id).2 }) :=
    keeps_modify fun now => browsed.container now _
  refine switched.bind fun _ => ?_
  split
  · exact keeps_pure _
  · exact keeps_pure _
  · exact (browsed.pageChanged _ _).bind fun _ => keeps_pure _

omit browsed in
/-- What is upheld severally is upheld together. -/
theorem and {K : Session → Prop} (browsed : Browsed J) (browsed' : Browsed K) :
    Browsed fun s => J s ∧ K s where
  say level message := (browsed.say level message).and (browsed'.say level message)
  search page term := (browsed.search page term).and (browsed'.search page term)
  shown s page holds := ⟨browsed.shown s page holds.1, browsed'.shown s page holds.2⟩
  container s pages holds :=
    ⟨browsed.container s pages holds.1, browsed'.container s pages holds.2⟩

end Browsed

end Session

/-- Something that happens to a dialog. -/
inductive DialogEvent
  | add (pack : Pack) (version : VersionId) (indexed : Value)
  | remove (pack : Pack) (version : VersionId)
  /-- A version is selected on the page at a position. -/
  | pick (page : Nat) (pack : Pack) (version : VersionId)
  | selectPage (id : Value)
  | pageChanged (previous selected : PageRef)
  | search (page : Nat) (term : Value)
  /-- A confirmation is requested. -/
  | request
  /-- Something happens to a confirmation and a run, which are given by position. -/
  | confirm (confirmation run : Nat) (e : ConfirmEvent)

namespace Session

/-- What an event makes of a dialog, whether or not an operation fails. -/
def react (s : Session) : DialogEvent → Session
  | .add pack version indexed => ((add pack version indexed).perform s).2
  | .remove pack version => ((remove pack version).perform s).2
  | .pick page pack version => ((pick page pack version).perform s).2
  | .selectPage id => ((selectPage id).perform s).2
  | .pageChanged previous selected => ((pageChanged previous selected).perform s).2
  | .search page term => ((search page term).perform s).2
  | .request => s.request.2
  | .confirm c i e => s.undergo c i e

/-- What events make of a dialog, one after the other. -/
def through (s : Session) (events : List DialogEvent) : Session :=
  events.foldl react s

/-- Each event is admitted where it happens. -/
def Admits (admits : Session → DialogEvent → Prop) : List DialogEvent → Session → Prop
  | [], _ => True
  | e :: later, s => admits s e ∧ Admits admits later (s.react e)

instance decidableAdmits {admits : Session → DialogEvent → Prop}
    [∀ s, DecidablePred (admits s)] :
    (events : List DialogEvent) → (s : Session) → Decidable (s.Admits admits events)
  | [], _ => isTrue trivial
  | e :: later, s =>
    haveI : Decidable (Admits admits later (s.react e)) := decidableAdmits later (s.react e)
    inferInstanceAs (Decidable (admits s e ∧ Admits admits later (s.react e)))

/-- What is sustained by every step that a dialog takes. Versions are handed in only if they may be,
and a run takes only steps on what it may hear. -/
structure Sustained (handed : VersionId → Prop) (heard : Session → Nat → RunMove → Prop)
    (J : Session → Prop) : Prop extends Answered handed J where
  adopt : ∀ s run, s.newRun? = some run → J s → J ((Owner.adopt (handled run)).perform s).2
  start : ∀ i, Keeps J (Owner.start i)
  abort : ∀ i, Keeps J (Owner.abort i)
  move : ∀ s i m, heard s i m → J s → J ((Host.transition i m.apply).perform s).2
  lookup : ∀ l, Keeps J (Journaled.noteLookup l)
  pick : ∀ page pack version, handed version → Keeps J (pick page pack version)
  search : ∀ page term, Keeps J (search page term)
  shown : ∀ s shown, J s → J { s with shown }
  container : ∀ s container, J s → J { s with container }
  confirming : ∀ s confirming, J s → J { s with confirming }
  confirmations : ∀ s ks, (∀ k ∈ ks, k.stage.IsHanded handed) → J s →
    J { s with confirmations := ks }
  stages : ∀ s, J s → ∀ k ∈ s.confirmations, k.stage.IsHanded handed

/-- The events at which only versions are handed in that may be, and a run takes only steps on what
it may hear. -/
def IsFit (handed : VersionId → Prop) (heard : Session → Nat → RunMove → Prop) (s : Session) :
    DialogEvent → Prop
  | .add _ version _ => handed version
  | .remove _ version => handed version
  | .pick _ _ version => handed version
  | .confirm _ i (.check (.move m)) => heard s i m
  | _ => True

instance {handed : VersionId → Prop} {heard : Session → Nat → RunMove → Prop}
    [DecidablePred handed] [∀ s i, DecidablePred (heard s i)] (s : Session) :
    DecidablePred (s.IsFit handed heard) := fun e => by
  unfold IsFit
  split <;> infer_instance

/-- What is admitted wherever it happens is admitted in its place. -/
theorem admits_of_forall {admits : Session → DialogEvent → Prop} {events : List DialogEvent}
    (each : ∀ e ∈ events, ∀ s, admits s e) (s : Session) : s.Admits admits events := by
  induction events generalizing s with
  | nil => trivial
  | cons e later ih =>
      exact ⟨each e List.mem_cons_self s,
        ih (fun e among => each e (List.mem_cons_of_mem _ among)) _⟩

theorem admits_append {admits : Session → DialogEvent → Prop} {before later : List DialogEvent}
    {s : Session} :
    s.Admits admits (before ++ later) ↔
      s.Admits admits before ∧ (s.through before).Admits admits later := by
  induction before generalizing s with
  | nil => exact ⟨fun admitted => ⟨trivial, admitted⟩, And.right⟩
  | cons e before ih => exact (and_congr_right fun _ => ih).trans and_assoc.symm

namespace Sustained

variable {handed : VersionId → Prop} {heard : Session → Nat → RunMove → Prop}
  {J : Session → Prop} {s : Session} (sustained : Sustained handed heard J)

include sustained

theorem tended : Tended J where
  say := sustained.say
  note e other _ := sustained.note e other
  adopt := sustained.adopt
  start := sustained.start
  abort := sustained.abort

theorem setStage (c : Nat) {stage : Stage} (fits : stage.IsHanded handed) (holds : J s) :
    J (s.setStage c stage) := by
  refine sustained.confirmations s _ (fun k among => ?_) holds
  rcases List.mem_or_eq_of_mem_set among with before | rfl
  · exact sustained.stages s holds k before
  · exact fits

theorem setStage_ended (c : Nat) (v : Verdict) (holds : J s) : J (s.setStage c (.ended v)) :=
  sustained.setStage c nofun holds

/-- A result is taken over that leads to where a confirmation may wait. -/
theorem settle (c : Nat) {performed : Except Fault Step × Session}
    (secured : J performed.2 ∧ ∀ step, performed.1 = .ok step → step.Fits handed) :
    J (settle c performed.1 performed.2) := by
  obtain ⟨result, t⟩ := performed
  obtain ⟨holds, fits⟩ := secured
  have ends (v : Verdict) : J (t.endConfirm c v) :=
    sustained.confirming _ false (sustained.setStage_ended c v holds)
  cases result with
  | ok step =>
      cases step with
      | waits stage => exact sustained.setStage c (fits _ rfl stage rfl).2 holds
      | returns accepted => exact ends _
  | error f => cases f <;> exact ends _

theorem turnDown (c : Nat) (holds : J s) : J (s.turnDown c) :=
  sustained.setStage_ended c _ (sustained.say _ _ s holds)

theorem resume (c : Nat) (holds : J s) : J (s.resume c) := by
  unfold Session.resume
  split
  · exact holds
  · exact holds
  · split
    · exact sustained.setStage_ended c _ holds
    · split
      · exact sustained.turnDown c holds
      · exact sustained.settle c (secures_beginConfirm sustained.tended sustained.toAnswered _
          (sustained.confirming s true holds))
  · rename_i known
    exact sustained.settle c (secures_continueConfirm sustained.tended sustained.toAnswered _
      (sustained.stages s holds _ (List.mem_of_getElem? known)) s holds)

theorem cancel (c : Nat) (holds : J s) : J (s.cancel c).2 := by
  unfold Session.cancel
  split
  · exact holds
  · exact holds
  · rename_i k _ known
    refine sustained.confirmations s _ (fun k' among => ?_) holds
    rcases List.mem_or_eq_of_mem_set among with before | rfl
    · exact sustained.stages s holds k' before
    · exact sustained.stages s holds k (List.mem_of_getElem? known)

theorem request (holds : J s) : J s.request.2 := by
  refine sustained.confirmations s _ (fun k among => ?_) holds
  rcases List.mem_append.mp among with before | new
  · exact sustained.stages s holds k before
  · rw [List.mem_singleton.mp new]
    exact nofun

theorem browsed : Browsed J where
  say := sustained.say
  search := sustained.search
  shown := sustained.shown
  container := sustained.container

theorem undergo (c i : Nat) {e : ConfirmEvent} (fit : s.IsFit handed heard (.confirm c i e))
    (holds : J s) : J (s.undergo c i e) := by
  cases e with
  | cancel => exact sustained.cancel c holds
  | check e =>
      cases e with
      | resume =>
          show J (if s.isReady c then s.resume c else s)
          split
          · exact sustained.resume c holds
          · exact holds
      | abort => exact sustained.abort i s holds
      | move m => exact sustained.move s i m fit holds
      | lookup l => exact sustained.lookup l s holds

/-- Whatever happens to a dialog, what it sustains holds after it. -/
theorem react {e : DialogEvent} (fit : s.IsFit handed heard e) (holds : J s) : J (s.react e) := by
  cases e with
  | add pack version indexed => exact sustained.add pack version indexed fit s holds
  | remove pack version => exact sustained.remove pack version fit s holds
  | pick page pack version => exact sustained.pick page pack version fit s holds
  | selectPage id => exact sustained.browsed.selectPage id s holds
  | pageChanged previous selected => exact sustained.browsed.pageChanged previous selected s holds
  | search page term => exact sustained.search page term s holds
  | request => exact sustained.request holds
  | confirm c i e => exact sustained.undergo c i fit holds

/-- It holds through every history whose events are fit for it. -/
theorem through {events : List DialogEvent} (fit : s.Admits (IsFit handed heard) events)
    (holds : J s) : J (s.through events) := by
  induction events generalizing s with
  | nil => exact holds
  | cons e later ih =>
      obtain ⟨first, rest⟩ := fit
      exact ih rest (sustained.react first holds)

end Sustained

end Session

end AddonPicker
