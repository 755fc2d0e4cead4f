import AddonPicker.Proofs.Dialog.Way

/-!
# What a check upholds

Until the answer to a check is due, a confirmation writes into the journal, it takes on a run, and
it starts and aborts runs. Whatever these uphold is upheld wherever the check stops: it stands where
it waits for its run, it fails, or it goes on to the answer. This is so for a dialog in any state,
in which any number of other runs and confirmations may be about.

The calls by which a check is answered are none of its own, so they are left out of what the journal
is asked for.
-/

namespace AddonPicker

/-- Whether a call belongs to the answer to a check: it presents the selection, closes the dialog or
asks for what is kept of it. -/
def UiCall.isAnswer : UiCall → Bool
  | .execReview _ => true
  | .accept => true
  | .reject => true
  | .saveGeometry => true
  | _ => false

/-- Whether an event is a call that belongs to the answer to a check. -/
def Event.isAnswer : Event → Bool
  | .ui call => call.isAnswer
  | _ => false

namespace Session

open Act

/-- What every step upholds of which an announcement is made. -/
structure Announces (J : Session → Prop) : Prop where
  say : ∀ level message, Keeps J (Journaled.say level message)
  note : ∀ e : Event, e.isButton = false → e.isAnswer = false → Keeps J (Journaled.note e)

/-- What every step upholds of which a check is made. -/
structure Tended (J : Session → Prop) : Prop extends Announces J where
  adopt : ∀ s run, s.newRun? = some run → J s → J ((Owner.adopt (handled run)).perform s).2
  start : ∀ i, Keeps J (Owner.start i)
  abort : ∀ i, Keeps J (Owner.abort i)

/-- How the check of a run goes on, which is given by position, while something is upheld. -/
inductive Goes (J : Session → Prop) (i : Nat) : Except Fault Step × Session → Prop
  | stands {t : Session} {stage : Stage} (checking : stage.isChecking i = true) (holds : J t) :
      Goes J i (.ok (.waits stage), t)
  | breaks {t : Session} (f : Fault) (holds : J t) : Goes J i (.error f, t)
  | answers {t : Session} (holds : J t) : Goes J i ((afterCheck i).perform t)

theorem Goes.imp {J K : Session → Prop} (imp : ∀ s, J s → K s) {i : Nat}
    {performed : Except Fault Step × Session} (goes : Goes J i performed) :
    Goes K i performed := by
  cases goes with
  | stands checking holds => exact .stands checking (imp _ holds)
  | breaks f holds => exact .breaks f (imp _ holds)
  | answers holds => exact .answers (imp _ holds)

/-- A piece of a workflow takes the check of a run on. -/
def TakesOn (J : Session → Prop) (i : Nat) (a : Act Session Step) : Prop :=
  ∀ s, J s → Goes J i (a.perform s)

variable {J : Session → Prop} {i : Nat} {α : Type}

theorem takesOn_throw (f : Fault) : TakesOn J i (throw f) :=
  fun _ holds => .breaks f holds

theorem takesOn_afterCheck : TakesOn J i (afterCheck i) :=
  fun _ holds => .answers holds

theorem TakesOn.bind {a : Act Session α} {f : α → Act Session Step} (first : Keeps J a)
    (later : ∀ x, TakesOn J i (f x)) : TakesOn J i (a >>= f) :=
  fun _ => first.bind_of (fun _ _ => .breaks _) later

/-- Waiting for a run is allowed or not, and changes nothing. -/
theorem keeps_requireStarted (i : Nat) : Keeps J (Owner.requireStarted i : Act Session Unit) := by
  refine keeps_get_bind fun s => ?_
  split
  · split
    · exact keeps_throw _
    · exact keeps_pure ()
  · exact keeps_throw _

/-- Starting a run is putting it in its place, if anything. -/
theorem keeps_start {i : Nat} (started : ∀ s r r', s.runs[i]? = some r → r.start = .ok r' → J s →
    J { s with runs := s.runs.set i r' }) : Keeps J (Owner.start i : Act Session Unit) := by
  intro s holds
  rw [Owner.start, perform_bind, perform_get]
  dsimp only
  cases known : Owner.run? s i with
  | none => exact holds
  | some r =>
      dsimp only
      rw [perform_bind, perform_check]
      cases begun : r.start with
      | error f => exact holds
      | ok r' => exact started s r r' known begun holds

/-- Aborting a run is putting it in its place and saying so, if anything. -/
theorem keeps_abort {i : Nat} (say : ∀ level message, Keeps J (Journaled.say level message))
    (aborted : ∀ s r, s.runs[i]? = some r → J s → J { s with runs := s.runs.set i r.abort.2 }) :
    Keeps J (Owner.abort i : Act Session Bool) := by
  intro s holds
  rw [Owner.abort, perform_bind, perform_get]
  dsimp only
  cases known : Owner.run? s i with
  | none => exact holds
  | some r =>
      have put (s : Session) (known : s.runs[i]? = some r) (holds : J s) :
          J ((Owner.setRun i r.abort.2 >>= fun _ => pure r.abort.1 :
            Act Session Bool).perform s).2 := aborted s r known holds
      dsimp only
      split
      · exact put _ known (say _ _ s holds)
      · exact put s known holds

/-- Whatever run is put in its place. -/
theorem keeps_start_of_setRun (setRun : ∀ i r, Keeps J (Owner.setRun i r : Act Session Unit))
    (i : Nat) : Keeps J (Owner.start i : Act Session Unit) :=
  keeps_start fun s _ r' _ _ holds => setRun i r' s holds

theorem keeps_abort_of_setRun (say : ∀ level message, Keeps J (Journaled.say level message))
    (setRun : ∀ i r, Keeps J (Owner.setRun i r : Act Session Unit)) (i : Nat) :
    Keeps J (Owner.abort i : Act Session Bool) :=
  keeps_abort say fun s r _ holds => setRun i r.abort.2 s holds

/-- A part of a dialog that is neither the selection nor the runs is left alone. -/
theorem IsUnselected.tended {ι : Type} {part : Session → ι} (unselected : IsUnselected part)
    (runs : ∀ runs s, part { s with runs } = part s) (x : ι) : Tended fun s => part s = x where
  say _ _ := leaves_iff.mp (unselected.edit _) x
  note _ _ _ := leaves_iff.mp (unselected.edit _) x
  adopt s _ _ holds := (runs _ s).trans holds
  start := keeps_start_of_setRun fun _ _ => keeps_modify fun s holds => (runs _ s).trans holds
  abort := keeps_abort_of_setRun (fun _ _ => leaves_iff.mp (unselected.edit _) x) fun _ _ =>
    keeps_modify fun s holds => (runs _ s).trans holds

theorem IsAside.tended {ι : Type} {part : Session → ι} (aside : IsAside part)
    (runs : ∀ runs s, part { s with runs } = part s) (x : ι) : Tended fun s => part s = x :=
  aside.isUnselected.tended runs x

/-- So is the selection, but for its journal. -/
theorem tended_selection (sel : Selection) :
    Tended fun s => Journaled.setJournal {} s.selection = Journaled.setJournal {} sel where
  say := (spoken_selection sel).say
  note e other _ := (spoken_selection sel).note e other
  adopt _ _ _ holds := holds
  start := keeps_start_of_setRun fun _ _ => keeps_modify fun _ holds => holds
  abort := keeps_abort_of_setRun (spoken_selection sel).say fun _ _ =>
    keeps_modify fun _ holds => holds

/-- What is upheld severally is upheld together. -/
theorem Tended.and {K : Session → Prop} (tended : Tended J) (tended' : Tended K) :
    Tended fun s => J s ∧ K s where
  say level message := (tended.say level message).and (tended'.say level message)
  note e other unlike := (tended.note e other unlike).and (tended'.note e other unlike)
  adopt s run checks holds :=
    ⟨tended.adopt s run checks holds.1, tended'.adopt s run checks holds.2⟩
  start i := (tended.start i).and (tended'.start i)
  abort i := (tended.abort i).and (tended'.abort i)

namespace Announces

variable (announces : Announces J)

include announces

/-- Handlers show something, and change nothing. -/
theorem invoke (i : Nat) (h : DialogHandler) (n : Notice) : Keeps J (invoke i h n) := by
  cases h with
  | showError => exact keeps_callUi (announces.note _ rfl rfl)
  | showWarnings =>
      have shown (warnings : List String) : Keeps J (if !warnings.isEmpty then
          callUi (.showWarnings "Warnings" ("\n".intercalate warnings)) else pure ()) := by
        split
        · exact keeps_callUi (announces.note _ rfl rfl)
        · exact keeps_pure ()
      exact keeps_get_bind fun s => shown _

theorem perform (i : Nat) (effects : List (Effect DialogHandler)) :
    Keeps J (Host.perform i effects : Act Session Unit) := by
  induction effects with
  | nil => exact keeps_pure ()
  | cons effect later ih =>
      cases effect with
      | log level message => exact (announces.say _ _).bind fun _ => ih
      | notify handler notice =>
          refine (announces.invoke i handler notice).outcome.bind fun result => ?_
          split
          · exact ih
          · exact keeps_pure ()
          · exact (announces.say _ _).bind fun _ => ih

/-- A transition of a run puts the next run in its place, twice, and performs effects meanwhile. -/
theorem transition {f : Run DialogHandler → Run DialogHandler × List (Effect DialogHandler)}
    {s : Session} (holds : J s)
    (set : ∀ r, s.runs[i]? = some r → J { s with runs := s.runs.set i (f r).1 })
    (close : ∀ s, J s → J { s with runs := s.runs.modify i Run.close }) :
    J ((Host.transition i f : Act Session Unit).perform s).2 := by
  rw [Host.transition, perform_bind, perform_get]
  dsimp only
  cases known : Owner.run? s i with
  | none => exact holds
  | some r =>
      have later := (announces.perform i (f r).2).bind (f := fun _ => _)
        fun _ => keeps_modify (f := fun s => { s with runs := s.runs.modify i Run.close }) close
      exact later _ (set r known)

end Announces

/-- A transition takes one run on and leaves all others alone, whatever the handlers do. -/
theorem runs_transition (i : Nat) (f : Run DialogHandler → Run DialogHandler × List (Effect _))
    (s : Session) :
    ((Host.transition i f).perform s).2.runs = s.runs.modify i fun r => (f r).1.close := by
  cases known : s.runs[i]? with
  | none =>
      have none_ : Owner.run? s i = none := known
      rw [Host.transition, perform_bind, perform_get, List.modify_eq_self
        (List.getElem?_eq_none_iff.mp known)]
      dsimp only
      rw [none_]
      rfl
  | some r =>
      have announces : Announces fun t => t.runs = s.runs.set i (f r).1 :=
        ⟨(isAside_runs.upheld _).say, fun e other _ => (isAside_runs.upheld _).note e other⟩
      have same : Owner.runs ((Host.perform i (f r).2).perform
          ((Owner.setRun i (f r).1).perform s).2).2 = s.runs.set i (f r).1 :=
        announces.perform i (f r).2 ((Owner.setRun i (f r).1).perform s).2 rfl
      have here : Owner.run? s i = some r := known
      rw [Host.perform_transition here]
      show List.modify _ i Run.close = _
      rw [same, set_eq_modify known fun r => (f r).1]
      exact List.modify_modify_eq _ _ i s.runs

namespace Tended

variable (tended : Tended J)

include tended

theorem surfaceMoves (i : Nat) (moves : List SurfaceMove) : Keeps J (surfaceMoves i moves) := by
  induction moves with
  | nil => exact keeps_pure _
  | cons m later ih =>
      cases m with
      | start => exact (tended.start i).bind fun _ => ih
      | startIfIdle =>
          refine keeps_get_bind fun s => ?_
          split
          · exact (tended.start i).bind fun _ => ih
          · exact ih
      | abort shown =>
          refine (tended.abort i).bind fun answer => ?_
          split
          · exact (tended.note _ rfl rfl).bind fun _ => ih
          · exact ih
      | pause => exact keeps_pure _
      | await => exact (keeps_requireStarted i).bind fun _ => keeps_pure _
      | close result => exact keeps_pure _
      | closeByOutcome => exact keeps_get_bind fun _ => keeps_pure _
      | fail f => exact keeps_throw f

/-- The run is aborted, and its end is waited for. -/
theorem windUp {stage : Stage} (checking : stage.isChecking i = true) : TakesOn J i (do
    let _ ← Owner.abort i
    Owner.requireStarted i
    return Step.waits stage) :=
  .bind (tended.abort i) fun _ => .bind (keeps_requireStarted i) fun _ _ holds =>
    .stands checking holds

theorem afterSurface (i : Nat) : TakesOn J i (afterSurface i) := by
  refine .bind keeps_get fun s => ?_
  split
  · exact takesOn_afterCheck
  · exact tended.windUp (beq_self_eq_true i)

theorem abandon (i : Nat) : TakesOn J i (abandon i) :=
  tended.windUp (beq_self_eq_true i)

theorem inSurface (i : Nat) (moves : List SurfaceMove) : TakesOn J i (inSurface i moves) := by
  refine .bind (tended.surfaceMoves i moves).outcome fun result => ?_
  split
  · exact fun _ holds => .stands (beq_self_eq_true i) holds
  · refine .bind keeps_get fun s => ?_
    dsimp only
    split
    · exact .bind (tended.note _ rfl rfl) fun _ => tended.afterSurface i
    · exact tended.afterSurface i
  · exact tended.abandon i
  · exact takesOn_throw _

/-- A confirmation begins with a check of a new run, or with the review. -/
theorem beginConfirm {s : Session} (holds : J s) :
    (s.newRun? = none ∧ beginConfirm.perform s = openReview.perform s) ∨
      Goes J s.runs.length (beginConfirm.perform s) := by
  rw [Session.beginConfirm, perform_bind, perform_get]
  dsimp only
  cases checks : s.newRun? with
  | none => exact .inl ⟨rfl, rfl⟩
  | some run =>
      have comes (i : Nat) : TakesOn J i (comeUp i) := by
        refine .bind keeps_get fun s => ?_
        refine .bind (keeps_failOn _) fun _ => ?_
        dsimp only
        split
        · exact .bind (tended.note _ rfl rfl) fun _ => tended.inSurface i _
        · exact tended.inSurface i _
      exact .inr (comes s.runs.length _ (tended.adopt s run checks holds))

/-- A confirmation in a check goes on with it. -/
theorem continueConfirm {stage : Stage} (checking : stage.isChecking i = true)
    (cancelled : Bool) : TakesOn J i (continueConfirm cancelled stage) := by
  cases stage with
  | surface j wait later =>
      obtain rfl := eq_of_beq checking
      rw [Session.continueConfirm]
      split
      · exact tended.abandon j
      · exact tended.inSurface j later
  | abandoning j => exact takesOn_throw _
  | settling j =>
      obtain rfl := eq_of_beq checking
      rw [Session.continueConfirm]
      split
      · exact takesOn_throw _
      · exact takesOn_afterCheck
  | _ => exact absurd checking Bool.false_ne_true

end Tended

end Session

end AddonPicker
