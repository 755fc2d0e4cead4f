import AddonPicker.Proofs.Dialog.Lasting
import AddonPicker.Proofs.Dialog.Outcome

/-!
# One confirmation at a time

A dialog remembers whether a confirmation is under way, and turns down any other one that wants to
begin meanwhile. Nothing but the beginning and the end of a confirmation touches what it remembers,
and every end does: so it is right at all times, through whatever order of requests, answers,
failures and cancellations. A request that is turned down leaves nothing behind but its own answer
and a record in the log.
-/

namespace AddonPicker.Session

open Act

/-- The confirmations of a dialog, and whether it takes one to be under way. -/
def guard (s : Session) : List Confirmation × Bool :=
  (s.confirmations, s.confirming)

theorem isOutside_guard : IsOutside guard where
  selection _ _ := rfl
  settings _ _ := rfl
  reviews _ _ := rfl
  runs _ _ := rfl
  shown _ _ := rfl
  container _ _ := rfl

/-- How many confirmations are under way. -/
def underWay (s : Session) : Nat :=
  s.confirmations.countP (·.stage.isUnderWay)

/-- A dialog takes a confirmation to be under way exactly if one is, and no other one is then. -/
def IsGuarded (s : Session) : Prop :=
  s.underWay = s.confirming.toNat

variable {s t : Session} {c : Nat} {k : Confirmation}

theorem IsGuarded.of_guard (guarded : s.IsGuarded) (same : t.guard = s.guard) : t.IsGuarded := by
  obtain ⟨confirmations, confirming⟩ := Prod.mk.inj same
  rw [IsGuarded, underWay, confirmations, confirming]
  exact guarded

/-- Putting a confirmation in the place of another one changes the number by these two. -/
theorem countP_set (known : s.confirmations[c]? = some k) (k' : Confirmation) :
    (s.confirmations.set c k').countP (·.stage.isUnderWay) + k.stage.isUnderWay.toNat =
      s.underWay + k'.stage.isUnderWay.toNat := by
  obtain ⟨inside, rfl⟩ := List.getElem?_eq_some_iff.mp known
  have counted := List.countP_set (p := fun k : Confirmation => k.stage.isUnderWay) (a := k') inside
  have positive : s.confirmations[c].stage.isUnderWay = true → 0 < s.underWay := fun here =>
    List.countP_pos_iff.mpr ⟨_, List.getElem_mem inside, here⟩
  rw [counted, ← underWay]
  cases before : s.confirmations[c].stage.isUnderWay with
  | false => cases after : k'.stage.isUnderWay <;> simp
  | true =>
      have positive := positive before
      cases after : k'.stage.isUnderWay <;> simp <;> omega

/-- No two confirmations are under way. -/
theorem IsGuarded.alone (guarded : s.IsGuarded) {c' : Nat} {k' : Confirmation}
    (known : s.confirmations[c]? = some k) (known' : s.confirmations[c']? = some k')
    (under : k.stage.isUnderWay = true) (under' : k'.stage.isUnderWay = true) : c = c' := by
  refine Decidable.byContradiction fun other => ?_
  -- Without the one, the other would still be counted.
  have counted := countP_set known {}
  have still : 0 < (s.confirmations.set c {}).countP (·.stage.isUnderWay) := by
    refine List.countP_pos_iff.mpr ⟨k', List.mem_of_getElem? (i := c') ?_, under'⟩
    rw [List.getElem?_set_ne other]
    exact known'
  rw [under, guarded] at counted
  have most := Bool.toNat_le s.confirming
  have none_ : ({} : Confirmation).stage.isUnderWay.toNat = 0 := rfl
  rw [none_, Bool.toNat_true] at counted
  omega

/-- A dialog that is guarded takes a confirmation to be under way if one is. -/
theorem IsGuarded.confirming_iff (guarded : s.IsGuarded) :
    s.confirming = true ↔ ∃ k ∈ s.confirmations, k.stage.isUnderWay = true := by
  rw [← List.countP_pos_iff (p := fun k : Confirmation => k.stage.isUnderWay)]
  have same : s.confirmations.countP (·.stage.isUnderWay) = s.confirming.toNat := guarded
  rw [same]
  cases s.confirming <;> simp

/-- A confirmation that changes without beginning or ending leaves a dialog guarded. -/
theorem IsGuarded.set (guarded : s.IsGuarded) (known : s.confirmations[c]? = some k)
    {k' : Confirmation} (same : k'.stage.isUnderWay = k.stage.isUnderWay) :
    ({ s with confirmations := s.confirmations.set c k' } : Session).IsGuarded := by
  have counted := countP_set known k'
  rw [same, Nat.add_right_cancel_iff] at counted
  exact counted.trans guarded

/-- When a piece of the workflow comes to its end, its confirmation goes on to be the only one under
way, or no one is under way any more. -/
theorem isGuarded_settle {result : Except Fault Step} (known : t.confirmations[c]? = some k)
    (busy : t.confirming = true) (others : t.underWay = k.stage.isUnderWay.toNat)
    (fits : ∀ step, result = .ok step → step.Fits fun _ => True) :
    (settle c result t).IsGuarded := by
  have ends (v : Verdict) : (t.endConfirm c v).IsGuarded := by
    have counted := countP_set known ((Stage.ended v : Stage) : Confirmation)
    rw [others, Nat.add_comm, Nat.add_left_cancel_iff] at counted
    exact counted
  cases result with
  | ok step =>
      cases step with
      | waits stage =>
          have counted := countP_set known (stage : Confirmation)
          rw [others, Nat.add_comm, Nat.add_left_cancel_iff] at counted
          have under : stage.isUnderWay = true := (fits _ rfl stage rfl).1
          show _ = t.confirming.toNat
          rw [busy]
          exact counted.trans (congrArg Bool.toNat under)
      | returns accepted => exact ends _
  | error f => cases f <;> exact ends _

/-- A piece of the workflow leaves a dialog guarded if its confirmation was the only one under way,
or no other one was when it began. -/
theorem isGuarded_settle_perform {a : Act Session Step}
    (secures : ∀ x, Secures (fun s => guard s = x) (Step.Fits fun _ => True) a)
    (known : s.confirmations[c]? = some k) (busy : s.confirming = true)
    (others : s.underWay = k.stage.isUnderWay.toNat) :
    (settle c (a.perform s).1 (a.perform s).2).IsGuarded := by
  obtain ⟨kept, fits⟩ := secures s.guard s rfl
  generalize a.perform s = performed at kept fits
  obtain ⟨confirmations, confirming⟩ := Prod.mk.inj kept
  refine isGuarded_settle (confirmations ▸ known) (confirming.trans busy) ?_ fits
  rw [underWay, confirmations]
  exact others

/-- A request that is turned down leaves everything as it is, but for its own answer and a record in
the log. -/
theorem turnDown_eq (c : Nat) (s : Session) :
    ∃ j : Journal, s.turnDown c = { Journaled.setJournal j s with
        confirmations := s.confirmations.set c (Stage.ended (.returned false)) } ∧
      j.events = s.selection.journal.events ∧ j.lookups = s.selection.journal.lookups :=
  ⟨_, rfl, Journal.events_write .., Journal.lookups_write ..⟩

/-- While a confirmation is under way, any other one that goes on comes to its end at most, and
leaves everything else as it is but for a record in the log. -/
theorem IsGuarded.resume_other (guarded : s.IsGuarded) (known : s.confirmations[c]? = some k)
    (under : k.stage.isUnderWay = true) {c' : Nat} (other : c' ≠ c) :
    s.resume c' = s ∨ ∃ (j : Journal) (v : Verdict), s.resume c' = { Journaled.setJournal j s with
      confirmations := s.confirmations.set c' (Stage.ended v) } ∧
        j.events = s.selection.journal.events := by
  have busy : s.confirming = true :=
    guarded.confirming_iff.mpr ⟨k, List.mem_of_getElem? known, under⟩
  cases known' : s.confirmations[c']? with
  | none =>
      rw [Session.resume, known']
      exact .inl rfl
  | some k' =>
      have idle : k'.stage.isUnderWay = false := Bool.eq_false_iff.mpr fun under' =>
        other (guarded.alone known' known under' under)
      obtain ⟨stage, cancelling⟩ := k'
      cases stage with
      | ended v =>
          rw [Session.resume, known']
          exact .inl rfl
      | scheduled =>
          refine .inr ?_
          cases cancelling with
          | true =>
              rw [Session.resume, known']
              exact ⟨s.selection.journal, .cancelled, rfl, rfl⟩
          | false =>
              rw [resume_of_busy known' busy]
              obtain ⟨j, turned, events, -⟩ := turnDown_eq c' s
              exact ⟨j, .returned false, turned, events⟩
      | _ => exact absurd idle.symm Bool.false_ne_true

/-- A confirmation that goes on leaves a dialog guarded. -/
theorem IsGuarded.resume (guarded : s.IsGuarded) (c : Nat) : (s.resume c).IsGuarded := by
  unfold Session.resume
  split
  · exact guarded
  · exact guarded
  · rename_i cancelling known
    split
    · exact guarded.set known rfl
    · split
      · obtain ⟨j, turned, -⟩ := turnDown_eq c s
        rw [turned]
        exact guarded.set known rfl
      · rename_i free
        have idle : s.underWay = 0 :=
          guarded.trans (congrArg Bool.toNat (Bool.eq_false_iff.mpr free))
        exact isGuarded_settle_perform (a := beginConfirm) (s := { s with confirming := true })
          (fun x => secures_beginConfirm (isOutside_guard.tended x) (isOutside_guard.answered x))
          known rfl idle
  · rename_i stage cancelling ended scheduled known
    have under : stage.isUnderWay = true := by
      cases stage with
      | scheduled => exact absurd rfl scheduled
      | ended v => exact absurd rfl (ended v)
      | _ => rfl
    have busy : s.confirming = true :=
      guarded.confirming_iff.mpr ⟨_, List.mem_of_getElem? known, under⟩
    have alone : s.underWay = stage.isUnderWay.toNat :=
      guarded.trans (congrArg Bool.toNat (busy.trans under.symm))
    exact isGuarded_settle_perform (a := continueConfirm cancelling stage)
      (fun x => secures_continueConfirm (isOutside_guard.tended x) (isOutside_guard.answered x)
        cancelling fun _ plan _ => plan.isHanded_all) known busy alone

theorem IsGuarded.cancel (guarded : s.IsGuarded) (c : Nat) : (s.cancel c).2.IsGuarded := by
  unfold Session.cancel
  split
  · exact guarded
  · exact guarded
  · rename_i known
    exact guarded.set known rfl

theorem IsGuarded.request (guarded : s.IsGuarded) : s.request.2.IsGuarded := by
  have counted : (s.confirmations ++ [({} : Confirmation)]).countP (·.stage.isUnderWay) =
      s.underWay + 0 := List.countP_append
  exact counted.trans guarded

/-- What leaves the confirmations alone leaves a dialog guarded. -/
theorem IsGuarded.of_keeps {α : Type} {a : Act Session α} (guarded : s.IsGuarded)
    (keeps : Keeps (fun t => guard t = s.guard) a) : (a.perform s).2.IsGuarded :=
  guarded.of_guard (keeps s rfl)

theorem IsGuarded.undergo (guarded : s.IsGuarded) (c i : Nat) (e : ConfirmEvent) :
    (s.undergo c i e).IsGuarded := by
  cases e with
  | cancel => exact guarded.cancel c
  | check e =>
      cases e with
      | resume =>
          show IsGuarded (if s.isReady c then s.resume c else s)
          split
          · exact guarded.resume c
          · exact guarded
      | abort => exact guarded.of_keeps ((isOutside_guard.tended _).abort i)
      | move m =>
          exact guarded.of_guard ((isOutside_guard.tended s.guard).transition rfl (fun _ _ => rfl)
            fun _ holds => holds)
      | lookup l => exact guarded.of_guard rfl

/-- Whatever happens to a dialog, it stays guarded. -/
theorem IsGuarded.react (guarded : s.IsGuarded) (e : DialogEvent) : (s.react e).IsGuarded := by
  have selects {α : Type} (a : Act Selection α) : Leaves guard (onSelection a) :=
    leaves_onSelection isOutside_guard.toIsAside a
  cases e with
  | add pack version indexed => exact guarded.of_guard (selects _ s)
  | remove pack version => exact guarded.of_guard (selects _ s)
  | pick page pack version =>
      exact guarded.of_guard (leaves_pick isOutside_guard.toIsAside page pack version s)
  | selectPage id => exact guarded.of_keeps ((isOutside_guard.browsed _).selectPage id)
  | pageChanged previous selected =>
      exact guarded.of_keeps ((isOutside_guard.browsed _).pageChanged previous selected)
  | search page term => exact guarded.of_guard (selects _ s)
  | request => exact guarded.request
  | confirm c i e => exact guarded.undergo c i e

theorem IsGuarded.through (guarded : s.IsGuarded) (events : List DialogEvent) :
    (s.through events).IsGuarded := by
  induction events generalizing s with
  | nil => exact guarded
  | cons e later ih => exact ih (guarded.react e)

/-- What holds of the confirmations of a dialog at any time. -/
structure OneAtATime (s : Session) : Prop where
  alone : ∀ (c c' : Nat) (k k' : Confirmation), s.confirmations[c]? = some k →
    s.confirmations[c']? = some k' → k.stage.isUnderWay = true → k'.stage.isUnderWay = true →
      c = c'
  /-- While a confirmation is under way, any other one that is to begin is answered with no. -/
  refuses : ∀ (c c' : Nat) (k : Confirmation), s.confirmations[c]? = some k →
    k.stage.isUnderWay = true → s.confirmations[c']? = some {} → ∃ j : Journal,
      s.resume c' = { Journaled.setJournal j s with
        confirmations := s.confirmations.set c' { stage := .ended (.returned false) } } ∧
      j.events = s.selection.journal.events ∧ j.lookups = s.selection.journal.lookups
  /-- Once all that began have ended, in whatever way, the next one begins. -/
  begins : (∀ k ∈ s.confirmations, k.stage.isUnderWay = false) → ∀ c' : Nat,
    s.confirmations[c']? = some {} →
      s.resume c' = settle c' (beginConfirm.perform { s with confirming := true }).1
        (beginConfirm.perform { s with confirming := true }).2

theorem IsGuarded.oneAtATime (guarded : s.IsGuarded) : s.OneAtATime where
  alone _ _ _ _ known known' under under' := guarded.alone known known' under under'
  refuses c c' k known under waits := by
    have busy : s.confirming = true :=
      guarded.confirming_iff.mpr ⟨k, List.mem_of_getElem? known, under⟩
    rw [resume_of_busy waits busy]
    exact turnDown_eq c' s
  begins ended c' waits := by
    refine resume_of_scheduled waits (Bool.eq_false_iff.mpr fun busy => ?_)
    obtain ⟨k, among, under⟩ := guarded.confirming_iff.mp busy
    exact Bool.false_ne_true ((ended k among).symm.trans under)

/-- Whatever happens to a dialog, at most one confirmation is under way at a time. Any other one is
turned down meanwhile, and none is turned down when all others have come to their end. -/
theorem oneAtATime_through {b : Session} (unasked : b.confirmations = [])
    (free : b.confirming = false) (events : List DialogEvent) :
    (b.through events).OneAtATime := by
  have guarded : b.IsGuarded := by
    rw [IsGuarded, underWay, unasked, free]
    rfl
  exact (guarded.through events).oneAtATime

/-- A confirmation is requested in each state of the first one: during its check, which is then
cancelled, while it waits for the end of the run, and after its end. -/
def impatience : List DialogEvent :=
  [.request, .request, .confirm 0 0 (.check .resume), .confirm 1 0 (.check .resume),
    .confirm 0 0 (.check (.move .begin)), .confirm 0 0 .cancel, .confirm 0 0 (.check .resume),
    .request, .confirm 2 0 (.check .resume),
    .confirm 0 0 (.check (.move (.answerPack false (.ok none)))), .confirm 0 0 (.check .resume),
    .request]

/-- Two of them are turned down. The last one is not, and has a run of its own. -/
theorem oneAtATime_through_lamps :
    (lamps.confirmations = [] ∧ lamps.confirming = false) ∧
      (lamps.through impatience).OneAtATime ∧
      ((lamps.through (impatience.take 8)).confirmations.map (·.stage.isUnderWay)) =
        [true, false, false] ∧
      ([0, 1, 2, 3].map fun c => match (lamps.through impatience).verdict? c with
        | some .cancelled => "cancelled"
        | some (.returned false) => "turned down"
        | some _ => "ended"
        | none => "still to come") =
          ["cancelled", "turned down", "turned down", "still to come"] ∧
      ((lamps.through impatience).runs.length,
        ((lamps.through impatience).resume 3).runs.length) = (1, 2) := by
  exact ⟨⟨rfl, rfl⟩, oneAtATime_through rfl rfl impatience, by decide +kernel, by decide +kernel,
    by decide +kernel⟩

end AddonPicker.Session
