import Mathlib.Data.List.Induction
import AddonPicker.Proofs.Dialog.Lasting
import AddonPicker.Proofs.Run.Follows

/-!
# What the runs of a dialog are about

A confirmation makes a run before it does anything else, for the scope of the dialog and about what
is selected then, and no run is ever made about anything else. So every run of a dialog is about
what was selected at some time before.
-/

namespace AddonPicker.Session

open Act

variable {P : Scope → List Choice → Prop} {s t : Session} {i : Nat} {r : Run DialogHandler}

/-- Each run of a dialog is about a selection with a property, for the scope that it has. -/
def AreAbout (P : Scope → List Choice → Prop) (s : Session) : Prop :=
  ∀ r ∈ s.runs, P r.scope r.selected

theorem AreAbout.set (about : s.AreAbout P) {r' : Run DialogHandler}
    (fits : P r'.scope r'.selected) :
    ({ s with runs := s.runs.set i r' } : Session).AreAbout P := by
  intro r among
  rcases List.mem_or_eq_of_mem_set among with before | rfl
  · exact about r before
  · exact fits

theorem AreAbout.modify (about : s.AreAbout P) {f : Run DialogHandler → Run DialogHandler}
    (same : ∀ r, (f r).scope = r.scope ∧ (f r).selected = r.selected) :
    ({ s with runs := s.runs.modify i f } : Session).AreAbout P := by
  intro r among
  obtain ⟨before, known, rfl | rfl⟩ := Selection.exists_of_mem_modify among
  · exact about _ known
  · rw [(same before).1, (same before).2]
    exact about before known

/-- A part of a dialog that leaves the runs alone leaves them about what they are about. -/
theorem AreAbout.of_runs (about : s.AreAbout P) (same : t.runs = s.runs) : t.AreAbout P := by
  rw [AreAbout, same]
  exact about

theorem choices_congr (same : Journaled.setJournal {} t.selection =
    Journaled.setJournal {} s.selection) : t.choices = s.choices := by
  rw [choices, Selection.eq_setJournal same]
  rfl

theorem scope_congr (same : t.collaborators = s.collaborators) : t.scope = s.scope := by
  have target : t.target = s.target := congrArg (·.2.1) same
  have naming : t.naming = s.naming := congrArg (·.2.2.2.1) same
  have reference : t.reference = s.reference := congrArg (·.2.2.2.2.1) same
  have served : t.served = s.served := congrArg (·.2.2.2.2.2.1) same
  rw [scope, target, naming, reference, served, scope]

theorem keeps_areAbout_start : Keeps (AreAbout P) (Owner.start i : Act Session Unit) :=
  keeps_start fun s r r' known begun about => by
    refine about.set ?_
    rw [Run.start] at begun
    split at begun
    · cases begun
      exact about r (List.mem_of_getElem? known)
    · exact nomatch begun

theorem keeps_areAbout_abort : Keeps (AreAbout P) (Owner.abort i : Act Session Bool) :=
  keeps_abort (fun _ _ => keeps_modify fun _ about => about) fun s r known about => by
    refine about.set ?_
    rw [r.surroundings_abort.1, r.surroundings_abort.2]
    exact about r (List.mem_of_getElem? known)

/-- What a dialog was given stays as it is, and until a check is answered nothing else is
selected. -/
theorem tended_scope_selection (s : Session) : Tended fun t => t.collaborators = s.collaborators ∧
    Journaled.setJournal {} t.selection = Journaled.setJournal {} s.selection :=
  (isFixed_collaborators.tended s.collaborators).and (tended_selection s.selection)

/-- So a run that is made meanwhile is about what is selected. -/
theorem tended_areAbout (fits : P s.scope s.choices) : Tended fun t => t.AreAbout P ∧
    t.collaborators = s.collaborators ∧
    Journaled.setJournal {} t.selection = Journaled.setJournal {} s.selection where
  say level message := (keeps_modify fun _ about => about).and
    ((tended_scope_selection s).say level message)
  note e other unlike := (keeps_modify fun _ about => about).and
    ((tended_scope_selection s).note e other unlike)
  adopt t run checks holds := by
    obtain ⟨about, given, same⟩ := holds
    refine ⟨fun r among => ?_, given, same⟩
    rcases List.mem_append.mp among with before | made
    · exact about r before
    · rw [List.mem_singleton.mp made]
      rw [newRun?] at checks
      split at checks
      · cases checks
        show P t.scope t.choices
        rw [scope_congr given, choices_congr same]
        exact fits
      · cases checks
  start i := keeps_areAbout_start.and ((tended_scope_selection s).start i)
  abort i := keeps_areAbout_abort.and ((tended_scope_selection s).abort i)

theorem AreAbout.resume (about : s.AreAbout P) (fits : P s.scope s.choices) (c : Nat) :
    (s.resume c).AreAbout P := by
  have goes := (tended_areAbout fits).goesOn c ⟨about, rfl, rfl⟩ ⟨about, rfl, rfl⟩
  generalize s.resume c = o at goes
  cases goes with
  | stands => exact about
  | turned v holds => exact holds.1
  | opens unchecked =>
      refine about.of_runs ?_
      rw [runs_settle]
      exact leaves_openReview isAside_runs (fun _ _ => rfl) { s with confirming := true }
  | checks goes =>
      refine AreAbout.of_runs ?_ (runs_settle c _ _)
      cases goes with
      | stands checking holds => exact holds.1
      | breaks f holds => exact holds.1
      | answers holds =>
          exact holds.1.of_runs (leaves_afterCheck isAside_runs (fun _ _ => rfl) _ _)
  | reviews known =>
      refine about.of_runs ?_
      rw [runs_settle]
      exact leaves_continueReview isAside_runs _ _ _ s

theorem AreAbout.undergo (about : s.AreAbout P) (fits : P s.scope s.choices) (c i : Nat)
    (e : ConfirmEvent) : (s.undergo c i e).AreAbout P := by
  cases e with
  | cancel =>
      rw [Session.undergo, cancel]
      split <;> exact about
  | check e =>
      cases e with
      | resume =>
          rw [Session.undergo, happen]
          split
          · exact about.resume fits c
          · exact about
      | abort => exact keeps_areAbout_abort s about
      | move m =>
          refine (about.modify (i := i) fun r => r.surroundings_apply m).of_runs ?_
          exact runs_transition i m.apply s
      | lookup l => exact about

/-- Whatever happens to a dialog, its runs stay about what they are about, and a new one is about
what is selected. -/
theorem AreAbout.react (about : s.AreAbout P) (fits : P s.scope s.choices) (e : DialogEvent) :
    (s.react e).AreAbout P := by
  have browsed : Browsed (AreAbout P) :=
    ⟨fun _ _ => keeps_modify fun _ about => about, fun _ _ => keeps_modify fun _ about => about,
      fun _ _ about => about, fun _ _ about => about⟩
  cases e with
  | add pack version indexed => exact about
  | remove pack version => exact about
  | pick page pack version => exact about.of_runs (leaves_pick isAside_runs page pack version s)
  | selectPage id => exact browsed.selectPage id s about
  | pageChanged previous selected => exact browsed.pageChanged previous selected s about
  | search page term => exact about
  | request => exact about
  | confirm c i e => exact about.undergo fits c i e

/-- A dialog was given all along what it has, and something was selected in it at some time. -/
def HadSelected (b : Session) (events : List DialogEvent) (scope : Scope)
    (selected : List Choice) : Prop :=
  scope = b.scope ∧ ∃ earlier later, events = earlier ++ later ∧
    selected = (b.through earlier).choices

theorem hadSelected_through (b : Session) (events : List DialogEvent) :
    b.HadSelected events (b.through events).scope (b.through events).choices :=
  ⟨scope_congr (collaborators_through b events), events, [], (List.append_nil events).symm, rfl⟩

theorem HadSelected.concat {b : Session} {events : List DialogEvent} {scope : Scope}
    {selected : List Choice} (had : b.HadSelected events scope selected) (e : DialogEvent) :
    b.HadSelected (events ++ [e]) scope selected := by
  obtain ⟨given, earlier, later, rfl, selected⟩ := had
  exact ⟨given, earlier, later ++ [e], List.append_assoc _ _ _, selected⟩

/-- Each run is about what was selected at some time before. -/
theorem areAbout_through {b : Session} (unchecked : b.runs = []) (events : List DialogEvent) :
    (b.through events).AreAbout (b.HadSelected events) := by
  induction events using List.reverseRecOn with
  | nil =>
      intro r among
      rw [through, List.foldl_nil, unchecked] at among
      exact absurd among List.not_mem_nil
  | append_singleton events e ih =>
      have later : (b.through events).AreAbout (b.HadSelected (events ++ [e])) :=
        fun r among => (ih r among).concat e
      rw [through, List.foldl_append]
      exact later.react ((hadSelected_through b events).concat e) e

end AddonPicker.Session
