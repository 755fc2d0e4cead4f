import AddonPicker.Proofs.Run.Transition
import AddonPicker.Resolution.Host

/-!
# What owners do to their runs

An owner keeps its runs apart from its journal. What it does with one of them then shows in that
run and in nothing but the journal besides.
-/

namespace AddonPicker

/-- Failing with a fault if there is one changes nothing. -/
theorem Act.perform_failOn {σ : Type} (f : Option Fault) (s : σ) :
    (Act.failOn f : Act σ Unit).perform s = (f.elim (.ok ()) .error, s) := by
  cases f <;> rfl

/-- An action whose result is not needed leaves what it leaves. -/
theorem Act.perform_discard {σ α : Type} (a : Act σ α) (s : σ) :
    ((a >>= fun _ => pure () : Act σ Unit).perform s).2 = (a.perform s).2 := by
  rw [Act.perform_bind]
  generalize a.perform s = performed
  obtain ⟨result, s'⟩ := performed
  cases result <;> rfl

/-- What is put in the place of something and made from it is a change in its place. -/
theorem set_eq_modify {α : Type} {xs : List α} {i : Nat} {x : α} (known : xs[i]? = some x)
    (f : α → α) : xs.set i (f x) = xs.modify i f := by
  have changed := @List.modify_eq_set _ ⟨x⟩ f i xs
  rw [known] at changed
  exact changed.symm

/-- Owners that yield the runs they were given, and do not touch them when they write. -/
class LawfulOwner (σ : Type) {η : outParam Type} [Owner σ η] : Prop where
  runs_setRuns (rs : List (Run η)) (s : σ) : Owner.runs (Owner.setRuns rs s) = rs
  runs_setJournal (j : Journal) (s : σ) :
    Owner.runs (Journaled.setJournal j s) = Owner.runs s

namespace Owner

variable {σ η : Type} [Owner σ η]

/-- An idle run can be started, and nothing else changes. -/
theorem perform_start_of_idle {s : σ} {i : Nat} {r : Run η} (known : run? s i = some r)
    (idle : r.state = .idle) :
    (start i).perform s =
      (setRun i { r with state := .running, phase := .scheduled }).perform s := by
  have started : r.start = .ok { r with state := .running, phase := .scheduled } := if_pos idle
  simp only [start, Act.perform_bind, Act.perform_get, known, Act.perform_check, started]

/-- A run that is not idle cannot be started, and the attempt changes nothing. -/
theorem perform_start_of_ne_idle {s : σ} {i : Nat} {r : Run η}
    (known : run? s i = some r) (busy : r.state ≠ .idle) :
    (start i).perform s = (.error .alreadyStarted, s) := by
  have refused : r.start = .error .alreadyStarted := if_neg busy
  simp only [start, Act.perform_bind, Act.perform_get, known, Act.perform_check, refused]

/-- Waiting for a run that was started is allowed, and changes nothing. -/
theorem perform_requireStarted {s : σ} {i : Nat} {r : Run η} (known : run? s i = some r)
    (started : r.state ≠ .idle) : (requireStarted i : Act σ Unit).perform s = (.ok (), s) := by
  rw [requireStarted, Act.perform_bind, Act.perform_get]
  dsimp only
  rw [known]
  dsimp only
  rw [if_neg started]
  rfl

/-- What is answered to an abort comes from the run. -/
theorem perform_abort_fst_of_known {s : σ} {i : Nat} {r : Run η} (known : run? s i = some r) :
    ((abort i).perform s).1 = .ok r.abort.1 := by
  simp only [abort, Act.perform_bind, Act.perform_get, known]
  generalize r.abort = asked
  obtain ⟨answer, r'⟩ := asked
  cases answer <;> rfl

/-- Asking for a cancellation always gets an answer. -/
theorem perform_abort_fst (i : Nat) (s : σ) : ∃ answer, ((abort i).perform s).1 = .ok answer := by
  cases known : run? s i with
  | none =>
      refine ⟨false, ?_⟩
      simp only [abort, Act.perform_bind, Act.perform_get, known, Act.perform_pure]
  | some r => exact ⟨_, perform_abort_fst_of_known known⟩

variable [LawfulOwner σ]

@[simp] theorem runs_setRuns (rs : List (Run η)) (s : σ) : runs (setRuns rs s) = rs :=
  LawfulOwner.runs_setRuns rs s

/-- Writing into the journal leaves every run as it is. -/
@[simp] theorem run?_edit (f : Journal → Journal) (s : σ) (i : Nat) :
    run? ((Journaled.edit f).perform s).2 i = run? s i :=
  congrArg (·[i]?) (LawfulOwner.runs_setJournal (f (Journaled.journal s)) s)

variable {s : σ} {i : Nat} {r : Run η}

/-- A run that is replaced is the new one from then on. -/
theorem run?_setRun (known : run? s i = some r) (r' : Run η) :
    run? ((setRun i r').perform s).2 i = some r' := by
  have inside : i < (runs s).length := (List.getElem?_eq_some_iff.mp known).1
  show (runs (setRuns ((runs s).set i r') s))[i]? = some r'
  rw [runs_setRuns, List.getElem?_set_self inside]

/-- A run that is changed in its place is changed. -/
theorem run?_modify (known : run? s i = some r) (f : Run η → Run η) :
    run? (setRuns ((runs s).modify i f) s) i = some (f r) := by
  show (runs (setRuns ((runs s).modify i f) s))[i]? = some (f r)
  rw [runs_setRuns, List.getElem?_modify_eq]
  exact congrArg (Option.map f) known

/-- A run that is started is under way and has its first step to come. -/
theorem run?_start (known : run? s i = some r) (idle : r.state = .idle) :
    run? ((start i).perform s).2 i = some { r with state := .running, phase := .scheduled } := by
  rw [perform_start_of_idle known idle]
  exact run?_setRun known _

/-- Asking for a cancellation reaches the run, and no other one. -/
theorem runs_abort (i : Nat) (s : σ) :
    runs ((abort i).perform s).2 = (runs s).modify i fun r => r.abort.2 := by
  cases known : run? s i with
  | none =>
      rw [List.modify_eq_self (List.getElem?_eq_none_iff.mp known)]
      simp only [abort, Act.perform_bind, Act.perform_get, known, Act.perform_pure]
  | some r =>
      have put (s' : σ) (same : runs s' = runs s) : runs ((setRun i r.abort.2).perform s').2 =
          (runs s).modify i fun r => r.abort.2 := by
        show runs (setRuns ((runs s').set i r.abort.2) s') = _
        have here : (runs s)[i]? = some r := known
        rw [runs_setRuns, same]
        exact set_eq_modify here fun r => r.abort.2
      cases asked : r.abort with
      | mk answer r' =>
          rw [asked] at put
          cases answer with
          | false =>
              simp only [abort, Act.perform_bind, Act.perform_get, known, asked,
                Bool.false_eq_true, if_false, Act.perform_pure]
              exact put s rfl
          | true =>
              simp only [abort, Act.perform_bind, Act.perform_get, known, asked, if_true]
              exact put _ (LawfulOwner.runs_setJournal _ s)

theorem run?_abort (known : run? s i = some r) :
    run? ((abort i).perform s).2 i = some r.abort.2 := by
  rw [run?, runs_abort, List.getElem?_modify_eq]
  exact congrArg (Option.map _) known

/-- Between two states nothing happened to a run but that its cancellation was asked for, if that. -/
def OnlyAsked {σ η : Type} [Owner σ η] (i : Nat) (s s' : σ) : Prop :=
  run? s' i = run? s i ∨ run? s' i = (run? s i).map fun r => r.abort.2

theorem onlyAsked_abort (i : Nat) (s : σ) : OnlyAsked i s ((abort i).perform s).2 := by
  refine .inr ?_
  rw [run?, runs_abort, List.getElem?_modify_eq]
  rfl

end Owner

end AddonPicker
