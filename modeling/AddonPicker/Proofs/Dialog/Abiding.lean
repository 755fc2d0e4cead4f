import AddonPicker.Proofs.Dialog.Sustained
import AddonPicker.Proofs.Run.Follows

/-!
# What the runs of a dialog abide by

Every run of a dialog is made by a confirmation, for what is selected then, and begins with nothing.
After that it is taken on by its own steps only, whatever else happens to the dialog. So what holds
of an inquiry wherever it stands, and shows in the closure that it comes to, holds of all runs of a
dialog as long as it holds for the answers which they hear.
-/

namespace AddonPicker

/-- A consistent run whose inquiry has one property, and whose closure has another one if the run
has succeeded. Both may hang on what the run is about. -/
structure Run.Abides (A : Scope → List Choice → InquiryPhase → Prop)
    (B : Scope → List Choice → Closure → Prop) (r : Run DialogHandler) : Prop where
  consistent : r.Consistent
  follows : r.Follows (A r.scope r.selected) (B r.scope r.selected) r.scope r.selected

namespace Run

variable {A : Scope → List Choice → InquiryPhase → Prop}
  {B : Scope → List Choice → Closure → Prop} {r r' : Run DialogHandler} {m : RunMove}

theorem abides_of_follows {scope : Scope} {selected : List Choice} (consistent : r.Consistent)
    (follows : r.Follows (A scope selected) (B scope selected) scope selected) : r.Abides A B := by
  obtain rfl := follows.scope_eq
  obtain rfl := follows.selected_eq
  exact ⟨consistent, follows⟩

namespace Abides

/-- What a run hands out belongs to a closure, if there is anything. -/
theorem closure (abides : r.Abides A B) {d : Choice} (among : d ∈ r.dependencies) :
    r.state = .succeeded ∧ r.dependencies = r.closure.dependencies ∧
      B r.scope r.selected r.closure := by
  by_cases succeeded : r.state = .succeeded
  · exact ⟨succeeded, if_pos succeeded, abides.follows.closure succeeded⟩
  · rw [dependencies_of_state_ne succeeded] at among
    exact absurd among List.not_mem_nil

theorem start (abides : r.Abides A B) (begun : r.start = .ok r') : r'.Abides A B := by
  rw [Run.start] at begun
  split at begun
  · rename_i idle
    cases begun
    exact abides_of_follows (abides.consistent.started idle) abides.follows.started
  · exact nomatch begun

theorem abort (abides : r.Abides A B) : r.abort.2.Abides A B :=
  abides_of_follows (stays_abort abides.consistent).consistent abides.follows.abort

theorem close (abides : r.Abides A B) : r.close.Abides A B :=
  abides_of_follows (consistent_close abides.consistent).2.2 abides.follows.close

theorem apply (lasting : InquiryPhase.Lasting (A r.scope r.selected) (B r.scope r.selected) r.scope
    r.selected) (abides : r.Abides A B) (leads : m.Leads (A r.scope r.selected) r) :
    (m.apply r).1.Abides A B := by
  have consistent : (m.apply r).1.Consistent := by
    rcases m.stays_or_ends abides.consistent with stays | ends
    · exact stays.consistent
    · exact ends.consistent
  exact abides_of_follows consistent (abides.follows.apply lasting leads)

end Abides

end Run

namespace Session

open Act

/-- Each run of a dialog abides by properties of its own. -/
def Abides (A : Nat → Scope → List Choice → InquiryPhase → Prop)
    (B : Nat → Scope → List Choice → Closure → Prop) (s : Session) : Prop :=
  ∀ i (r : Run DialogHandler), s.runs[i]? = some r → r.Abides (A i) (B i)

variable {A : Nat → Scope → List Choice → InquiryPhase → Prop}
  {B : Nat → Scope → List Choice → Closure → Prop} {s : Session} {i : Nat}
  {r r' : Run DialogHandler}

theorem abides_of_unchecked (unchecked : s.runs = []) : s.Abides A B := by
  intro i r known
  rw [unchecked] at known
  exact nomatch known

namespace Abides

theorem set (abides : s.Abides A B) (known : s.runs[i]? = some r)
    (next : r.Abides (A i) (B i) → r'.Abides (A i) (B i)) :
    ({ s with runs := s.runs.set i r' } : Session).Abides A B := by
  intro j r₁ known₁
  by_cases same : i = j
  · subst same
    have put : (s.runs.set i r')[i]? = some r' :=
      List.getElem?_set_self (List.getElem?_eq_some_iff.mp known).1
    obtain rfl := Option.some.inj (put.symm.trans known₁)
    exact next (abides i r known)
  · exact abides j r₁ ((List.getElem?_set_ne same).symm.trans known₁)

theorem modify (abides : s.Abides A B) {f : Run DialogHandler → Run DialogHandler}
    (next : ∀ r, r.Abides (A i) (B i) → (f r).Abides (A i) (B i)) :
    ({ s with runs := s.runs.modify i f } : Session).Abides A B := by
  cases known : s.runs[i]? with
  | none =>
      rw [List.modify_eq_self (List.getElem?_eq_none_iff.mp known)]
      exact abides
  | some r =>
      rw [← set_eq_modify known f]
      exact abides.set known (next r)

end Abides

/-- A run that a dialog makes begins with nothing. -/
theorem abides_handled {run : Run DialogHandler} (checks : s.newRun? = some run)
    {A : Scope → List Choice → InquiryPhase → Prop} {B : Scope → List Choice → Closure → Prop}
    (scheduled : ∀ scope selected, A scope selected .scheduled) : (handled run).Abides A B := by
  obtain ⟨own, idle⟩ := isOwn_handled checks
  refine ⟨own.consistent, rfl, rfl, ?_, fun succeeded => ?_⟩
  · rw [newRun?] at checks
    split at checks
    · cases checks
      exact scheduled _ _
    · cases checks
  · rw [idle] at succeeded
    cases succeeded

section

variable (scheduled : ∀ i scope selected, A i scope selected .scheduled)

include scheduled

theorem Abides.adopt (abides : s.Abides A B) {run : Run DialogHandler}
    (checks : s.newRun? = some run) :
    ((Owner.adopt (handled run)).perform s).2.Abides A B := by
  intro i r known
  have known : (s.runs ++ [handled run])[i]? = some r := known
  by_cases before : i < s.runs.length
  · exact abides i r ((List.getElem?_append_left before).symm.trans known)
  · rw [List.getElem?_append_right (Nat.le_of_not_lt before)] at known
    obtain rfl := List.mem_singleton.mp (List.mem_of_getElem? known)
    exact abides_handled checks (scheduled i)

theorem tended_abides : Tended (Abides A B) where
  say _ _ := keeps_modify fun _ abides => abides
  note _ _ _ := keeps_modify fun _ abides => abides
  adopt _ _ checks abides := abides.adopt scheduled checks
  start _ := keeps_start fun _ _ _ known begun abides => abides.set known fun own =>
    own.start begun
  abort _ := keeps_abort (fun _ _ => keeps_modify fun _ abides => abides) fun _ _ known abides =>
    abides.set known fun own => own.abort

/-- As long as answers lead where they have to, the runs of a dialog abide by their properties,
whatever happens to it. -/
theorem sustained_abides
    (lasting : ∀ i scope selected,
      InquiryPhase.Lasting (A i scope selected) (B i scope selected) scope selected) :
    Sustained (fun _ => True)
      (fun s i m => ∀ r, s.runs[i]? = some r → r.Abides (A i) (B i) →
        m.Leads (A i r.scope r.selected) r) (Abides A B) where
  toAnswered := (isAside_runs.upheld_of fun runs => ∀ i (r : Run DialogHandler),
    runs[i]? = some r → r.Abides (A i) (B i)).answered (keeps_modify fun _ abides => abides)
  adopt := (tended_abides scheduled).adopt
  start := (tended_abides scheduled).start
  abort := (tended_abides scheduled).abort
  move _ _ _ leads abides := (tended_abides scheduled).transition abides
    (fun r known => abides.set known fun own => own.apply (lasting _ _ _) (leads r known own))
    fun _ abides => abides.modify fun _ own => own.close
  lookup _ := keeps_modify fun _ abides => abides
  pick page pack version _ s abides := fun i r known =>
    abides i r (leaves_pick isAside_runs page pack version s ▸ known)
  search _ _ := keeps_modify fun _ abides => abides
  shown _ _ abides := abides
  container _ _ abides := abides
  confirming _ _ abides := abides
  confirmations _ _ _ abides := abides
  stages _ _ _ _ _ plan _ := plan.isHanded_all

end

end Session

end AddonPicker
