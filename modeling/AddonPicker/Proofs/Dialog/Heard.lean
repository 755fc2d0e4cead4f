import AddonPicker.Proofs.Dialog.Abiding
import AddonPicker.Proofs.Resolution.Recorded

/-!
# What runs have heard of

A run hears of versions by the answers of catalogues, which others may hold. It takes a copy of
each, so whatever it has found is its own: nobody else sees what the run records there, or what
becomes of it once it is merged.
-/

namespace AddonPicker

/-- What an inquiry has found so far. -/
def InquiryPhase.found : InquiryPhase → List Choice
  | .awaitingPack question => question.search.found.map (·.choice)
  | .awaitingVersion question _ => question.search.found.map (·.choice)
  | .ended (.ok closure) => closure.dependencies
  | _ => []

/-- What a search has found is its own, whatever it was answered. -/
theorem Ledger.own {c : Catalogue} {scope : Scope} {selected : List Choice} {asked : List Question}
    {seen ahead : List Demand} {s : Search} (l : Ledger c scope selected asked seen ahead s)
    {e : Discovery} (found : e ∈ s.found) : e.choice.shared = none := by
  obtain ⟨q, -, -, -, v, -, copy⟩ := l.origin e found
  exact congrArg Held.shared copy

theorem InquiryPhase.Recorded.own {P : Held → Prop} {scope : Scope} {selected : List Choice}
    {phase : InquiryPhase} (recorded : phase.Recorded P scope selected) {d : Choice}
    (found : d ∈ phase.found) : d.shared = none := by
  have asking {q : Question} (recorded : (Progress.asking q).Recorded P scope selected)
      (found : d ∈ q.search.found.map (·.choice)) : d.shared = none := by
    obtain ⟨c, asked, ⟨-, seen, l⟩, -⟩ := recorded
    obtain ⟨e, among, rfl⟩ := List.mem_map.mp found
    exact l.own among
  cases phase with
  | scheduled => exact absurd found List.not_mem_nil
  | awaitingPack question => exact asking recorded found
  | awaitingVersion question pack => exact asking recorded found
  | ended outcome =>
      cases outcome with
      | error f => exact absurd found List.not_mem_nil
      | ok closure =>
          obtain ⟨v, key, -, copy⟩ := Progress.Recorded.exists_copy recorded found
          exact congrArg Held.shared copy

namespace Run

/-- A run that has heard only of versions with a property. -/
structure HeardOf (P : Held → Prop) (r : Run DialogHandler) : Prop where
  consistent : r.Consistent
  follows : r.Follows (·.Recorded P r.scope r.selected)
    (fun closure => (Progress.finished closure).Recorded P r.scope r.selected) r.scope r.selected

variable {P : Held → Prop} {r : Run DialogHandler}

/-- What a run has heard of is a property of its inquiry that shows in its closure. -/
theorem heardOf_iff_abides : r.HeardOf P ↔
    r.Abides (fun scope selected => (·.Recorded P scope selected)) fun scope selected closure =>
      (Progress.finished closure).Recorded P scope selected :=
  ⟨fun heardOf => ⟨heardOf.consistent, heardOf.follows⟩,
    fun abides => ⟨abides.consistent, abides.follows⟩⟩

/-- An answer with a version that has the property leads to where the inquiry has heard of such
versions only. -/
theorem HeardOf.leads (heardOf : r.HeardOf P) {m : RunMove}
    (heard : ∀ intercepted v, m = .answerVersion intercepted (.ok (some v)) → P v) :
    m.Leads (·.Recorded P r.scope r.selected) r := by
  have recorded := heardOf.follows.inquiry
  cases m with
  | answerPack intercepted answer => exact Inquiry.recorded_answerPack recorded intercepted answer
  | answerVersion intercepted answer =>
      refine Inquiry.recorded_answerVersion recorded intercepted fun v same => ?_
      exact heard intercepted v (congrArg _ same)
  | _ => trivial

/-- A version that a run hands out is a copy of one that it has heard of. Recorded with it are the
packs that take part in the run and require it. -/
theorem HeardOf.exists_copy (heardOf : r.HeardOf P) {d : Choice} (among : d ∈ r.dependencies) :
    r.state = .succeeded ∧ ∃ v key, P v ∧ d.toHeld = v.detached.withRequirers
      (((r.selected ++ r.dependencies).filter (·.requires key)).map
        (·.pack.addonId)).eraseDups := by
  obtain ⟨succeeded, same, recorded⟩ := (heardOf_iff_abides.mp heardOf).closure among
  rw [same] at among ⊢
  exact ⟨succeeded, recorded.exists_copy among⟩

/-- What a run has found so far, and what it hands out. -/
def found (r : Run DialogHandler) : List Choice :=
  r.inquiry.phase.found ++ r.dependencies

/-- Nobody else holds what a run has found. -/
theorem HeardOf.own (heardOf : r.HeardOf P) {d : Choice} (found : d ∈ r.found) :
    d.shared = none := by
  rcases List.mem_append.mp found with among | among
  · exact heardOf.follows.inquiry.own among
  · obtain ⟨-, v, key, -, copy⟩ := heardOf.exists_copy among
    exact congrArg Held.shared copy

end Run

namespace Session

open Act

/-- Each run of a dialog has heard only of versions with a property. -/
def HeardOf (P : Nat → Held → Prop) (s : Session) : Prop :=
  ∀ i (r : Run DialogHandler), s.runs[i]? = some r → r.HeardOf (P i)

variable {P : Nat → Held → Prop}

theorem heardOf_eq_abides : HeardOf P =
    Abides (fun i scope selected => (·.Recorded (P i) scope selected))
      fun i scope selected closure =>
        (Progress.finished closure).Recorded (P i) scope selected := by
  funext s
  simp only [HeardOf, Abides, Run.heardOf_iff_abides]

theorem tended_heardOf : Tended (HeardOf P) := by
  rw [heardOf_eq_abides]
  exact tended_abides fun _ _ _ => trivial

/-- A run that hears of no version but those with a property. -/
def Hearing (P : Nat → Held → Prop) (_ : Session) (i : Nat) (m : RunMove) : Prop :=
  ∀ intercepted v, m = .answerVersion intercepted (.ok (some v)) → P i v

theorem sustained_heardOf : Sustained (fun _ => True) (Hearing P) (HeardOf P) := by
  rw [heardOf_eq_abides]
  have sustained := sustained_abides
    (A := fun i scope selected => (·.Recorded (P i) scope selected))
    (B := fun i scope selected closure =>
      (Progress.finished closure).Recorded (P i) scope selected)
    (fun _ _ _ => trivial)
    fun _ _ _ => ⟨fun _ => Inquiry.recorded_begin, fun _ recorded => recorded⟩
  exact { sustained with
    move := fun s i m heard => sustained.move s i m fun r _ own =>
      (Run.heardOf_iff_abides.mpr own).leads heard }

/-- What the run at a position hands out is its own. -/
theorem HeardOf.own {s : Session} (heardOf : s.HeardOf P) {i : Nat} {d : Choice}
    (among : d ∈ s.runDependencies i) : d.shared = none := by
  rw [runDependencies] at among
  split at among
  · rename_i r known
    exact (heardOf i r known).own (List.mem_append_right _ among)
  · exact absurd among List.not_mem_nil

/-- A run is told of a version by its catalogues. -/
def Tells (events : List DialogEvent) (i : Nat) (v : Held) : Prop :=
  ∃ c intercepted,
    .confirm c i (.check (.move (.answerVersion intercepted (.ok (some v))))) ∈ events

/-- What runs have heard of is what they were told. -/
theorem heardOf_through {b : Session} (unchecked : b.runs = []) (events : List DialogEvent) :
    (b.through events).HeardOf (Tells events) := by
  refine sustained_heardOf.through (admits_of_forall (fun e among s => ?_) b) fun i r known => ?_
  · unfold IsFit
    split
    · trivial
    · trivial
    · trivial
    · rintro intercepted v rfl
      exact ⟨_, intercepted, among⟩
    · trivial
  · rw [unchecked] at known
    cases known

end Session

end AddonPicker
