import AddonPicker.Proofs.Run.Transition

/-!
# Runs that follow their inquiries

A run has its inquiry begin, hears its answers and ends with what it comes to. What holds of the
inquiry wherever it stands shows in the closure of a run that has succeeded, whenever the run is
aborted or overdue, and however it goes about its inquiry.
-/

namespace AddonPicker

/-- A step on an answer takes the inquiry to where a property holds. -/
def RunMove.Leads {η : Type} (A : InquiryPhase → Prop) (r : Run η) : RunMove → Prop
  | .answerPack intercepted answer => A (r.inquiry.answerPack intercepted answer).phase
  | .answerVersion intercepted answer =>
    A (r.inquiry.answerVersion r.scope intercepted answer).phase
  | _ => True

/-- A property of where an inquiry stands that it has when it begins, and that shows in the closure
that it comes to. -/
structure InquiryPhase.Lasting (A : InquiryPhase → Prop) (B : Closure → Prop) (scope : Scope)
    (selected : List Choice) : Prop where
  begins : ∀ q : Inquiry, A q.phase → A (q.begin scope selected).phase
  ends : ∀ closure, A (.ended (.ok closure)) → B closure

/-- A run for a selection whose inquiry has a property, and whose closure has another one if the run
has succeeded. -/
structure Run.Follows {η : Type} (A : InquiryPhase → Prop) (B : Closure → Prop) (scope : Scope)
    (selected : List Choice) (r : Run η) : Prop where
  scope_eq : r.scope = scope
  selected_eq : r.selected = selected
  inquiry : A r.inquiry.phase
  closure : r.state = .succeeded → B r.closure

namespace Run.Follows

variable {η : Type} {r : Run η} {A : InquiryPhase → Prop} {B : Closure → Prop} {scope : Scope}
  {selected : List Choice}

/-- A run goes on to follow with an inquiry that stands where it stood. -/
theorem of_same (h : r.Follows A B scope selected) {r' : Run η}
    (scope' : r'.scope = r.scope) (selected' : r'.selected = r.selected)
    (inquiry : r'.inquiry.phase = r.inquiry.phase)
    (ended : r'.state = .succeeded → r.state = .succeeded ∧ r'.closure = r.closure) :
    r'.Follows A B scope selected where
  scope_eq := scope'.trans h.scope_eq
  selected_eq := selected'.trans h.selected_eq
  inquiry := by
    rw [inquiry]
    exact h.inquiry
  closure succeeded := by
    obtain ⟨before, same⟩ := ended succeeded
    rw [same]
    exact h.closure before

theorem started (h : r.Follows A B scope selected) :
    ({ r with state := .running, phase := .scheduled } : Run η).Follows A B scope selected :=
  h.of_same rfl rfl rfl nofun

theorem abort (h : r.Follows A B scope selected) : r.abort.2.Follows A B scope selected := by
  obtain ⟨state, closure, -, -⟩ := abort_snd_eq r
  have same : r.abort.2.scope = r.scope ∧ r.abort.2.selected = r.selected := by
    unfold Run.abort
    split <;> exact ⟨rfl, rfl⟩
  exact h.of_same same.1 same.2 (phase_inquiry_abort r) fun succeeded =>
    ⟨state ▸ succeeded, closure⟩

theorem close (h : r.Follows A B scope selected) : r.close.Follows A B scope selected := by
  unfold Run.close
  split
  · exact h.of_same rfl rfl rfl fun succeeded => ⟨succeeded, rfl⟩
  · exact h

theorem fail (h : r.Follows A B scope selected) (reason : String) :
    (r.fail reason).1.Follows A B scope selected :=
  h.of_same rfl rfl rfl nofun

theorem skip (h : r.Follows A B scope selected) : r.skip.1.Follows A B scope selected :=
  h.of_same rfl rfl rfl nofun

theorem dismiss (h : r.Follows A B scope selected) (cause : Dismissal) :
    (r.dismiss cause).Follows A B scope selected :=
  h.of_same rfl rfl (Inquiry.phase_cancel _) fun succeeded => ⟨succeeded, rfl⟩

theorem expire (h : r.Follows A B scope selected) : r.expire.Follows A B scope selected := by
  have same : r.expire.scope = r.scope ∧ r.expire.selected = r.selected ∧
      r.expire.state = r.state ∧ r.expire.closure = r.closure := by
    unfold Run.expire
    split
    · exact ⟨rfl, rfl, rfl, rfl⟩
    · split <;> exact ⟨rfl, rfl, rfl, rfl⟩
    · exact ⟨rfl, rfl, rfl, rfl⟩
  obtain ⟨scope', selected', state, closure⟩ := same
  exact h.of_same scope' selected' (phase_inquiry_expire r) fun succeeded =>
    ⟨state ▸ succeeded, closure⟩

theorem conclude (h : r.Follows A B scope selected) :
    r.conclude.1.Follows A B scope selected := by
  unfold Run.conclude
  split
  · exact h.of_same rfl rfl rfl nofun
  · exact h

section

variable (lasting : InquiryPhase.Lasting A B scope selected)

include lasting

/-- A run that ends with the outcome of its inquiry has the closure to show that the inquiry came
to. -/
theorem finish (h : r.Follows A B scope selected) {outcome : Except Fault Closure}
    (ended : r.inquiry.outcome? = some outcome) :
    (r.finish outcome).1.Follows A B scope selected := by
  have placed : r.inquiry.phase = .ended outcome := by
    unfold Inquiry.outcome? at ended
    split at ended
    · rename_i outcome' placed
      rw [placed, Option.some.inj ended]
    · exact nomatch ended
  unfold Run.finish
  split
  · rename_i closure
    have reached := h.inquiry
    rw [placed] at reached
    exact ⟨h.scope_eq, h.selected_eq, h.inquiry, fun _ => lasting.ends closure reached⟩
  · exact h.skip
  · exact h.fail _
  · exact h.fail _

theorem finishTimed (h : r.Follows A B scope selected) {outcome : Except Fault Closure}
    (ended : r.inquiry.outcome? = some outcome) :
    (r.finishTimed outcome).1.Follows A B scope selected := by
  unfold Run.finishTimed
  split
  · split
    · exact h.fail _
    · exact h.skip
  · exact h.finish lasting ended

theorem finishDismissed (h : r.Follows A B scope selected)
    {outcome : Except Fault Closure} (ended : r.inquiry.outcome? = some outcome)
    (cause : Dismissal) : (r.finishDismissed cause outcome).1.Follows A B scope selected := by
  unfold Run.finishDismissed
  split
  · exact h.skip
  · exact h.fail _
  · exact h.finish lasting ended

/-- A run takes its inquiry on. -/
theorem inquire (h : r.Follows A B scope selected) {f : Inquiry → Inquiry}
    (inquiry : A (f r.inquiry).phase) :
    (r.inquire f).1.Follows A B scope selected := by
  have next : ({ r with inquiry := f r.inquiry } : Run η).Follows A B scope selected :=
    ⟨h.scope_eq, h.selected_eq, inquiry, h.closure⟩
  unfold Run.inquire
  dsimp only
  split
  · exact next.finish lasting ‹_›
  · exact next.finishTimed lasting ‹_›
  · exact next

theorem beginInquiry (h : r.Follows A B scope selected) :
    r.beginInquiry.1.Follows A B scope selected := by
  refine h.inquire lasting ?_
  rw [h.scope_eq, h.selected_eq]
  exact lasting.begins r.inquiry h.inquiry

theorem begin (h : r.Follows A B scope selected) : r.begin.1.Follows A B scope selected := by
  have placed (phase : Phase) : ({ r with phase } : Run η).Follows A B scope selected :=
    h.of_same rfl rfl rfl fun succeeded => ⟨succeeded, rfl⟩
  have begins := begins_begin r
  generalize r.begin.1 = r' at begins ⊢
  cases begins with
  | drops => exact placed .dropped
  | inquires phase => exact (placed phase).beginInquiry lasting
  | watches => exact placed .watching
  | dismisses => exact h.dismiss .overdue
  | fails f => exact h.fail _

theorem wake (h : r.Follows A B scope selected) : r.wake.1.Follows A B scope selected := by
  have uncalled : ({ r with cancelling := false } : Run η).Follows A B scope selected :=
    h.of_same rfl rfl rfl fun succeeded => ⟨succeeded, rfl⟩
  have wakes := wakes_wake r
  generalize r.wake.1 = r' at wakes ⊢
  cases wakes with
  | hears _ ended => exact uncalled.finish lasting ended
  | dismisses cause => exact uncalled.dismiss cause
  | skips => exact uncalled.skip
  | ends _ _ ended => exact uncalled.finishDismissed lasting ended _
  | waits => exact uncalled

/-- A run goes on to follow with every step, if its inquiry does on the answers. -/
theorem apply (h : r.Follows A B scope selected) {m : RunMove} (leads : m.Leads A r) :
    (m.apply r).1.Follows A B scope selected := by
  cases m with
  | begin =>
      rw [RunMove.apply]
      split
      · exact h.begin lasting
      · exact h
  | beginInquiry => exact h.beginInquiry lasting
  | answerPack intercepted answer => exact h.inquire lasting leads
  | answerVersion intercepted answer => exact h.inquire lasting leads
  | expire => exact h.expire
  | wake => exact h.wake lasting
  | conclude => exact h.conclude

end

end Run.Follows

namespace Run

variable {η : Type}

theorem follows_trivial (r : Run η) :
    r.Follows (fun _ => True) (fun _ => True) r.scope r.selected :=
  ⟨rfl, rfl, trivial, fun _ => trivial⟩

/-- A run goes on to be about what it is about. -/
theorem surroundings_apply (m : RunMove) (r : Run η) :
    (m.apply r).1.close.scope = r.scope ∧ (m.apply r).1.close.selected = r.selected := by
  have leads : m.Leads (fun _ => True) r := by cases m <;> trivial
  have follows := (r.follows_trivial.apply ⟨fun _ _ => trivial, fun _ _ => trivial⟩ leads).close
  exact ⟨follows.scope_eq, follows.selected_eq⟩

theorem surroundings_abort (r : Run η) :
    r.abort.2.scope = r.scope ∧ r.abort.2.selected = r.selected :=
  ⟨r.follows_trivial.abort.scope_eq, r.follows_trivial.abort.selected_eq⟩

end Run

end AddonPicker
