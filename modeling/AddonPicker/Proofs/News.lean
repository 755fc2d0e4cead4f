import AddonPicker.Selection.Basic

/-!
# News in the journal

Of all that a journal holds, the user takes notice of a few calls of the user interface: those that
show something, present a review or close the dialog. Marks, listeners and the confirm button go
along with every change of a selection and are no news.

`Act.Does` says what an action comes to, whatever the journal is at the start, and what news it
adds.
-/

namespace AddonPicker

/-- Whether a call shows something to the user or closes the dialog. -/
def UiCall.isNews : UiCall → Bool
  | .showError .. => true
  | .showWarnings .. => true
  | .accept => true
  | .reject => true
  | .execReview _ => true
  | _ => false

/-- The news that an event is, if it is one. -/
def Event.news? : Event → Option UiCall
  | .ui call => if call.isNews then some call else none
  | _ => none

namespace Journal

@[simp] theorem events_write (level : Level) (message : String) (j : Journal) :
    (j.write level message).events = j.events := by
  rw [write]
  split <;> rfl

@[simp] theorem lookups_write (level : Level) (message : String) (j : Journal) :
    (j.write level message).lookups = j.lookups := by
  rw [write]
  split <;> rfl

/-- The news in a journal, in order. -/
def news (j : Journal) : List UiCall :=
  j.events.filterMap Event.news?

@[simp] theorem news_note (e : Event) (j : Journal) :
    (j.note e).news = j.news ++ e.news?.toList := by
  cases news : e.news? <;> simp [Journal.news, note, List.filterMap_append, news]

@[simp] theorem news_write (level : Level) (message : String) (j : Journal) :
    (j.write level message).news = j.news :=
  congrArg (List.filterMap Event.news?) (events_write level message j)

end Journal

/-- States that yield the journal they were given, and nothing of the one before. -/
class LawfulJournaled (σ : Type) [Journaled σ] : Prop where
  journal_setJournal (j : Journal) (s : σ) : Journaled.journal (Journaled.setJournal j s) = j
  setJournal_setJournal (j j' : Journal) (s : σ) :
    Journaled.setJournal j' (Journaled.setJournal j s) = Journaled.setJournal j' s

instance : LawfulJournaled Selection where
  journal_setJournal _ _ := rfl
  setJournal_setJournal _ _ _ := rfl

/-- A selection that is as another one but for the journal. -/
theorem Selection.eq_setJournal {s s' : Selection}
    (same : Journaled.setJournal {} s' = Journaled.setJournal {} s) :
    s' = Journaled.setJournal s'.journal s := by
  have put (j : Journal) : Journaled.setJournal j (Journaled.setJournal {} s') =
      Journaled.setJournal j (Journaled.setJournal {} s) := by rw [same]
  exact put s'.journal

namespace Act

variable {σ α β : Type} [Journaled σ]

/-- Whatever the journal is, an action comes to a result and takes one state to the other, telling
some news. What either state has for a journal does not matter. -/
def Does (a : Act σ α) (result : Except Fault α) (told : List UiCall) (s s' : σ) : Prop :=
  ∀ j : Journal, ∃ j' : Journal,
    a.perform (Journaled.setJournal j s) = (result, Journaled.setJournal j' s') ∧
      j'.news = j.news ++ told

variable {s s' s'' : σ} {told told' : List UiCall}

theorem does_pure (x : α) : Does (pure x : Act σ α) (.ok x) [] s s :=
  fun j => ⟨j, rfl, (List.append_nil _).symm⟩

theorem does_check (r : Except Fault α) : Does (check r : Act σ α) r [] s s :=
  fun j => ⟨j, rfl, (List.append_nil _).symm⟩

/-- Nothing happens for want of a fault. -/
theorem does_failOn_none : Does (failOn none : Act σ Unit) (.ok ()) [] s s :=
  does_pure ()

theorem Does.bind {a : Act σ α} {f : α → Act σ β} {x : α} {result : Except Fault β}
    (first : Does a (.ok x) told s s') (later : Does (f x) result told' s' s'') :
    Does (a >>= f) result (told ++ told') s s'' := by
  intro j
  obtain ⟨j', performed, news⟩ := first j
  obtain ⟨j'', performed', news'⟩ := later j'
  refine ⟨j'', ?_, ?_⟩
  · rw [perform_bind, performed]
    exact performed'
  · rw [news', news, List.append_assoc]

/-- What follows on a failure does not happen. -/
theorem Does.bind_error {a : Act σ α} {f : α → Act σ β} {fault : Fault}
    (failed : Does a (.error fault) told s s') : Does (a >>= f) (.error fault) told s s' := by
  intro j
  obtain ⟨j', performed, news⟩ := failed j
  refine ⟨j', ?_, news⟩
  rw [perform_bind, performed]

theorem Does.outcome {a : Act σ α} {result : Except Fault α} (done : Does a result told s s') :
    Does (outcome a) (.ok result) told s s' := by
  intro j
  obtain ⟨j', performed, news⟩ := done j
  refine ⟨j', ?_, news⟩
  rw [perform_outcome, performed]

/-- An action that looks at its state does what it does with every journal in it. -/
theorem does_get_bind {f : σ → Act σ α} {result : Except Fault α}
    (later : ∀ j : Journal, ∃ j' : Journal,
      (f (Journaled.setJournal j s)).perform (Journaled.setJournal j s) =
        (result, Journaled.setJournal j' s') ∧ j'.news = j.news ++ told) :
    Does (get >>= f) result told s s' := by
  intro j
  rw [perform_bind]
  exact later j

theorem does_modify {f : σ → σ}
    (changed : ∀ j : Journal, f (Journaled.setJournal j s) = Journaled.setJournal j s') :
    Does (modify f : Act σ Unit) (.ok ()) [] s s' :=
  fun j => ⟨j, congrArg (Except.ok (), ·) (changed j), (List.append_nil _).symm⟩

variable [LawfulJournaled σ]

theorem does_edit {f : Journal → Journal} (news : ∀ j, (f j).news = j.news ++ told) :
    Does (Journaled.edit f : Act σ Unit) (.ok ()) told s s := by
  intro j
  refine ⟨f j, ?_, news j⟩
  show (Except.ok (), Journaled.setJournal (f (Journaled.journal (Journaled.setJournal j s)))
    (Journaled.setJournal j s)) = _
  rw [LawfulJournaled.journal_setJournal, LawfulJournaled.setJournal_setJournal]

theorem does_say (level : Level) (message : String) :
    Does (Journaled.say level message : Act σ Unit) (.ok ()) [] s s :=
  does_edit fun j => (Journal.news_write level message j).trans (List.append_nil _).symm

theorem does_note (e : Event) :
    Does (Journaled.note e : Act σ Unit) (.ok ()) e.news?.toList s s :=
  does_edit (Journal.news_note e)

/-- Noting what is no news. -/
theorem does_note_quiet {e : Event} (quiet : e.news? = none) :
    Does (Journaled.note e : Act σ Unit) (.ok ()) [] s s := by
  have noted := does_note (s := s) e
  rw [quiet] at noted
  exact noted

end Act

/-- A page that never refuses to clear a mark, and notes nothing that is news. -/
structure Page.IsCalm (p : Page) : Prop where
  note : ∀ name e, p.note name = some e → e.news? = none
  refusal : ∀ events name, p.refusal events name = none

/-- A listener that never fails, and notes nothing that is news. -/
structure Listener.IsCalm (l : Listener) : Prop where
  note : ∀ empty size e, l.note empty size = some e → e.news? = none
  refusal : ∀ events empty, l.refusal events empty = none

/-- A selection whose pages and listeners let every change pass. -/
structure Selection.IsCalm (s : Selection) : Prop where
  pages : ∀ p ∈ s.pages, p.IsCalm
  listeners : ∀ l ∈ s.listeners, l.IsCalm

end AddonPicker
