import AddonPicker.Proofs.News

/-!
# Terms for pages and listeners

Pages and listeners take part in every change of a selection. How much is known of a change hangs
on what is known of them: whether they may refuse, and what they may write into the journal.
`Terms` say both, and `Act.Meets` says what an action comes to on such terms. On the strictest terms
this is what an action does, and on the loosest it is what an action comes to if it does not fail.
-/

namespace AddonPicker

/-- Terms on which pages and listeners take part. -/
structure Terms where
  /-- What the journal afterwards may have to do with the journal before. -/
  leaves : Journal → Journal → Prop
  /-- Whether anyone may refuse. -/
  mayFail : Prop
  refl : ∀ j, leaves j j
  trans : ∀ {j j' j''}, leaves j j' → leaves j' j'' → leaves j j''
  write : ∀ j level message, leaves j (j.write level message)

namespace Terms

/-- Nobody refuses, and nobody writes news. -/
def strict : Terms where
  leaves j j' := j'.news = j.news
  mayFail := False
  refl _ := rfl
  trans first later := later.trans first
  write j level message := j.news_write level message

/-- Whatever is written. -/
def lax (mayFail : Prop) : Terms where
  leaves _ _ := True
  mayFail := mayFail
  refl _ := trivial
  trans _ _ := trivial
  write _ _ _ := trivial

end Terms

/-- A page that takes part on terms. -/
structure Page.On (t : Terms) (p : Page) : Prop where
  note : ∀ name e, p.note name = some e → ∀ j : Journal, t.leaves j (j.note e)
  refusal : t.mayFail ∨ ∀ events name, p.refusal events name = none

/-- A listener that takes part on terms. -/
structure Listener.On (t : Terms) (l : Listener) : Prop where
  note : ∀ empty size e, l.note empty size = some e → ∀ j : Journal, t.leaves j (j.note e)
  refusal : t.mayFail ∨ ∀ events empty, l.refusal events empty = none

/-- A selection whose pages and listeners take part on terms. -/
structure Selection.On (t : Terms) (s : Selection) : Prop where
  pages : ∀ p ∈ s.pages, p.On t
  listeners : ∀ l ∈ s.listeners, l.On t

/-- A selection that lets every change pass is one on the strictest terms. -/
theorem Selection.IsCalm.on {s : Selection} (calm : s.IsCalm) : s.On .strict where
  pages p among := by
    refine ⟨fun name e noted j => ?_, .inr (calm.pages p among).refusal⟩
    show (j.note e).news = j.news
    rw [Journal.news_note, (calm.pages p among).note name e noted]
    exact List.append_nil _
  listeners l among := by
    refine ⟨fun empty size e noted j => ?_, .inr (calm.listeners l among).refusal⟩
    show (j.note e).news = j.news
    rw [Journal.news_note, (calm.listeners l among).note empty size e noted]
    exact List.append_nil _

/-- A selection of which nobody refuses anything. -/
structure Selection.IsWilling (s : Selection) : Prop where
  pages : ∀ p ∈ s.pages, ∀ events name, p.refusal events name = none
  listeners : ∀ l ∈ s.listeners, ∀ events empty, l.refusal events empty = none

/-- Any selection is one on terms that let anyone refuse who does. -/
theorem Selection.on_lax {mayFail : Prop} {s : Selection} (willing : mayFail ∨ s.IsWilling) :
    s.On (.lax mayFail) where
  pages p among := ⟨fun _ _ _ _ => trivial, willing.imp_right (·.pages p among)⟩
  listeners l among := ⟨fun _ _ _ _ _ => trivial, willing.imp_right (·.listeners l among)⟩

namespace Act

variable {σ α β : Type} [Journaled σ] {t : Terms} {s s' s'' : σ}

/-- On terms, whatever the journal is, an action comes to a result and takes one state to the
other, or it fails where it may. -/
def Meets (t : Terms) (a : Act σ α) (result : Except Fault α) (s s' : σ) : Prop :=
  ∀ j : Journal,
    (∃ j' : Journal, a.perform (Journaled.setJournal j s) =
      (result, Journaled.setJournal j' s') ∧ t.leaves j j') ∨
    (t.mayFail ∧ ∃ f s₁, a.perform (Journaled.setJournal j s) = (.error f, s₁))

/-- On the strictest terms, what an action comes to is what it does. -/
theorem Meets.does {a : Act σ α} {result : Except Fault α} (meets : Meets .strict a result s s') :
    Does a result [] s s' := by
  intro j
  rcases meets j with ⟨j', performed, news⟩ | ⟨never, -⟩
  · exact ⟨j', performed, news.trans (List.append_nil _).symm⟩
  · exact never.elim

/-- What an action does, it comes to on terms that let anything be written. -/
theorem Does.meets {a : Act σ α} {result : Except Fault α} {told : List UiCall} {mayFail : Prop}
    (done : Does a result told s s') : Meets (.lax mayFail) a result s s' := by
  intro j
  obtain ⟨j', performed, -⟩ := done j
  exact .inl ⟨j', performed, trivial⟩

theorem meets_pure (x : α) : Meets t (pure x : Act σ α) (.ok x) s s :=
  fun j => .inl ⟨j, rfl, t.refl j⟩

/-- What fails only where it may. -/
theorem meets_failOn {f : Option Fault} (passes : t.mayFail ∨ f = none) :
    Meets t (failOn f : Act σ Unit) (.ok ()) s s := by
  intro j
  cases f with
  | none => exact .inl ⟨j, rfl, t.refl j⟩
  | some f => exact .inr ⟨passes.resolve_right nofun, f, _, rfl⟩

theorem Meets.bind {a : Act σ α} {f : α → Act σ β} {x : α} {result : Except Fault β}
    (first : Meets t a (.ok x) s s') (later : Meets t (f x) result s' s'') :
    Meets t (a >>= f) result s s'' := by
  intro j
  rw [perform_bind]
  rcases first j with ⟨j', performed, left⟩ | ⟨may, fault, s₁, failed⟩
  · rw [performed]
    rcases later j' with ⟨j'', performed', left'⟩ | failed
    · exact .inl ⟨j'', performed', t.trans left left'⟩
    · exact .inr failed
  · rw [failed]
    exact .inr ⟨may, fault, s₁, rfl⟩

/-- An action that looks at its state meets what it meets with every journal in it. -/
theorem meets_get_bind {f : σ → Act σ α} {result : Except Fault α}
    (later : ∀ j : Journal, Meets t (f (Journaled.setJournal j s)) result s s') :
    Meets t (get >>= f) result s s' := by
  intro j
  rw [perform_bind]
  exact later j j

theorem meets_modify {f : σ → σ}
    (changed : ∀ j : Journal, f (Journaled.setJournal j s) = Journaled.setJournal j s') :
    Meets t (modify f : Act σ Unit) (.ok ()) s s' :=
  fun j => .inl ⟨j, congrArg (Except.ok (), ·) (changed j), t.refl j⟩

variable [LawfulJournaled σ]

theorem meets_edit {f : Journal → Journal} (left : ∀ j, t.leaves j (f j)) :
    Meets t (Journaled.edit f : Act σ Unit) (.ok ()) s s := by
  intro j
  refine .inl ⟨f j, ?_, left j⟩
  show (Except.ok (), Journaled.setJournal (f (Journaled.journal (Journaled.setJournal j s)))
    (Journaled.setJournal j s)) = _
  rw [LawfulJournaled.journal_setJournal, LawfulJournaled.setJournal_setJournal]

theorem meets_say (level : Level) (message : String) :
    Meets t (Journaled.say level message : Act σ Unit) (.ok ()) s s :=
  meets_edit fun j => t.write j level message

/-- Noting what the terms let be noted. -/
theorem meets_note {e : Event} (left : ∀ j : Journal, t.leaves j (j.note e)) :
    Meets t (Journaled.note e : Act σ Unit) (.ok ()) s s :=
  meets_edit left

end Act

end AddonPicker
