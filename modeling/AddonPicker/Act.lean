import AddonPicker.Journal

/-!
# Actions

An action changes a state and yields a result or fails. What it changed before a failure stays
changed: a failure does not undo anything.
-/

namespace AddonPicker

/-- An action on a state. -/
abbrev Act (σ α : Type) := ExceptT Fault (StateM σ) α

namespace Act

variable {σ τ α : Type}

/-- Perform an action on a state. -/
def perform (a : Act σ α) (s : σ) : Except Fault α × σ :=
  (ExceptT.run a).run s

/-- An action from what it does. -/
def ofFunction (f : σ → Except Fault α × σ) : Act σ α :=
  ExceptT.mk fun s => f s

/-- Fail if a check fails. -/
def check (r : Except Fault α) : Act σ α :=
  ofFunction fun s => (r, s)

/-- Fail with a fault if there is one. -/
def failOn (f : Option Fault) : Act σ Unit :=
  match f with
  | some f => throw f
  | none => pure ()

/-- Perform an action on a part of the state. -/
def onPart (get : σ → τ) (set : τ → σ → σ) (a : Act τ α) : Act σ α :=
  ofFunction fun s =>
    let (r, part) := a.perform (get s)
    (r, set part s)

/-- Perform an action and yield its outcome, so that a failure is a result like any. -/
def outcome (a : Act σ α) : Act σ (Except Fault α) :=
  ofFunction fun s =>
    let (r, s) := a.perform s
    (.ok r, s)

@[simp] theorem perform_pure (a : α) (s : σ) : (pure a : Act σ α).perform s = (.ok a, s) := rfl

@[simp] theorem perform_throw (f : Fault) (s : σ) :
    (throw f : Act σ α).perform s = (.error f, s) := rfl

@[simp] theorem perform_get (s : σ) : (get : Act σ σ).perform s = (.ok s, s) := rfl

@[simp] theorem perform_modify (f : σ → σ) (s : σ) :
    (modify f : Act σ Unit).perform s = (.ok (), f s) := rfl

@[simp] theorem perform_check (r : Except Fault α) (s : σ) :
    (check r : Act σ α).perform s = (r, s) := rfl

@[simp] theorem perform_ofFunction (f : σ → Except Fault α × σ) (s : σ) :
    (ofFunction f).perform s = f s := rfl

/-- The second action goes on from the state that the first one left, unless that one failed. -/
theorem perform_bind {β : Type} (a : Act σ α) (f : α → Act σ β) (s : σ) :
    (a >>= f).perform s =
      match a.perform s with
      | (.ok x, s) => (f x).perform s
      | (.error e, s) => (.error e, s) := by
  show (ExceptT.run (a >>= f)).run s = _
  simp only [ExceptT.run_bind, StateT.run_bind, perform]
  cases h : (ExceptT.run a).run s with
  | mk r s => cases r <;> rfl

/-- A failure keeps what was done on the part. -/
theorem perform_onPart (get : σ → τ) (set : τ → σ → σ) (a : Act τ α) (s : σ) :
    (onPart get set a).perform s = ((a.perform (get s)).1, set (a.perform (get s)).2 s) := rfl

theorem perform_outcome (a : Act σ α) (s : σ) :
    (outcome a).perform s = (.ok (a.perform s).1, (a.perform s).2) := rfl

end Act

/-- States that keep a journal. -/
class Journaled (σ : Type) where
  journal : σ → Journal
  setJournal : Journal → σ → σ

namespace Journaled

variable {σ : Type} [Journaled σ]

/-- Change the journal. -/
def edit (f : Journal → Journal) : Act σ Unit :=
  modify fun s => setJournal (f (journal s)) s

/-- Note an event. -/
def note (e : Event) : Act σ Unit :=
  edit (·.note e)

/-- Note a lookup. -/
def noteLookup (l : Lookup) : Act σ Unit :=
  edit (·.noteLookup l)

/-- Log a message. -/
def say (level : Level) (message : String) : Act σ Unit :=
  edit (·.write level message)

end Journaled

end AddonPicker
