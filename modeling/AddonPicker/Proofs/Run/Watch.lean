import AddonPicker.Proofs.Run.Owner

/-!
# Watching the calls of handlers

A watched owner keeps a record of the calls of handlers besides: which handler was called, what it
was told, and what could be asked of the run at that moment. Nothing hangs on the record, so an
owner does the same whether it is watched or not.
-/

namespace AddonPicker

/-- A call of a handler of the run at a position. -/
structure Call (η : Type) where
  run : Nat
  handler : η
  notice : Notice
  /-- What could be asked of the run when the handler was called. -/
  seen : Option RunView

/-- An owner with a record of the calls of handlers, in order. -/
structure Watched (σ η : Type) where
  host : σ
  calls : List (Call η) := []

namespace Watched

variable {σ η : Type}

instance [Journaled σ] : Journaled (Watched σ η) where
  journal w := Journaled.journal w.host
  setJournal j w := { w with host := Journaled.setJournal j w.host }

instance [Owner σ η] : Owner (Watched σ η) η where
  runs w := Owner.runs w.host
  setRuns rs w := { w with host := Owner.setRuns rs w.host }

instance [Owner σ η] [LawfulOwner σ] : LawfulOwner (Watched σ η) where
  runs_setRuns rs w := LawfulOwner.runs_setRuns rs w.host
  runs_setJournal j w := LawfulOwner.runs_setJournal j w.host

/-- Act on the owner that is watched. -/
def onHost {α : Type} (a : Act σ α) : Act (Watched σ η) α :=
  Act.onPart Watched.host (fun s w => { w with host := s }) a

/-- Record a call before it is made. -/
def record [Owner σ η] (i : Nat) (h : η) (n : Notice) (w : Watched σ η) : Watched σ η :=
  { w with calls := w.calls ++ [⟨i, h, n, (Owner.run? w.host i).map Run.view⟩] }

instance [Host σ η] : Host (Watched σ η) η where
  invoke i h n := do
    modify (record i h n)
    onHost (Host.invoke i h n)
  handlerText h := Host.handlerText σ h

/-- An action on a watched owner comes to the same as the other action on the owner itself. -/
def Mirrors {α : Type} (a : Act (Watched σ η) α) (b : Act σ α) : Prop :=
  ∀ w, b.perform w.host = ((a.perform w).1, (a.perform w).2.host)

theorem Mirrors.bind {α β : Type} {a : Act (Watched σ η) α} {b : Act σ α}
    {f : α → Act (Watched σ η) β} {g : α → Act σ β} (first : Mirrors a b)
    (later : ∀ x, Mirrors (f x) (g x)) : Mirrors (a >>= f) (b >>= g) := by
  intro w
  rw [Act.perform_bind, Act.perform_bind, first w]
  generalize a.perform w = called
  obtain ⟨result, w'⟩ := called
  cases result with
  | ok x => exact later x w'
  | error f => rfl

theorem mirrors_get_bind {α : Type} {f : Watched σ η → Act (Watched σ η) α} {g : σ → Act σ α}
    (later : ∀ w, Mirrors (f w) (g w.host)) : Mirrors (get >>= f) (get >>= g) := by
  intro w
  rw [Act.perform_bind, Act.perform_bind]
  exact later w w

theorem Mirrors.outcome {α : Type} {a : Act (Watched σ η) α} {b : Act σ α} (same : Mirrors a b) :
    Mirrors (Act.outcome a) (Act.outcome b) := by
  intro w
  rw [Act.perform_outcome, Act.perform_outcome, same w]

end Watched

namespace Host

variable {σ η : Type} [Host σ η]

/-- A handler that does nothing to a run but ask for its cancellation, if that. -/
def AsksOnly (σ : Type) {η : Type} [Host σ η] (i : Nat) (h : η) : Prop :=
  ∀ (n : Notice) (s : σ), Owner.OnlyAsked i s ((invoke i h n : Act σ Unit).perform s).2

/-- A handler that may fail, but from which no cancellation escapes. -/
def Contained (σ : Type) {η : Type} [Host σ η] (i : Nat) (h : η) : Prop :=
  ∀ (n : Notice) (s : σ), ((invoke i h n : Act σ Unit).perform s).1 ≠ .error .cancelled

/-- How effects go on after the call of a handler. -/
theorem perform_notify (i : Nat) (handler : η) (notice : Notice) (later : List (Effect η)) (s : σ) :
    (perform i (.notify handler notice :: later) : Act σ Unit).perform s =
      let called := (invoke i handler notice : Act σ Unit).perform s
      match called.1 with
      | .ok () => (perform i later).perform called.2
      | .error .cancelled => (.ok (), called.2)
      | .error f =>
        (perform i later).perform ((Journaled.say .error ("Dependency resolution handler " ++
          handlerText σ handler ++ " failed: " ++ f.message) : Act σ Unit).perform called.2).2 := by
  show (Act.outcome (invoke i handler notice : Act σ Unit) >>= _).perform s = _
  rw [Act.perform_bind, Act.perform_outcome]
  generalize (invoke i handler notice : Act σ Unit).perform s = called
  obtain ⟨result, s⟩ := called
  cases result with
  | ok => rfl
  | error f => cases f <;> rfl

/-- Performing effects always comes to its end. -/
theorem perform_fst (i : Nat) (effects : List (Effect η)) (s : σ) :
    ((perform i effects : Act σ Unit).perform s).1 = .ok () := by
  induction effects generalizing s with
  | nil => rfl
  | cons effect later ih =>
      cases effect with
      | log level message => exact ih _
      | notify handler notice =>
          rw [perform_notify]
          dsimp only
          split
          · exact ih _
          · rfl
          · exact ih _

/-- A transition performs its effects with the run that it leads to in place. -/
theorem perform_transition {i : Nat} {s : σ} {r : Run η} (known : Owner.run? s i = some r)
    (f : Run η → Run η × List (Effect η)) :
    (transition i f : Act σ Unit).perform s =
      let s' := ((perform i (f r).2).perform ((Owner.setRun i (f r).1).perform s).2).2
      (.ok (), Owner.setRuns ((Owner.runs s').modify i Run.close) s') := by
  have ended := perform_fst i (f r).2 ((Owner.setRun i (f r).1).perform s).2
  show (get >>= _ : Act σ Unit).perform s = _
  rw [Act.perform_bind, Act.perform_get]
  dsimp only
  rw [known]
  show (perform i (f r).2 >>= _).perform ((Owner.setRun i (f r).1).perform s).2 = _
  rw [Act.perform_bind]
  generalize (perform i (f r).2).perform ((Owner.setRun i (f r).1).perform s).2 = performed at ended
  obtain ⟨result, s'⟩ := performed
  subst ended
  rfl

end Host

namespace Watched

variable {σ η : Type} [Host σ η] {i : Nat}

/-- The record of calls of handlers that see the same. -/
def recordOf (i : Nat) (v : RunView) (told : List (η × Notice)) : List (Call η) :=
  told.map fun c => ⟨i, c.1, c.2, some v⟩

/-- A handler that is called leaves a run alone that cannot be cancelled any more. -/
theorem run?_invoke {w : Watched σ η} {r : Run η} (known : Owner.run? w i = some r)
    (settled : r.abort.2 = r) {h : η} (tame : Host.AsksOnly σ i h) (n : Notice) :
    Owner.run? ((Host.invoke i h n : Act (Watched σ η) Unit).perform w).2 i = some r := by
  have known : Owner.run? w.host i = some r := known
  show Owner.run? ((Host.invoke i h n : Act σ Unit).perform w.host).2 i = some r
  rcases tame n w.host with same | asked
  · rw [same, known]
  · rw [asked, known, Option.map_some, settled]

/-- A call is recorded with what the run showed. -/
theorem calls_invoke {w : Watched σ η} {r : Run η} (known : Owner.run? w i = some r) (h : η)
    (n : Notice) :
    ((Host.invoke i h n : Act (Watched σ η) Unit).perform w).2.calls =
      w.calls ++ recordOf i r.view [(h, n)] := by
  have known : Owner.run? w.host i = some r := known
  show w.calls ++ [⟨i, h, n, (Owner.run? w.host i).map Run.view⟩] = _
  rw [known]
  rfl

/-- Calls were made in order as they were due, and each saw the same of the run. Only a
cancellation that escapes from a handler keeps the later calls from being made. -/
def Told (i : Nat) (v : RunView) (due : List (η × Notice)) (w w' : Watched σ η) : Prop :=
  ∃ told, told <+: due ∧ ((∀ c ∈ due, Host.Contained σ i c.1) → told = due) ∧
    w'.calls = w.calls ++ recordOf i v told

/-- A call that was made comes in front of those that are made after it. -/
theorem Told.cons {v : RunView} {due : List (η × Notice)} {c : η × Notice} {w w' w'' : Watched σ η}
    (noted : w'.calls = w.calls ++ recordOf i v [c]) (later : Told i v due w' w'') :
    Told i v (c :: due) w w'' := by
  obtain ⟨told, before, all, calls⟩ := later
  refine ⟨c :: told, List.cons_prefix_cons.mpr ⟨rfl, before⟩, ?_, ?_⟩
  · intro contained
    rw [all fun c among => contained c (List.mem_cons_of_mem _ among)]
  · rw [calls, noted, List.append_assoc]
    rfl

/-- What calls were made shows in the record only. -/
theorem Told.congr {v : RunView} {due : List (η × Notice)} {w w' w₁ w₁' : Watched σ η}
    (told : Told i v due w w') (first : w.calls = w₁.calls) (last : w₁'.calls = w'.calls) :
    Told i v due w₁ w₁' := by
  obtain ⟨told, before, all, calls⟩ := told
  exact ⟨told, before, all, by rw [last, calls, first]⟩

/-- Performing effects makes the calls among them and leaves a run as it is that cannot be
cancelled any more. -/
theorem told_perform [LawfulOwner σ] (effects : List (Effect η)) {w : Watched σ η} {r : Run η}
    (known : Owner.run? w i = some r)
    (settled : effects.filterMap Effect.call? = [] ∨ r.abort.2 = r)
    (tame : ∀ c ∈ effects.filterMap Effect.call?, Host.AsksOnly σ i c.1) :
    let w' := ((Host.perform i effects).perform w).2
    Owner.run? w' i = some r ∧ Told i r.view (effects.filterMap Effect.call?) w w' := by
  induction effects generalizing w with
  | nil => exact ⟨known, [], List.prefix_rfl, fun _ => rfl, (List.append_nil _).symm⟩
  | cons effect later ih =>
      cases effect with
      | log level message =>
          have said := (Owner.run?_edit (fun j => j.write level message) w i).trans known
          exact ih said settled tame
      | notify handler notice =>
          have settled : r.abort.2 = r := settled.resolve_left (List.cons_ne_nil _ _)
          have others : ∀ c ∈ later.filterMap Effect.call?, Host.AsksOnly σ i c.1 :=
            fun c among => tame c (List.mem_cons_of_mem _ among)
          have kept := run?_invoke known settled (tame _ List.mem_cons_self) notice
          have noted := calls_invoke known handler notice
          have held (contained : Host.Contained σ i handler) :
              ((Host.invoke i handler notice : Act (Watched σ η) Unit).perform w).1 ≠
                .error .cancelled := contained notice w.host
          rw [Host.perform_notify]
          generalize (Host.invoke i handler notice : Act (Watched σ η) Unit).perform w = called
            at kept noted held
          obtain ⟨result, w'⟩ := called
          dsimp only
          split
          · have told := ih kept (.inr settled) others
            exact ⟨told.1, told.2.cons noted⟩
          · refine ⟨kept, [(handler, notice)], ?_, ?_, noted⟩
            · exact List.cons_prefix_cons.mpr ⟨rfl, List.nil_prefix⟩
            · exact fun contained => absurd rfl (held (contained _ List.mem_cons_self))
          · have said := fun message =>
              (Owner.run?_edit (fun j => j.write .error message) w' i).trans kept
            have told := fun message => ih (said message) (.inr settled) others
            exact ⟨(told _).1, (told _).2.cons noted⟩

/-- A transition that lets a run stay calls nobody. -/
theorem transition_of_stays [LawfulOwner σ] {w : Watched σ η} {r : Run η}
    (known : Owner.run? w i = some r) {f : Run η → Run η × List (Effect η)}
    (stays : Run.Stays r (f r)) :
    let w' := ((Host.transition i f).perform w).2
    Owner.run? w' i = some (f r).1.close ∧ w'.calls = w.calls := by
  have set := Owner.run?_setRun known (f r).1
  have tame : ∀ c ∈ (f r).2.filterMap Effect.call?, Host.AsksOnly σ i c.1 := by
    rw [stays.silent]
    exact fun c none => absurd none List.not_mem_nil
  obtain ⟨kept, told, before, -, calls⟩ := told_perform (f r).2 set (.inl stays.silent) tame
  rw [stays.silent, List.prefix_nil] at before
  rw [before] at calls
  rw [Host.perform_transition known]
  exact ⟨Owner.run?_modify kept Run.close, calls.trans (List.append_nil _)⟩

/-- A transition that ends a run tells its handlers. -/
theorem transition_of_ends [LawfulOwner σ] {w : Watched σ η} {r : Run η}
    (known : Owner.run? w i = some r) {f : Run η → Run η × List (Effect η)}
    (ends : Run.Ends r (f r)) (tame : ∀ h ∈ r.handlers, Host.AsksOnly σ i h.2) :
    let w' := ((Host.transition i f).perform w).2
    Owner.run? w' i = some (f r).1.close ∧
      Told i (f r).1.view (f r).1.announcement w w' := by
  have set := Owner.run?_setRun known (f r).1
  have settled := Run.abort_of_isFinished ends.consistent ends.finished
  have tame : ∀ c ∈ (f r).2.filterMap Effect.call?, Host.AsksOnly σ i c.1 := by
    rw [ends.announced]
    intro c due
    obtain ⟨h, registered, same⟩ := Run.exists_of_mem_announcement due
    rw [ends.handlers] at registered
    exact same ▸ tame h registered
  obtain ⟨kept, told⟩ := told_perform (f r).2 set (.inr settled) tame
  rw [ends.announced] at told
  rw [Host.perform_transition known]
  exact ⟨Owner.run?_modify kept Run.close, told⟩

theorem mirrors_perform (i : Nat) (effects : List (Effect η)) :
    Mirrors (Host.perform i effects : Act (Watched σ η) Unit) (Host.perform i effects) := by
  induction effects with
  | nil => exact fun _ => rfl
  | cons effect later ih =>
      cases effect with
      | log level message => exact .bind (fun _ => rfl) fun _ => ih
      | notify handler notice =>
          have called : Mirrors (Host.invoke i handler notice : Act (Watched σ η) Unit)
              (Host.invoke i handler notice) := fun _ => rfl
          refine .bind called.outcome fun result => ?_
          cases result with
          | ok => exact ih
          | error f =>
              cases f
              case cancelled => exact fun _ => rfl
              all_goals exact .bind (fun _ => rfl) fun _ => ih

theorem mirrors_transition (i : Nat) (f : Run η → Run η × List (Effect η)) :
    Mirrors (Host.transition i f : Act (Watched σ η) Unit) (Host.transition i f) := by
  apply mirrors_get_bind
  intro w
  have seen : Owner.run? w i = Owner.run? w.host i := rfl
  rw [seen]
  cases Owner.run? w.host i with
  | none => exact fun _ => rfl
  | some r =>
      refine .bind (fun _ => rfl) fun _ => ?_
      exact .bind (mirrors_perform i _) fun _ _ => rfl

theorem mirrors_start (i : Nat) :
    Mirrors (Owner.start i : Act (Watched σ η) Unit) (Owner.start i) := by
  apply mirrors_get_bind
  intro w
  have seen : Owner.run? w i = Owner.run? w.host i := rfl
  rw [seen]
  cases Owner.run? w.host i with
  | none => exact fun _ => rfl
  | some r => exact .bind (fun _ => rfl) fun _ _ => rfl

theorem mirrors_abort (i : Nat) :
    Mirrors (Owner.abort i : Act (Watched σ η) Bool) (Owner.abort i) := by
  apply mirrors_get_bind
  intro w
  have seen : Owner.run? w i = Owner.run? w.host i := rfl
  rw [seen]
  cases Owner.run? w.host i with
  | none => exact fun _ => rfl
  | some r =>
      dsimp only
      generalize r.abort = asked
      obtain ⟨answer, r'⟩ := asked
      cases answer <;> exact fun _ => rfl

end Watched

end AddonPicker
