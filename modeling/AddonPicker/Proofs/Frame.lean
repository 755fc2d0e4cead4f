import AddonPicker.Act

/-!
# What actions keep and leave alone

Of an action that may fail anywhere, little can be said of the state that it leaves. But what each
of its steps keeps is kept, whether or not the action failed; and a part of the state that none of
its steps touches is as it was before. If it does not fail, its result is one of those that its last
step can yield, and what its last step ensures of the state holds.
-/

namespace AddonPicker

namespace Act

variable {σ τ ι α β : Type} {I : σ → Prop} {part : σ → ι}

/-- What holds before an action holds after it, whatever comes of the action. -/
def Keeps (I : σ → Prop) (a : Act σ α) : Prop :=
  ∀ s, I s → I (a.perform s).2

theorem Keeps.and {J : σ → Prop} {a : Act σ α} (keeps : Keeps I a) (keeps' : Keeps J a) :
    Keeps (fun s => I s ∧ J s) a :=
  fun s holds => ⟨keeps s holds.1, keeps' s holds.2⟩

theorem keeps_pure (x : α) : Keeps I (pure x : Act σ α) := fun _ holds => holds

theorem keeps_get : Keeps I (get : Act σ σ) := fun _ holds => holds

theorem keeps_throw (f : Fault) : Keeps I (throw f : Act σ α) := fun _ holds => holds

theorem keeps_check (r : Except Fault α) : Keeps I (check r) := fun _ holds => holds

theorem keeps_failOn (f : Option Fault) : Keeps I (failOn f : Act σ Unit) := by
  intro s holds
  cases f <;> exact holds

theorem keeps_modify {f : σ → σ} (kept : ∀ s, I s → I (f s)) :
    Keeps I (modify f : Act σ Unit) :=
  kept

/-- What an action comes to is kept by what follows on it, if anything does. -/
theorem holds_bind {a : Act σ α} {f : α → Act σ β} {s : σ} (first : I (a.perform s).2)
    (later : ∀ x, Keeps I (f x)) : I ((a >>= f).perform s).2 := by
  rw [perform_bind]
  generalize a.perform s = performed at first
  obtain ⟨result, s'⟩ := performed
  cases result with
  | error f => exact first
  | ok x => exact later x s' first

theorem Keeps.bind {a : Act σ α} {f : α → Act σ β} (first : Keeps I a)
    (later : ∀ x, Keeps I (f x)) : Keeps I (a >>= f) :=
  fun s holds => holds_bind (first s holds) later

theorem keeps_get_bind {f : σ → Act σ α} (later : ∀ s, Keeps I (f s)) : Keeps I (get >>= f) :=
  fun s holds => later s s holds

theorem Keeps.outcome {a : Act σ α} (keeps : Keeps I a) : Keeps I (outcome a) :=
  keeps

/-- What each step of a loop keeps, the loop does. -/
theorem keeps_forM_of_mem {f : α → Act σ Unit} {xs : List α} (each : ∀ x ∈ xs, Keeps I (f x)) :
    Keeps I (xs.forM f) := by
  induction xs with
  | nil => exact keeps_pure ()
  | cons x later ih =>
      exact (each x List.mem_cons_self).bind fun _ =>
        ih fun y among => each y (List.mem_cons_of_mem _ among)

theorem keeps_forM {f : α → Act σ Unit} (each : ∀ x, Keeps I (f x)) (xs : List α) :
    Keeps I (xs.forM f) :=
  keeps_forM_of_mem fun x _ => each x

theorem keeps_mapM {f : β → Act σ α} (each : ∀ x, Keeps I (f x)) (xs : List β) :
    Keeps I (xs.mapM f) := by
  induction xs with
  | nil => exact keeps_pure []
  | cons x later ih =>
      rw [List.mapM_cons]
      exact (each x).bind fun _ => ih.bind fun _ => keeps_pure _

theorem keeps_foldlM_of_mem {f : β → α → Act σ β} {xs : List α}
    (each : ∀ x ∈ xs, ∀ y, Keeps I (f y x)) (y : β) : Keeps I (xs.foldlM f y) := by
  induction xs generalizing y with
  | nil => exact keeps_pure y
  | cons x later ih =>
      rw [List.foldlM_cons]
      exact (each x List.mem_cons_self y).bind fun y =>
        ih (fun x among => each x (List.mem_cons_of_mem _ among)) y

/-- What an action on one part keeps of the part is kept. -/
theorem keeps_onPart {J : τ → Prop} {get : σ → τ} {set : τ → σ → σ}
    (get_set : ∀ x s, get (set x s) = x) {a : Act τ α} (keeps : Keeps J a) :
    Keeps (fun s => J (get s)) (onPart get set a) := by
  intro s holds
  rw [perform_onPart, get_set]
  exact keeps (get s) holds

/-- Whatever comes of an action, a part of the state is as before. -/
def Leaves (part : σ → ι) (a : Act σ α) : Prop :=
  ∀ s, part (a.perform s).2 = part s

/-- A part is left alone if each of its values is kept. -/
theorem leaves_iff {a : Act σ α} : Leaves part a ↔ ∀ x, Keeps (fun s => part s = x) a :=
  ⟨fun leaves _ s holds => (leaves s).trans holds, fun keeps s => keeps (part s) s rfl⟩

/-- What hangs on a part alone is kept where the part is left alone. -/
theorem Leaves.keeps_of {a : Act σ α} (leaves : Leaves part a) (K : ι → Prop) :
    Keeps (fun s => K (part s)) a :=
  fun s holds => (congrArg K (leaves s)).mpr holds

theorem leaves_pure (x : α) : Leaves part (pure x : Act σ α) := fun _ => rfl

theorem leaves_failOn (f : Option Fault) : Leaves part (failOn f : Act σ Unit) :=
  leaves_iff.mpr fun _ => keeps_failOn f

theorem leaves_get : Leaves part (get : Act σ σ) := fun _ => rfl

theorem leaves_modify {f : σ → σ} (same : ∀ s, part (f s) = part s) :
    Leaves part (modify f : Act σ Unit) :=
  same

theorem Leaves.bind {a : Act σ α} {f : α → Act σ β} (first : Leaves part a)
    (later : ∀ x, Leaves part (f x)) : Leaves part (a >>= f) :=
  leaves_iff.mpr fun x => (leaves_iff.mp first x).bind fun y => leaves_iff.mp (later y) x

theorem leaves_get_bind {f : σ → Act σ α} (later : ∀ s, Leaves part (f s)) :
    Leaves part (get >>= f) :=
  leaves_get.bind later

/-- What each step of a loop leaves alone, the loop does. -/
theorem leaves_forM {f : α → Act σ Unit} (each : ∀ x, Leaves part (f x)) (xs : List α) :
    Leaves part (xs.forM f) :=
  leaves_iff.mpr fun x => keeps_forM (fun y => leaves_iff.mp (each y) x) xs

/-- An action on one part leaves every other part alone. -/
theorem leaves_onPart {get : σ → τ} {set : τ → σ → σ} (other : ∀ x s, part (set x s) = part s)
    (a : Act τ α) : Leaves part (onPart get set a) :=
  fun s => other (a.perform (get s)).2 s

theorem leaves_edit [Journaled σ] (unwritten : ∀ j s, part (Journaled.setJournal j s) = part s)
    (f : Journal → Journal) : Leaves part (Journaled.edit f) :=
  leaves_modify fun s => unwritten (f (Journaled.journal s)) s

variable {p : α → Prop}

/-- Wherever an action does not fail, its result has a property. -/
def Yields (p : α → Prop) (a : Act σ α) : Prop :=
  ∀ s x, (a.perform s).1 = .ok x → p x

theorem yields_pure {x : α} (holds : p x) : Yields p (pure x : Act σ α) := by
  rintro s _ ⟨⟩
  exact holds

theorem yields_throw (f : Fault) : Yields p (throw f : Act σ α) := nofun

theorem yields_check {r : Except Fault α} (holds : ∀ x, r = .ok x → p x) :
    Yields p (check r : Act σ α) :=
  fun _ => holds

/-- What holds before an action holds after it, whatever comes of the action, and if the action
does not fail, its result has a property. -/
def Secures (I : σ → Prop) (p : α → Prop) (a : Act σ α) : Prop :=
  ∀ s, I s → I (a.perform s).2 ∧ ∀ x, (a.perform s).1 = .ok x → p x

theorem Secures.keeps {a : Act σ α} (secures : Secures I p a) : Keeps I a :=
  fun s holds => (secures s holds).1

/-- What is secured without any condition is yielded. -/
theorem Secures.yields {a : Act σ α} (secures : Secures (fun _ => True) p a) : Yields p a :=
  fun s => (secures s trivial).2

theorem Secures.imp {q : α → Prop} {a : Act σ α} (secures : Secures I p a)
    (weaker : ∀ x, p x → q x) : Secures I q a :=
  fun s holds => ⟨(secures s holds).1, fun x came => weaker x ((secures s holds).2 x came)⟩

theorem secures_pure {x : α} (holds : p x) : Secures I p (pure x : Act σ α) :=
  fun s before => ⟨before, yields_pure holds s⟩

theorem secures_throw (f : Fault) : Secures I p (throw f : Act σ α) :=
  fun s before => ⟨before, yields_throw f s⟩

/-- What comes of the last step comes of the whole, if the steps before keep what it needs and it may
come of their failures as well. -/
theorem Keeps.bind_of {Q : Except Fault α × σ → Prop} {a : Act σ β} {f : β → Act σ α}
    (first : Keeps I a) (fails : ∀ fault s, I s → Q (.error fault, s))
    (later : ∀ x s, I s → Q ((f x).perform s)) {s : σ} (holds : I s) : Q ((a >>= f).perform s) := by
  have before := first s holds
  rw [perform_bind]
  generalize a.perform s = performed at before
  obtain ⟨result, s'⟩ := performed
  cases result with
  | error fault => exact fails fault s' before
  | ok x => exact later x s' before

/-- What the last step secures, the whole does if the steps before keep what it needs. -/
theorem Keeps.bind_secures {a : Act σ β} {f : β → Act σ α} (first : Keeps I a)
    (later : ∀ x, Secures I p (f x)) : Secures I p (a >>= f) :=
  fun _ holds => first.bind_of
    (Q := fun performed => I performed.2 ∧ ∀ x, performed.1 = .ok x → p x)
    (fun _ _ before => ⟨before, fun _ ended => nomatch ended⟩) later holds

/-- An action that looks at its state has what holds of the state to go by. -/
theorem secures_get_bind {f : σ → Act σ α} (later : ∀ s, I s → Secures I p (f s)) :
    Secures I p (get >>= f) :=
  fun s holds => later s holds s holds

/-- A loop yields as many results as it has steps, and if each step yields what has a property, all
of them have it. -/
theorem yields_mapM {f : β → Act σ α} (each : ∀ x, Yields p (f x)) (xs : List β) :
    Yields (fun ys => ys.length = xs.length ∧ ∀ y ∈ ys, p y) (xs.mapM f) := by
  induction xs with
  | nil => exact yields_pure ⟨rfl, fun _ among => absurd among List.not_mem_nil⟩
  | cons x later ih =>
      rw [List.mapM_cons]
      intro s ys yielded
      rw [perform_bind] at yielded
      have first := each x s
      generalize (f x).perform s = performed at first yielded
      obtain ⟨result, s'⟩ := performed
      cases result with
      | error f => exact nomatch yielded
      | ok y =>
          dsimp only at yielded
          rw [perform_bind] at yielded
          have rest := ih s'
          generalize (later.mapM f).perform s' = performed at rest yielded
          obtain ⟨result, s''⟩ := performed
          cases result with
          | error f => exact nomatch yielded
          | ok zs =>
              cases yielded
              obtain ⟨many, all⟩ := rest zs rfl
              exact ⟨congrArg (· + 1) many, List.forall_mem_cons.mpr ⟨first y rfl, all⟩⟩

/-- Wherever an action does not fail, the state that it leaves has a property. -/
def Ensures (I : σ → Prop) (a : Act σ α) : Prop :=
  ∀ s x, (a.perform s).1 = .ok x → I (a.perform s).2

theorem ensures_modify {f : σ → σ} (made : ∀ s, I (f s)) : Ensures I (modify f : Act σ Unit) :=
  fun s _ _ => made s

/-- What the last step ensures, given what the first one yields, the whole does. -/
theorem Yields.bind_ensures {a : Act σ α} {f : α → Act σ β} (first : Yields p a)
    (later : ∀ x, p x → Ensures I (f x)) : Ensures I (a >>= f) := by
  intro s y ended
  have first := first s
  rw [perform_bind] at ended ⊢
  generalize a.perform s = performed at first ended ⊢
  obtain ⟨result, s'⟩ := performed
  cases result with
  | error f => exact nomatch ended
  | ok x => exact later x (first x rfl) s' y ended

theorem ensures_bind {a : Act σ α} {f : α → Act σ β} (later : ∀ x, Ensures I (f x)) :
    Ensures I (a >>= f) :=
  Yields.bind_ensures (p := fun _ => True) (fun _ _ _ => trivial) fun x _ => later x

/-- What is ensured holds after what keeps it. -/
theorem Ensures.bind {a : Act σ α} {f : α → Act σ β} (first : Ensures I a)
    (later : ∀ x, Keeps I (f x)) : Ensures I (a >>= f) := by
  intro s y ended
  have first := first s
  rw [perform_bind] at ended ⊢
  generalize a.perform s = performed at first ended ⊢
  obtain ⟨result, s'⟩ := performed
  cases result with
  | error f => exact nomatch ended
  | ok x => exact later x s' (first x rfl)

end Act

end AddonPicker
