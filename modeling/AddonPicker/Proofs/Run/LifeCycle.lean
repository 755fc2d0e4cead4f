import Mathlib.Data.List.Induction
import AddonPicker.Proofs.Run.Watch
import AddonPicker.Rehearsal.RunScene

/-!
# The life cycle of a run

What happens to a run comes as events in any order: handlers are registered, the run is started and
aborted, it takes its own steps, its lookups are answered, its deadline passes. Whatever the order,
a run moves from idle to running and from there to one end, and each handler that was registered by
then hears of it once or not at all, as its kind says.
-/

namespace AddonPicker

/-- Something that happens to a run with handlers of type `η`. -/
inductive RunEvent (η : Type)
  | register (occasion : Occasion) (handler : η)
  | start
  | abort
  | move (m : RunMove)

namespace RunEvent

variable {η : Type}

/-- The handlers that an event registers. -/
def registered : RunEvent η → List (Occasion × η)
  | .register occasion handler => [(occasion, handler)]
  | _ => []

/-- The handlers that events register, in order. -/
def registrations (events : List (RunEvent η)) : List (Occasion × η) :=
  events.flatMap registered

theorem registrations_append (before later : List (RunEvent η)) :
    registrations (before ++ later) = registrations before ++ registrations later :=
  List.flatMap_append

/-- The steps of a run register no handler. -/
theorem registrations_moves (moves : List RunMove) :
    registrations (moves.map .move : List (RunEvent η)) = [] := by
  rw [registrations, List.flatMap_map]
  exact List.flatMap_eq_nil_iff.mpr fun _ _ => rfl

/-- What an event makes of a run, whatever the handlers do that hear of it. -/
def after : RunEvent η → Run η → Run η
  | .register occasion handler, r => r.on occasion handler
  | .start, r => if r.state = .idle then { r with state := .running, phase := .scheduled } else r
  | .abort, r => r.abort.2
  | .move m, r => (m.apply r).1.close

theorem consistent_after {r : Run η} (h : r.Consistent) (e : RunEvent η) :
    (e.after r).Consistent := by
  cases e with
  | register occasion handler => exact h.of_view rfl h.phase
  | start =>
      rw [after]
      split
      · exact h.started ‹_›
      · exact h
  | abort => exact (Run.stays_abort h).consistent
  | move m =>
      rcases m.stays_or_ends h with stays | ends
      · exact (Run.consistent_close stays.consistent).2.2
      · exact (Run.consistent_close ends.consistent).2.2

/-- What events make of a run. -/
def afterAll (events : List (RunEvent η)) (r : Run η) : Run η :=
  events.foldl (fun r e => e.after r) r

theorem afterAll_append (before later : List (RunEvent η)) (r : Run η) :
    afterAll (before ++ later) r = afterAll later (afterAll before r) :=
  List.foldl_append

theorem consistent_afterAll (events : List (RunEvent η)) {r : Run η} (h : r.Consistent) :
    (afterAll events r).Consistent := by
  induction events generalizing r with
  | nil => exact h
  | cons e later ih => exact ih (e.consistent_after h)

theorem handlers_after {r : Run η} (h : r.Consistent) (e : RunEvent η) :
    (e.after r).handlers = r.handlers ++ e.registered := by
  cases e with
  | register occasion handler => rfl
  | start =>
      rw [after]
      split <;> exact (List.append_nil _).symm
  | abort => exact (Run.stays_abort h).handlers.trans (List.append_nil _).symm
  | move m =>
      refine Eq.trans ?_ (List.append_nil _).symm
      rcases m.stays_or_ends h with stays | ends
      · exact (Run.consistent_close stays.consistent).2.1.trans stays.handlers
      · exact (Run.consistent_close ends.consistent).2.1.trans ends.handlers

/-- A run has the handlers that were registered. -/
theorem handlers_afterAll {r : Run η} (h : r.Consistent) (events : List (RunEvent η)) :
    (afterAll events r).handlers = r.handlers ++ registrations events := by
  induction events generalizing r with
  | nil => exact (List.append_nil _).symm
  | cons e later ih =>
      show (afterAll later (e.after r)).handlers = _
      rw [ih (e.consistent_after h), handlers_after h, List.append_assoc]
      rfl

/-- Nothing shows of what happens to a finished run. -/
theorem view_after {r : Run η} (h : r.Consistent) (finished : r.state.isFinished = true)
    (e : RunEvent η) : (e.after r).view = r.view := by
  cases e with
  | register occasion handler => rfl
  | start => rw [after, if_neg (RunState.ne_idle_of_isFinished finished)]
  | abort => exact (Run.stays_abort h).view
  | move m =>
      rcases m.stays_or_ends h with stays | ends
      · exact (Run.consistent_close stays.consistent).1.trans stays.view
      · exact absurd ends.running (RunState.ne_running_of_isFinished finished)

/-- A finished run shows what it showed when it ended. -/
theorem view_afterAll {r : Run η} (h : r.Consistent) (finished : r.state.isFinished = true)
    (events : List (RunEvent η)) : (afterAll events r).view = r.view := by
  induction events generalizing r with
  | nil => rfl
  | cons e later ih =>
      have same := view_after h finished e
      have state : (e.after r).state = r.state := congrArg RunView.state same
      exact (ih (e.consistent_after h) (state ▸ finished)).trans same

/-- A finished run stays as it ended. -/
theorem state_afterAll {r : Run η} (h : r.Consistent) (finished : r.state.isFinished = true)
    (events : List (RunEvent η)) : (afterAll events r).state = r.state :=
  congrArg RunView.state (view_afterAll h finished events)

end RunEvent

namespace Host

variable {σ η : Type} [Host σ η]

/-- Let an event happen to the run at a position. -/
def happen (i : Nat) : RunEvent η → Act σ Unit
  | .register occasion handler =>
    modify fun s => Owner.setRuns ((Owner.runs s).modify i (Run.on occasion handler)) s
  | .start => Owner.start i
  | .abort => do let _ ← Owner.abort i
  | .move m => transition i m.apply

theorem happen_abort (i : Nat) (s : σ) :
    ((happen i .abort : Act σ Unit).perform s).2 = ((Owner.abort i).perform s).2 :=
  Act.perform_discard _ s

/-- What events come to. Those that fail leave behind what they did. -/
def follow (i : Nat) (events : List (RunEvent η)) (s : σ) : σ :=
  events.foldl (fun s e => ((happen i e : Act σ Unit).perform s).2) s

theorem follow_concat (i : Nat) (before : List (RunEvent η)) (e : RunEvent η) (s : σ) :
    follow i (before ++ [e]) s = ((happen i e : Act σ Unit).perform (follow i before s)).2 :=
  List.foldl_append

theorem follow_append (i : Nat) (before after : List (RunEvent η)) (s : σ) :
    follow i (before ++ after) s = follow i after (follow i before s) :=
  List.foldl_append

end Host

/-- The states that can follow on a state. -/
inductive RunState.Next : RunState → RunState → Prop
  | same (s : RunState) : Next s s
  | started : Next .idle .running
  | ended {s : RunState} (finished : s.isFinished = true) : Next .running s

namespace Watched

variable {σ η : Type} [Host σ η] {i : Nat}

/-- What an event is to a run. -/
inductive Passage (i : Nat) (r r' : Run η) (w w' : Watched σ η) : Prop
  | stays (view : r'.view = r.view) (calls : w'.calls = w.calls)
  | starts (idle : r.state = .idle) (running : r'.state = .running) (calls : w'.calls = w.calls)
  | ends (running : r.state = .running) (finished : r'.state.isFinished = true)
      (handlers : r'.handlers = r.handlers) (told : Told i r'.view r'.announcement w w')

theorem calls_abort (w : Watched σ η) :
    ((Owner.abort i : Act (Watched σ η) Bool).perform w).2.calls = w.calls := by
  simp only [Owner.abort, Act.perform_bind, Act.perform_get]
  cases Owner.run? w i with
  | none => rfl
  | some r =>
      dsimp only
      generalize r.abort = asked
      obtain ⟨answer, r'⟩ := asked
      cases answer <;> rfl

/-- A step of its own lets a run stay or ends it. -/
theorem passage_move [LawfulOwner σ] {w : Watched σ η} {r : Run η}
    (known : Owner.run? w i = some r) (h : r.Consistent)
    (tame : ∀ h ∈ r.handlers, Host.AsksOnly σ i h.2) (m : RunMove) :
    let w' := ((Host.transition i m.apply : Act (Watched σ η) Unit).perform w).2
    let r' := (m.apply r).1.close
    Owner.run? w' i = some r' ∧ r'.handlers = r.handlers ∧ Passage i r r' w w' := by
  rcases m.stays_or_ends h with stays | ends
  · have moved := transition_of_stays known stays
    obtain ⟨view, handlers, -⟩ := Run.consistent_close stays.consistent
    exact ⟨moved.1, handlers.trans stays.handlers, .stays (view.trans stays.view) moved.2⟩
  · have moved := transition_of_ends known ends tame
    obtain ⟨view, handlers, -⟩ := Run.consistent_close ends.consistent
    have same := handlers.trans ends.handlers
    have state : (m.apply r).1.close.state = (m.apply r).1.state := congrArg RunView.state view
    refine ⟨moved.1, same, .ends ends.running ?_ same ?_⟩
    · rw [state]
      exact ends.finished
    · rw [view, Run.announcement_congr view handlers]
      exact moved.2

/-- An event lets a run stay, starts it or ends it. Handlers that do nothing to the run but ask for
its cancellation have no part in what becomes of it. -/
theorem passage_after [LawfulOwner σ] {w : Watched σ η} {r : Run η}
    (known : Owner.run? w i = some r) (h : r.Consistent)
    (tame : ∀ h ∈ r.handlers, Host.AsksOnly σ i h.2) (e : RunEvent η) :
    let w' := ((Host.happen i e : Act (Watched σ η) Unit).perform w).2
    Owner.run? w' i = some (e.after r) ∧ (e.after r).handlers = r.handlers ++ e.registered ∧
      Passage i r (e.after r) w w' := by
  cases e with
  | register occasion handler => exact ⟨Owner.run?_modify known _, rfl, .stays rfl rfl⟩
  | start =>
      by_cases idle : r.state = .idle
      · have started := Owner.run?_start known idle
        have calls : ((Owner.start i : Act (Watched σ η) Unit).perform w).2.calls = w.calls := by
          rw [Owner.perform_start_of_idle known idle]
          rfl
        rw [RunEvent.after, if_pos idle]
        exact ⟨started, (List.append_nil _).symm, .starts idle rfl calls⟩
      · have refused := Owner.perform_start_of_ne_idle known idle
        rw [RunEvent.after, if_neg idle]
        refine ⟨?_, (List.append_nil _).symm, ?_⟩
        · show Owner.run? ((Owner.start i : Act (Watched σ η) Unit).perform w).2 i = some r
          rw [refused]
          exact known
        · refine .stays rfl ?_
          show ((Owner.start i : Act (Watched σ η) Unit).perform w).2.calls = w.calls
          rw [refused]
  | abort =>
      have stays := Run.stays_abort h
      rw [Host.happen_abort]
      refine ⟨Owner.run?_abort known, ?_, .stays stays.view ?_⟩
      · exact stays.handlers.trans (List.append_nil _).symm
      · exact calls_abort w
  | move m =>
      obtain ⟨known', handlers, passage⟩ := passage_move known h tame m
      exact ⟨known', handlers.trans (List.append_nil _).symm, passage⟩

theorem passage_happen [LawfulOwner σ] {w : Watched σ η} {r : Run η}
    (known : Owner.run? w i = some r) (h : r.Consistent)
    (tame : ∀ h ∈ r.handlers, Host.AsksOnly σ i h.2) (e : RunEvent η) :
    let w' := ((Host.happen i e : Act (Watched σ η) Unit).perform w).2
    ∃ r', Owner.run? w' i = some r' ∧ r'.Consistent ∧
      r'.handlers = r.handlers ++ e.registered ∧ Passage i r r' w w' :=
  have ⟨known', handlers, passage⟩ := passage_after known h tame e
  ⟨_, known', e.consistent_after h, handlers, passage⟩

/-- What a run is after events does not hang on its handlers, if they do nothing to it but ask for
its cancellation. -/
theorem run?_follow [LawfulOwner σ] (events : List (RunEvent η)) {w : Watched σ η} {r : Run η}
    (known : Owner.run? w i = some r) (h : r.Consistent)
    (tame : ∀ h ∈ r.handlers ++ RunEvent.registrations events, Host.AsksOnly σ i h.2) :
    Owner.run? (Host.follow i events w) i = some (RunEvent.afterAll events r) := by
  induction events generalizing w r with
  | nil => exact known
  | cons e later ih =>
      have registered : RunEvent.registrations (e :: later) =
          e.registered ++ RunEvent.registrations later := rfl
      rw [registered, ← List.append_assoc] at tame
      have own : ∀ h ∈ r.handlers, Host.AsksOnly σ i h.2 := fun h among =>
        tame h (List.mem_append_left _ (List.mem_append_left _ among))
      obtain ⟨known', handlers, -⟩ := passage_after known h own e
      rw [← handlers] at tame
      exact ih known' (e.consistent_after h) tame

/-- A finished run is done for: nothing shows of later events, and nobody is called again. -/
theorem follow_of_isFinished [LawfulOwner σ] (events : List (RunEvent η)) {w : Watched σ η}
    {r : Run η} (known : Owner.run? w i = some r) (h : r.Consistent)
    (finished : r.state.isFinished = true)
    (tame : ∀ h ∈ r.handlers ++ RunEvent.registrations events, Host.AsksOnly σ i h.2) :
    ∃ r', Owner.run? (Host.follow i events w) i = some r' ∧ r'.view = r.view ∧
      (Host.follow i events w).calls = w.calls := by
  induction events generalizing w r with
  | nil => exact ⟨r, known, rfl, rfl⟩
  | cons e later ih =>
      have registered : RunEvent.registrations (e :: later) =
          e.registered ++ RunEvent.registrations later := rfl
      rw [registered, ← List.append_assoc] at tame
      have own : ∀ h ∈ r.handlers, Host.AsksOnly σ i h.2 := fun h among =>
        tame h (List.mem_append_left _ (List.mem_append_left _ among))
      obtain ⟨r', known', h', handlers, passage⟩ := passage_happen known h own e
      rw [← handlers] at tame
      cases passage with
      | stays view calls =>
          have state : r'.state = r.state := congrArg RunView.state view
          obtain ⟨r'', known'', view', calls'⟩ := ih known' h' (state ▸ finished) tame
          exact ⟨r'', known'', view'.trans view, calls'.trans calls⟩
      | starts idle => exact absurd idle (RunState.ne_idle_of_isFinished finished)
      | ends running => exact absurd running (RunState.ne_running_of_isFinished finished)

/-- Whatever happens to a new run, it has the handlers that were registered, and none of them is
called before it is finished. -/
theorem follow_of_new [LawfulOwner σ] (events : List (RunEvent η)) {w : Watched σ η}
    {selected : List Choice} {scope : Scope} {timeout : Value} {conduct : Conduct}
    (known : Owner.run? w i = some { selected, scope, timeout, conduct })
    (tame : ∀ h ∈ RunEvent.registrations events, Host.AsksOnly σ i h.2) :
    ∃ r, Owner.run? (Host.follow i events w) i = some r ∧ r.Consistent ∧
      r.handlers = RunEvent.registrations events ∧
      (r.state.isFinished = false → (Host.follow i events w).calls = w.calls) := by
  induction events using List.reverseRecOn with
  | nil => exact ⟨_, known, Run.consistent_new selected scope timeout conduct, rfl, fun _ => rfl⟩
  | append_singleton before e ih =>
      have registered : RunEvent.registrations (before ++ [e]) =
          RunEvent.registrations before ++ e.registered := by
        simp [RunEvent.registrations]
      rw [registered] at tame ⊢
      obtain ⟨r, known, h, handlers, silent⟩ := ih fun h among =>
        tame h (List.mem_append_left _ among)
      have own : ∀ h ∈ r.handlers, Host.AsksOnly σ i h.2 := fun h among =>
        tame h (List.mem_append_left _ (handlers ▸ among))
      obtain ⟨r', known', h', handlers', passage⟩ := passage_happen known h own e
      rw [Host.follow_concat]
      refine ⟨r', known', h', handlers ▸ handlers', fun unfinished => ?_⟩
      cases passage with
      | stays view calls =>
          have state : r'.state = r.state := congrArg RunView.state view
          exact calls.trans (silent (state ▸ unfinished))
      | starts idle running calls =>
          have notYet : r.state.isFinished = false := by rw [idle]; rfl
          exact calls.trans (silent notYet)
      | ends running finished handlers told =>
          rw [finished] at unfinished
          exact absurd unfinished.symm Bool.false_ne_true

/-- A running run calls nobody until it ends, and then the handlers that it has by then. -/
theorem told_of_running [LawfulOwner σ] {w : Watched σ η} {r : Run η} (before : List (RunEvent η))
    (known : Owner.run? (Host.follow i before w) i = some r) (consistent : r.Consistent)
    (registered : r.handlers = RunEvent.registrations before)
    (quiet : (Host.follow i before w).calls = w.calls) (running : r.state = .running)
    (after : List (RunEvent η))
    (tame : ∀ h ∈ RunEvent.registrations (before ++ after), Host.AsksOnly σ i h.2) :
    let r' := RunEvent.afterAll after r
    let w' := Host.follow i (before ++ after) w
    Owner.run? w' i = some r' ∧ r'.handlers = RunEvent.registrations (before ++ after) ∧
      ((r'.state = .running ∧ w'.calls = w.calls) ∨
      (r'.state.isFinished = true ∧ ∃ heard e later r₁, after = heard ++ e :: later ∧
        Owner.run? (Host.follow i (before ++ heard) w) i = some r₁ ∧ r₁.state = .running ∧
        Told i r'.view ({ r' with handlers := RunEvent.registrations (before ++ heard) } :
          Run η).announcement w w')) := by
  induction after using List.reverseRecOn with
  | nil =>
      simp only [List.append_nil]
      exact ⟨known, registered, .inl ⟨running, quiet⟩⟩
  | append_singleton after e ih =>
      have parted : RunEvent.registrations (before ++ (after ++ [e])) =
          RunEvent.registrations (before ++ after) ++ e.registered := by
        simp [RunEvent.registrations]
      rw [parted] at tame ⊢
      obtain ⟨known, handlers, stands⟩ := ih fun h among => tame h (List.mem_append_left _ among)
      have stood := RunEvent.consistent_afterAll after consistent
      have next : RunEvent.afterAll (after ++ [e]) r = e.after (RunEvent.afterAll after r) :=
        RunEvent.afterAll_append after [e] r
      have own : ∀ h ∈ (RunEvent.afterAll after r).handlers, Host.AsksOnly σ i h.2 :=
        fun h among => tame h (List.mem_append_left _ (handlers ▸ among))
      obtain ⟨known', handlers', passage⟩ := passage_after known stood own e
      rw [next, ← List.append_assoc, Host.follow_concat]
      refine ⟨known', handlers'.trans (by rw [handlers]), ?_⟩
      generalize e.after (RunEvent.afterAll after r) = r' at handlers' passage ⊢
      rcases stands with
        ⟨running, silent⟩ | ⟨finished, heard, e₁, later, r₁, split, at₁, run₁, told⟩
      · cases passage with
        | stays view calls =>
            have state : r'.state = _ := congrArg RunView.state view
            exact .inl ⟨state.trans running, calls.trans silent⟩
        | starts idle => cases running.symm.trans idle
        | ends _ finished same told =>
            refine .inr ⟨finished, after, e, [], _, rfl, known, running, ?_⟩
            rw [← handlers, ← same]
            exact told.congr silent rfl
      · cases passage with
        | stays view calls =>
            have state : r'.state = _ := congrArg RunView.state view
            refine .inr ⟨state ▸ finished, heard, e₁, later ++ [e], r₁, ?_, at₁, run₁, ?_⟩
            · rw [split, List.append_assoc]
              rfl
            · have due (hs : List (Occasion × η)) :
                  ({ r' with handlers := hs } : Run η).announcement =
                    ({ RunEvent.afterAll after r with handlers := hs } : Run η).announcement :=
                Run.announcement_congr view rfl
              rw [view, due]
              exact told.congr rfl calls
        | starts idle => exact absurd idle (RunState.ne_idle_of_isFinished finished)
        | ends running => exact absurd running (RunState.ne_running_of_isFinished finished)

theorem Passage.next {r r' : Run η} {w w' : Watched σ η} (passage : Passage i r r' w w') :
    r.state.Next r'.state := by
  cases passage with
  | stays view calls =>
      have state : r'.state = r.state := congrArg RunView.state view
      rw [state]
      exact .same r.state
  | starts idle running calls =>
      rw [idle, running]
      exact .started
  | ends running finished handlers told =>
      rw [running]
      exact .ended finished

/-- An event that brings a run to its end tells the handlers. -/
theorem Passage.told {r r' : Run η} {w w' : Watched σ η} (passage : Passage i r r' w w')
    (unfinished : r.state.isFinished = false) (finished : r'.state.isFinished = true) :
    r'.handlers = r.handlers ∧ Told i r'.view r'.announcement w w' := by
  cases passage with
  | stays view calls =>
      have state : r'.state = r.state := congrArg RunView.state view
      rw [state, unfinished] at finished
      exact absurd finished Bool.false_ne_true
  | starts idle running => exact absurd running (RunState.ne_running_of_isFinished finished)
  | ends running finished handlers told => exact ⟨handlers, told⟩

theorem mirrors_happen (i : Nat) (e : RunEvent η) :
    Mirrors (Host.happen i e : Act (Watched σ η) Unit) (Host.happen i e) := by
  cases e with
  | register occasion handler => exact fun _ => rfl
  | start => exact mirrors_start i
  | abort => exact (mirrors_abort i).bind fun _ _ => rfl
  | move m => exact mirrors_transition i m.apply

/-- Without the record, events come to the same. -/
theorem host_follow (i : Nat) (events : List (RunEvent η)) (w : Watched σ η) :
    (Host.follow i events w).host = Host.follow i events w.host := by
  induction events generalizing w with
  | nil => rfl
  | cons e later ih =>
      have same : ((Host.happen i e : Act σ Unit).perform w.host).2 =
          ((Host.happen i e : Act (Watched σ η) Unit).perform w).2.host :=
        congrArg Prod.snd (mirrors_happen i e w)
      show (Host.follow i later ((Host.happen i e : Act (Watched σ η) Unit).perform w).2).host =
        Host.follow i later ((Host.happen i e : Act σ Unit).perform w.host).2
      rw [ih, same]

/-- What a run goes through, at three moments: before an event, after it, and after whatever
happens later. -/
structure LifeCycle (i : Nat) (w : Watched σ η) (before : List (RunEvent η)) (e : RunEvent η)
    (after : List (RunEvent η)) (r r' r'' : Run η) : Prop where
  known : Owner.run? (Host.follow i before w) i = some r
  next : Owner.run? (Host.follow i (before ++ [e]) w) i = some r'
  last : Owner.run? (Host.follow i (before ++ e :: after) w) i = some r''
  leads : r.state.Next r'.state
  startsOnce : r.state ≠ .idle →
    (Owner.start i).perform (Host.follow i before w) =
      (.error .alreadyStarted, Host.follow i before w)
  /-- Nobody is called before the end. -/
  silent : r.state.isFinished = false → (Host.follow i before w).calls = []
  /-- The event that ends the run tells the handlers that were registered before it, and nobody is
  ever called again. -/
  told : r.state.isFinished = false → r'.state.isFinished = true →
    r'.handlers = RunEvent.registrations before ∧
      Told i r'.view r'.announcement w (Host.follow i (before ++ e :: after) w)
  final : r'.state.isFinished = true → r''.view = r'.view
  /-- Only a success has something to show. -/
  empty : r.state ≠ .succeeded → r.dependencies = [] ∧ r.warnings = [] ∧ r.closure = {}
  warnings : r.state = .succeeded → r.warnings = r.closure.warnings
  failure : r.failure.isSome = true ↔ r.state = .failed
  /-- Without the record, the same happens. -/
  unwatched : (Host.follow i (before ++ e :: after) w).host =
    Host.follow i (before ++ e :: after) w.host

/-- Whatever happens to a new run in whatever order, it goes through its life cycle. Its handlers
may fail and ask for its cancellation. -/
theorem lifeCycle_of_new [LawfulOwner σ] {w : Watched σ η} {selected : List Choice}
    {scope : Scope} {timeout : Value} {conduct : Conduct}
    (known : Owner.run? w i = some { selected, scope, timeout, conduct }) (unheard : w.calls = [])
    (before : List (RunEvent η)) (e : RunEvent η) (after : List (RunEvent η))
    (tame : ∀ h ∈ RunEvent.registrations (before ++ e :: after), Host.AsksOnly σ i h.2) :
    ∃ r r' r'', LifeCycle i w before e after r r' r'' := by
  have split : before ++ e :: after = (before ++ [e]) ++ after := by simp
  have registered : RunEvent.registrations (before ++ e :: after) =
      RunEvent.registrations before ++ e.registered ++ RunEvent.registrations after := by
    simp [RunEvent.registrations]
  rw [registered] at tame
  obtain ⟨r, knownBefore, h, handlers, silent⟩ := follow_of_new before known fun h among =>
    tame h (List.mem_append_left _ (List.mem_append_left _ among))
  have own : ∀ h ∈ r.handlers, Host.AsksOnly σ i h.2 := fun h among =>
    tame h (List.mem_append_left _ (List.mem_append_left _ (handlers ▸ among)))
  obtain ⟨r', knownNext, h', handlers', passage⟩ := passage_happen knownBefore h own e
  rw [← Host.follow_concat] at knownNext passage
  rw [handlers] at handlers'
  rw [← handlers'] at tame
  obtain ⟨r'', knownLast, -⟩ := follow_of_new (before ++ e :: after) known (by
    rw [registered, ← handlers']
    exact tame)
  -- Once the run is finished, the last moment shows what the one before it shows.
  have done (finished : r'.state.isFinished = true) :
      r''.view = r'.view ∧ (Host.follow i (before ++ e :: after) w).calls =
        (Host.follow i (before ++ [e]) w).calls := by
    obtain ⟨r₃, known₃, view, calls⟩ := follow_of_isFinished after knownNext h' finished tame
    rw [← Host.follow_append, ← split] at known₃ calls
    have same : r'' = r₃ := Option.some.inj (knownLast.symm.trans known₃)
    exact ⟨same ▸ view, calls⟩
  refine ⟨r, r', r'', knownBefore, knownNext, knownLast, passage.next,
    Owner.perform_start_of_ne_idle knownBefore, fun unfinished => (silent unfinished).trans unheard,
    fun unfinished finished => ?_, fun finished => (done finished).1, fun unsuccessful => ?_,
    h.warnings, h.failure, host_follow i _ w⟩
  · obtain ⟨same, told⟩ := passage.told unfinished finished
    exact ⟨same.trans handlers, told.congr (silent unfinished) (done finished).2⟩
  · obtain ⟨closure, warnings⟩ := h.empty unsuccessful
    exact ⟨Run.dependencies_of_state_ne unsuccessful, warnings, closure⟩

end Watched

namespace Rehearsal

instance : LawfulOwner Solo where
  runs_setRuns _ _ := rfl
  runs_setJournal _ _ := rfl

namespace Solo

/-- What a noting handler does once it has noted what it was told. -/
def react (i : Nat) (h : NotingHandler) : Act Solo Unit :=
  if h.aborts then do
    let answer ← Owner.abort i
    Journaled.note (.handlerAborted h.label answer)
    Act.failOn h.fault
  else Act.failOn h.fault

theorem perform_invoke (i : Nat) (h : NotingHandler) (n : Notice) (s : Solo) :
    ∃ j : Journal, (Host.invoke i h n : Act Solo Unit).perform s =
      (react i h).perform { s with journal := j } := by
  show ∃ j, (Solo.invoke i h n).perform s = _
  rw [Solo.invoke]
  simp only [Act.perform_bind, Act.perform_get]
  cases Owner.run? s i with
  | none => exact ⟨s.journal, rfl⟩
  | some r => exact ⟨_, rfl⟩

theorem perform_react (i : Nat) (h : NotingHandler) (s : Solo) :
    ((react i h).perform s).1 = h.fault.elim (.ok ()) .error ∧
      Owner.OnlyAsked i s ((react i h).perform s).2 := by
  rw [react]
  split
  · have asked := Owner.onlyAsked_abort i s
    obtain ⟨answer, answered⟩ := Owner.perform_abort_fst i s
    rw [Act.perform_bind]
    generalize (Owner.abort i).perform s = performed at asked answered
    obtain ⟨result, s'⟩ := performed
    subst answered
    show ((Act.failOn h.fault).perform _).1 = _ ∧ Owner.OnlyAsked i s
      ((Act.failOn h.fault).perform ((Journaled.note _ : Act Solo Unit).perform s').2).2
    rw [Act.perform_failOn, Act.perform_failOn]
    exact ⟨rfl, asked⟩
  · rw [Act.perform_failOn]
    exact ⟨rfl, .inl rfl⟩

/-- A noting handler does nothing to a run but ask for its cancellation. -/
theorem asksOnly_invoke (i : Nat) (h : NotingHandler) : Host.AsksOnly Solo i h := by
  intro n s
  obtain ⟨j, invoked⟩ := perform_invoke i h n s
  rw [invoked]
  exact (perform_react i h { s with journal := j }).2

/-- A noting handler fails with its own fault only. -/
theorem contained_invoke (i : Nat) {h : NotingHandler} (ordinary : h.fault ≠ some .cancelled) :
    Host.Contained Solo i h := by
  intro n s
  obtain ⟨j, invoked⟩ := perform_invoke i h n s
  rw [invoked, (perform_react i h _).1]
  cases fault : h.fault with
  | none => exact fun cancelled => nomatch cancelled
  | some f =>
      intro cancelled
      cases cancelled
      exact ordinary fault

/-- A new run with nothing selected. -/
def blank : Watched Solo NotingHandler where
  host := {
    runs := [{
      selected := []
      scope := { isInstalled := fun _ => false, serves := fun _ => true, naming := .standard } }]
    journal := {} }

/-- Three handlers are registered, and the run is aborted before its first step. -/
def abortedEarly : List (RunEvent NotingHandler) :=
  [.register .finished ⟨.str "first", true, some (.raised "ValueError" "")⟩,
    .register .succeeded ⟨.str "second", false, none⟩,
    .register .finished ⟨.str "third", false, none⟩,
    .start, .abort, .move .begin]

/-- The end of the run is announced once to those who wait for any end, although the first of them
fails and asks for an abort. -/
theorem lifeCycle_of_new_blank :
    let after : List (RunEvent NotingHandler) := [.start, .move .begin]
    let events := abortedEarly ++ .move .conclude :: after
    (∀ h ∈ RunEvent.registrations events,
      Host.AsksOnly Solo 0 h.2 ∧ Host.Contained Solo 0 h.2) ∧
    (∃ r r' r'', Watched.LifeCycle 0 blank abortedEarly (.move .conclude) after r r' r'') ∧
    (Host.follow 0 events blank).calls.map (fun c => (c.handler.label, c.notice)) =
      [(.str "first", .finished), (.str "third", .finished)] := by
  intro after events
  have tame : ∀ h ∈ RunEvent.registrations events, Host.AsksOnly Solo 0 h.2 :=
    fun h _ => asksOnly_invoke 0 h.2
  have ordinary : ∀ h ∈ RunEvent.registrations events, h.2.fault ≠ some .cancelled := by
    decide
  refine ⟨fun h among => ⟨tame h among, contained_invoke 0 (ordinary h among)⟩, ?_, rfl⟩
  exact Watched.lifeCycle_of_new (w := blank) rfl rfl abortedEarly (.move .conclude) after tame

end Solo

end Rehearsal

end AddonPicker
