import AddonPicker.Proofs.Resolution.Closure
import AddonPicker.Proofs.Run.Doomed

/-!
# Aborting a run

An abort that reaches a run while it runs makes it end as skipped, however much it has found by
then: nothing of that is kept, no lookup is started after the abort, and only the handlers for any
end are called. An abort that is asked for at any other time, also by a handler while the run
announces its end, changes nothing about the run and keeps nobody from being called.
-/

namespace AddonPicker

namespace Watched

variable {σ η : Type} [Host σ η] {i : Nat}

/-- The calls of the handlers for any end. -/
def finishers (handlers : List (Occasion × η)) : List (η × Notice) :=
  (handlers.filter (·.1 == .finished)).map fun h => (h.2, .finished)

/-- A skipped run has something to tell to the handlers for any end, and to nobody else. -/
theorem announcement_of_skipped {r : Run η} (skipped : r.state = .skipped) :
    r.announcement = finishers r.handlers := by
  rw [Run.announcement, Run.notices, skipped, List.flatMap_singleton]
  rfl

/-- What an abort comes to that reaches a running run: `r` is the run when it is asked for, and
`r'` is the run after whatever happens later. -/
structure CalledOff (i : Nat) (w : Watched σ η) (before after : List (RunEvent η))
    (r r' : Run η) : Prop where
  ends : r'.state = .running ∨ r'.state = .skipped
  /-- Nothing is kept of what was found by then. -/
  empty : r'.dependencies = [] ∧ r'.warnings = [] ∧ r'.closure = {} ∧ r'.failure = none
  /-- The lookup that the run is in is the last one. -/
  rests : r.inquiry.Rests r'.inquiry
  silent : r'.state = .running → (Host.follow i (before ++ .abort :: after) w).calls = w.calls
  /-- The event that ends the run tells the handlers for any end that were registered before it,
  and nobody else. -/
  told : r'.state = .skipped → ∃ heard e later r₁, after = heard ++ e :: later ∧
    Owner.run? (Host.follow i (before ++ .abort :: heard) w) i = some r₁ ∧ r₁.state = .running ∧
    Told i r'.view (finishers (RunEvent.registrations (before ++ heard))) w
      (Host.follow i (before ++ .abort :: after) w)
  /-- The run ends as soon as it goes on. -/
  comes : ∀ pack version, ∃ r₁, r₁.state = .skipped ∧
    Owner.run? (Host.follow i (before ++ .abort :: after ++ RunEvent.turn pack version) w) i =
      some r₁

/-- What an abort comes to, asked for between two stretches of events. -/
structure AbortEffect (i : Nat) (w : Watched σ η) (before after : List (RunEvent η))
    (r r' : Run η) : Prop where
  known : Owner.run? (Host.follow i before w) i = some r
  last : Owner.run? (Host.follow i (before ++ .abort :: after) w) i = some r'
  calledOff : r.state = .running → CalledOff i w before after r r'
  /-- Any other run stays as it is, with the handlers that it has. -/
  unmoved : r.state ≠ .running → Owner.run? (Host.follow i (before ++ [.abort]) w) i = some r ∧
    (Host.follow i (before ++ [.abort]) w).calls = (Host.follow i before w).calls
  /-- An event that ends the run comes to the same whether the handlers ask for an abort or not, and
  all of them are called. -/
  announced : ∀ e : RunEvent η, r.state = .running → (e.after r).state.isFinished = true →
    Owner.run? (Host.follow i (before ++ [e]) w) i = some (e.after r) ∧
      Told i (e.after r).view (e.after r).announcement (Host.follow i before w)
        (Host.follow i (before ++ [e]) w)

variable [LawfulOwner σ] {w : Watched σ η} {selected : List Choice} {scope : Scope}
  {timeout : Value} {conduct : Conduct}

/-- A run that was aborted while it ran calls nobody until it is skipped, and then the handlers for
any end that it has by then. -/
theorem told_of_doomed {r : Run η} (before : List (RunEvent η))
    (known : Owner.run? (Host.follow i before w) i = some r) (consistent : r.Consistent)
    (registered : r.handlers = RunEvent.registrations before)
    (quiet : (Host.follow i before w).calls = w.calls) (running : r.state = .running)
    (doomed : r.Doomed) (after : List (RunEvent η)) (direct : ∀ e ∈ after, e.isDirect = true)
    (tame : ∀ h ∈ RunEvent.registrations (before ++ after), Host.AsksOnly σ i h.2) :
    let r' := RunEvent.afterAll after r
    let w' := Host.follow i (before ++ after) w
    Owner.run? w' i = some r' ∧ r'.handlers = RunEvent.registrations (before ++ after) ∧
      ((r'.state = .running ∧ w'.calls = w.calls) ∨
      (r'.state = .skipped ∧ ∃ heard e later r₁, after = heard ++ e :: later ∧
        Owner.run? (Host.follow i (before ++ heard) w) i = some r₁ ∧ r₁.state = .running ∧
        Told i r'.view (finishers (RunEvent.registrations (before ++ heard))) w w')) := by
  intro r' w'
  obtain ⟨known', handlers, stands⟩ :=
    told_of_running before known consistent registered quiet running after tame
  refine ⟨known', handlers, stands.imp_right ?_⟩
  rintro ⟨finished, heard, e, later, r₁, split, at₁, run₁, told⟩
  have skipped : r'.state = .skipped :=
    (RunEvent.doomed_afterAll direct consistent doomed).1.ended finished
  have due : ({ r' with handlers := RunEvent.registrations (before ++ heard) } :
      Run η).announcement = finishers (RunEvent.registrations (before ++ heard)) :=
    announcement_of_skipped skipped
  exact ⟨skipped, heard, e, later, r₁, split, at₁, run₁, due ▸ told⟩

/-- An abort calls a running run off that carries out its inquiry itself. -/
theorem calledOff_of_inner {r : Run η} {before after : List (RunEvent η)}
    (known : Owner.run? (Host.follow i before w) i = some r) (consistent : r.Consistent)
    (inner : r.Inner) (registered : r.handlers = RunEvent.registrations before)
    (silent : (Host.follow i before w).calls = w.calls) (running : r.state = .running)
    (direct : ∀ e ∈ after, e.isDirect = true)
    (tame : ∀ h ∈ RunEvent.registrations (before ++ after), Host.AsksOnly σ i h.2) :
    CalledOff i w before after r (RunEvent.afterAll after r.abort.2) := by
  have parted (later : List (RunEvent η)) :
      RunEvent.registrations (before ++ [.abort] ++ later) =
        RunEvent.registrations (before ++ later) := by
    simp [RunEvent.registrations, RunEvent.registered]
  have stays := Run.stays_abort consistent
  have asked : Owner.run? (Host.follow i (before ++ [.abort]) w) i = some r.abort.2 := by
    rw [Host.follow_concat, Host.happen_abort]
    exact Owner.run?_abort known
  have quiet : (Host.follow i (before ++ [.abort]) w).calls = w.calls := by
    rw [Host.follow_concat, Host.happen_abort, calls_abort]
    exact silent
  have doomed := inner.doomed consistent running
  have handlers : r.abort.2.handlers = RunEvent.registrations (before ++ [.abort]) := by
    have own := parted []
    rw [List.append_nil, List.append_nil] at own
    rw [own]
    exact stays.handlers.trans registered
  obtain ⟨last, registered', stands⟩ := told_of_doomed (before ++ [.abort]) asked stays.consistent
    handlers quiet (r.abort_snd_eq.1.trans running) doomed after direct (by rw [parted]; exact tame)
  obtain ⟨later, rests⟩ := RunEvent.doomed_afterAll direct stays.consistent doomed
  have stood := RunEvent.consistent_afterAll after stays.consistent
  simp only [List.append_assoc, List.cons_append, List.nil_append] at last stands registered' parted
  generalize RunEvent.afterAll after r.abort.2 = r' at last registered' stands later rests stood ⊢
  have ends : r'.state = .running ∨ r'.state = .skipped := stands.imp And.left And.left
  have neither : r'.state ≠ .succeeded ∧ r'.state ≠ .failed := by
    rcases ends with state | state <;> rw [state] <;>
      exact ⟨RunState.noConfusion, RunState.noConfusion⟩
  obtain ⟨closure, warnings⟩ := stood.empty neither.1
  have failure : r'.failure = none :=
    Option.not_isSome_iff_eq_none.mp fun some => neither.2 (stood.failure.mp some)
  refine ⟨ends, ⟨Run.dependencies_of_state_ne neither.1, warnings, closure, failure⟩, ?_, ?_, ?_, ?_⟩
  · have waits : r.inquiry.Rests r.abort.2.inquiry := .inl (Run.phase_inquiry_abort r)
    exact waits.trans rests
  · intro running
    rcases stands with ⟨-, silent⟩ | ⟨skipped, -⟩
    · exact silent
    · cases running.symm.trans skipped
  · intro skipped
    rcases stands with ⟨running, -⟩ | ⟨-, heard, e, later, r₁, split, at₁, running, told⟩
    · cases running.symm.trans skipped
    · rw [parted] at told
      exact ⟨heard, e, later, r₁, split, at₁, running, told⟩
  · intro pack version
    refine ⟨_, later.turn stood pack version, ?_⟩
    rw [Host.follow_append]
    refine run?_follow _ last stood fun h among => tame h ?_
    rw [registered', parted] at among
    simpa [RunEvent.turn, RunEvent.registrations, RunEvent.registered] using among

/-- An abort of a run that carries out its inquiry itself, at any moment, among whatever else
happens to the run. The handlers may fail and ask for an abort themselves. -/
theorem abortEffect_of_new (known : Owner.run? w i = some { selected, scope, timeout, conduct })
    (timely : Deadline.ofTimeout timeout ≠ .passed)
    (within : timeout = .null ∨ conduct = .within) (before after : List (RunEvent η))
    (direct : ∀ e ∈ before ++ after, e.isDirect = true)
    (tame : ∀ h ∈ RunEvent.registrations (before ++ after), Host.AsksOnly σ i h.2) :
    ∃ r r', AbortEffect i w before after r r' := by
  have apart : RunEvent.registrations (before ++ after) =
      RunEvent.registrations before ++ RunEvent.registrations after := List.flatMap_append
  have tameBefore : ∀ h ∈ RunEvent.registrations before, Host.AsksOnly σ i h.2 := fun h among =>
    tame h (apart ▸ List.mem_append_left _ among)
  obtain ⟨r, knownBefore, consistent, handlers, silent⟩ := follow_of_new before known tameBefore
  have inner : r.Inner := by
    have new := Run.consistent_new (η := η) selected scope timeout conduct
    have reached := run?_follow before known new tameBefore
    cases knownBefore.symm.trans reached
    exact RunEvent.inner_afterAll (fun e among => direct e (List.mem_append_left _ among)) new
      (Run.inner_new selected scope timely within)
  have own : ∀ h ∈ r.handlers, Host.AsksOnly σ i h.2 := fun h among =>
    tameBefore h (handlers ▸ among)
  refine ⟨r, RunEvent.afterAll after r.abort.2, knownBefore, ?_, fun running => ?_, fun still => ?_,
    fun e running finished => ?_⟩
  · rw [Host.follow_append]
    have asked : Owner.run? ((Host.happen i .abort : Act (Watched σ η) Unit).perform
        (Host.follow i before w)).2 i = some r.abort.2 := by
      rw [Host.happen_abort]
      exact Owner.run?_abort knownBefore
    have stays := Run.stays_abort consistent
    refine run?_follow after asked stays.consistent fun h among => tame h ?_
    rw [stays.handlers, handlers, ← apart] at among
    exact among
  · exact calledOff_of_inner knownBefore consistent inner handlers
      (silent (by rw [running]; rfl)) running
      (fun e among => direct e (List.mem_append_right _ among)) tame
  · rw [Host.follow_concat, Host.happen_abort]
    refine ⟨?_, calls_abort _⟩
    rw [Owner.run?_abort knownBefore, Run.abort_of_ne_running consistent still]
  · rw [Host.follow_concat]
    obtain ⟨known', handlers', passage⟩ := passage_after knownBefore consistent own e
    exact ⟨known', (passage.told (by rw [running]; rfl) finished).2⟩

end Watched

namespace Rehearsal.Solo

/-- A new run over the ring that carries out its inquiry itself against a deadline. -/
def racer : Watched Solo NotingHandler where
  host := {
    runs := [{
      selected := ringSelection, scope := ringScope, timeout := .int 30, conduct := .within }]
    journal := {} }

/-- The next part of the ring is found, and the part after it is being looked up. -/
def racing : List (RunEvent NotingHandler) :=
  [.register .succeeded ⟨.str "first", false, none⟩,
    .register .finished ⟨.str "second", true, some (.raised "ValueError" "")⟩,
    .start, .move .begin, .move (.answerPack false (.ok (some (ringPack 1)))),
    .move (.answerVersion false (.ok (some (ringVersion 1)))), .move .expire]

/-- The lookup is answered, and the run asked for once more. -/
def answered : List (RunEvent NotingHandler) :=
  [.abort, .register .finished ⟨.str "third", false, none⟩,
    .move (.answerPack false (.ok (some (ringPack 7)))), .move (.answerVersion false (.ok none))]

/-- An abort that comes right after the deadline passed, while a lookup is on its way, ends the run
as skipped. -/
theorem abortEffect_of_new_ring :
    Deadline.ofTimeout (.int 30) ≠ .passed ∧
    (∀ e ∈ racing ++ answered, e.isDirect = true) ∧
    (∀ h ∈ RunEvent.registrations (racing ++ answered), Host.AsksOnly Solo 0 h.2) ∧
    (∃ r r', Watched.AbortEffect 0 racer racing answered r r') ∧
    (Owner.run? (Host.follow 0 racing racer) 0).map Run.state = some .running ∧
    (Host.follow 0 (racing ++ .abort :: answered) racer).calls.map
      (fun c => (c.handler.label.text, c.notice)) =
      [("second", .finished), ("third", .finished)] := by
  have ahead : Deadline.ofTimeout (.int 30) = .ahead := rfl
  have timely : Deadline.ofTimeout (.int 30) ≠ .passed := by rw [ahead]; exact nofun
  have direct : ∀ e ∈ racing ++ answered, e.isDirect = true := by decide
  have tame : ∀ h ∈ RunEvent.registrations (racing ++ answered), Host.AsksOnly Solo 0 h.2 :=
    fun h _ => asksOnly_invoke 0 h.2
  refine ⟨timely, direct, tame, ?_, by decide +kernel, by decide +kernel⟩
  exact Watched.abortEffect_of_new (w := racer) rfl timely (.inr rfl) racing answered direct tame

end Rehearsal.Solo

end AddonPicker
