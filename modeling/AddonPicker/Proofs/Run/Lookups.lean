import AddonPicker.Proofs.Resolution.Exchange
import AddonPicker.Proofs.Run.Follows
import AddonPicker.Proofs.Run.Inner

/-!
# The lookups of a run

A run looks a pack up, then the version of it that fits, then the next pack, until its inquiry has
come to a closure, to a fault or to a cancellation. Which lookups it has made can be told from where
its inquiry stands and from what it was answered so far. So nothing that happens to a run has it
look a key up twice, or one that needs no looking up, and a closure comes of just what was asked.
-/

namespace AddonPicker

namespace Lookup

/-- The key that is looked up. -/
def key : Lookup → PackKey
  | .pack provider id => ⟨provider, id⟩
  | .version provider id _ _ => ⟨provider, id⟩

/-- Whether it is a pack that is looked up. -/
def isPack : Lookup → Bool
  | .pack .. => true
  | .version .. => false

end Lookup

/-- Lookups among which no pack and no version is looked up twice, and none that is selected or
installed. -/
structure Scope.Spares (scope : Scope) (selected : List PackKey) (ls : List Lookup) : Prop where
  packs : ((ls.filter Lookup.isPack).map Lookup.key).Nodup
  versions : ((ls.filter fun l => !l.isPack).map Lookup.key).Nodup
  missing : ∀ l ∈ ls, scope.lacks selected l.key = true

/-- The lookups that were made for an exchange. -/
def Exchange.lookups (target : String) (x : Exchange) : List Lookup :=
  x.question.lookups target

variable {scope : Scope} {selected : List Choice} {target : String} {xs : List Exchange}
  {ls : List Lookup}

namespace Question

/-- A question takes one lookup of a pack and one of a version. -/
theorem keys_lookups (target : String) (qs : List Question) :
    ((qs.flatMap (lookups target)).filter Lookup.isPack).map Lookup.key = qs.map key ∧
      ((qs.flatMap (lookups target)).filter fun l => !l.isPack).map Lookup.key = qs.map key := by
  induction qs with
  | nil => exact ⟨rfl, rfl⟩
  | cons q later ih =>
      simp only [List.flatMap_cons, List.filter_append, List.map_append, ih.1, ih.2]
      exact ⟨rfl, rfl⟩

theorem key_of_mem_lookups {q : Question} {l : Lookup} (made : l ∈ q.lookups target) :
    l.key = q.key := by
  simp only [lookups, List.mem_cons, List.not_mem_nil, or_false] at made
  rcases made with rfl | rfl <;> rfl

end Question

/-- The lookups of questions about different missing keys, as far as they were made. -/
theorem Scope.spares_of_prefix {keys : List PackKey} {qs : List Question}
    (made : ls <+: qs.flatMap (Question.lookups target)) (distinct : (qs.map Question.key).Nodup)
    (missing : ∀ q ∈ qs, scope.lacks keys q.key = true) : scope.Spares keys ls := by
  obtain ⟨packs, versions⟩ := Question.keys_lookups target qs
  refine ⟨?_, ?_, fun l inside => ?_⟩
  · rw [← packs] at distinct
    exact distinct.sublist ((made.sublist.filter _).map _)
  · rw [← versions] at distinct
    exact distinct.sublist ((made.sublist.filter _).map _)
  · obtain ⟨q, among, made⟩ := List.mem_flatMap.mp (made.subset inside)
    rw [Question.key_of_mem_lookups made]
    exact missing q among

/-- As long as a search asks, it was spared all lookups that it has no need of. -/
theorem Progress.Conducted.spares {q : Question}
    (conducted : (asking q).Conducted scope selected xs)
    (made : ls <+: xs.flatMap (Exchange.lookups target) ++ q.lookups target) :
    scope.Spares (selected.map Choice.key) ls := by
  obtain ⟨distinct, missing⟩ := conducted.asked
  have all : xs.flatMap (Exchange.lookups target) ++ q.lookups target =
      (xs.map Exchange.question ++ [q]).flatMap (Question.lookups target) := by
    rw [List.flatMap_append, List.flatMap_map, List.flatMap_singleton]
    rfl
  exact Scope.spares_of_prefix (all ▸ made) distinct missing

/-- Where an inquiry stands that has got some answers and made some lookups. -/
def InquiryPhase.Reflects (target : String) (scope : Scope) (selected : List Choice)
    (xs : List Exchange) (ls : List Lookup) : InquiryPhase → Prop
  | .scheduled => xs = [] ∧ ls = []
  | .awaitingPack q => (Progress.asking q).Conducted scope selected xs ∧
    ls = xs.flatMap (Exchange.lookups target) ++ [.pack q.key.provider q.key.addonId]
  | .awaitingVersion q _ => (Progress.asking q).Conducted scope selected xs ∧
    ls = xs.flatMap (Exchange.lookups target) ++ q.lookups target
  | .ended (.ok closure) => (Progress.finished closure).Conducted scope selected xs ∧
    ls = xs.flatMap (Exchange.lookups target)
  | .ended (.error _) => True

namespace Inquiry

/-- Whether an inquiry that comes from one place to another goes on: after a pack it looks a version
up, and after a version a pack. -/
def goesOn (q q' : Inquiry) : Bool :=
  match q.phase, q'.phase with
  | .awaitingPack _, .awaitingPack _ => false
  | .awaitingVersion .., .awaitingVersion .. => false
  | _, _ => true

/-- The lookup that an inquiry makes when it comes to where it has to wait for one. -/
def made (target : String) (q q' : Inquiry) : List Lookup :=
  if q.goesOn q' then (q'.lookup? target).toList else []

/-- What was exchanged when an inquiry gets the answer to the lookup of a version. -/
def exchanged (q : Inquiry) (intercepted : Bool) (answer : Except Fault (Option Held)) :
    List Exchange :=
  match q.phase, answer with
  | .awaitingVersion question pack, .ok version =>
    if q.isInterrupted intercepted then [] else [⟨question, pack, version⟩]
  | _, _ => []

/-- What is recorded of an inquiry that has made some lookups and got some answers. -/
structure Logged (target : String) (scope : Scope) (selected : List Choice) (xs : List Exchange)
    (ls : List Lookup) (q : Inquiry) : Prop where
  spares : scope.Spares (selected.map Choice.key) ls
  reflects : q.phase.Reflects target scope selected xs ls

variable {q : Inquiry}

/-- An inquiry that stands where it stood has made no lookup. -/
theorem made_of_phase {q' : Inquiry} (same : q'.phase = q.phase) : q.made target q' = [] := by
  rw [made, lookup?, goesOn, same]
  cases q.phase <;> simp

/-- One that has stopped has made none either. -/
theorem made_ofOutcome (outcome : Except Fault Closure) :
    q.made target (ofOutcome outcome) = [] := by
  have none_ : (ofOutcome outcome).lookup? target = none := rfl
  rw [made, none_, Option.toList_none, ite_self]

theorem Logged.stop (logged : q.Logged target scope selected xs ls) (f : Fault)
    (more : List Exchange) :
    (ofOutcome (.error f)).Logged target scope selected more
      (ls ++ q.made target (ofOutcome (.error f))) := by
  rw [made_ofOutcome, List.append_nil]
  exact ⟨logged.spares, trivial⟩

/-- Where a search comes to, the next lookup is made. -/
theorem logged_ofProgress {p : Progress} (conducted : p.Conducted scope selected xs)
    (spares : scope.Spares (selected.map Choice.key) (xs.flatMap (Exchange.lookups target))) :
    (ofProgress p).Logged target scope selected xs
      (xs.flatMap (Exchange.lookups target) ++ ((ofProgress p).lookup? target).toList) := by
  cases p with
  | finished closure =>
      have none_ : (ofProgress (.finished closure)).lookup? target = none := rfl
      rw [none_, Option.toList_none, List.append_nil]
      exact ⟨spares, conducted, rfl⟩
  | failed f =>
      have none_ : (ofProgress (.failed f)).lookup? target = none := rfl
      rw [none_, Option.toList_none, List.append_nil]
      exact ⟨spares, trivial⟩
  | asking question =>
      have first : xs.flatMap (Exchange.lookups target) ++
          [.pack question.key.provider question.key.addonId] <+:
          xs.flatMap (Exchange.lookups target) ++ question.lookups target :=
        ⟨[_], by simp [Question.lookups]; rfl⟩
      exact ⟨conducted.spares first, conducted, rfl⟩

theorem Logged.begin (logged : q.Logged target scope selected xs ls) :
    (q.begin scope selected).Logged target scope selected xs
      (ls ++ q.made target (q.begin scope selected)) := by
  rw [Inquiry.begin]
  split
  · rename_i placed
    split
    · exact logged.stop .cancelled xs
    · have fresh := logged.reflects
      rw [placed] at fresh
      obtain ⟨rfl, rfl⟩ := fresh
      have going : q.goesOn (ofProgress (Search.start scope selected)) = true := by
        simp [goesOn, placed]
      rw [made, going]
      exact logged_ofProgress Progress.conducted_start logged.spares
  · rw [made_of_phase rfl, List.append_nil]
    exact logged

theorem Logged.answerPack (logged : q.Logged target scope selected xs ls) (intercepted : Bool)
    (answer : Except Fault (Option Pack)) :
    (q.answerPack intercepted answer).Logged target scope selected xs
      (ls ++ q.made target (q.answerPack intercepted answer)) := by
  rw [Inquiry.answerPack]
  split
  · rename_i question placed
    split
    · exact logged.stop .cancelled xs
    · cases answer with
      | error f => exact logged.stop f.ofLookup xs
      | ok pack? =>
          have reflects := logged.reflects
          rw [placed] at reflects
          obtain ⟨conducted, rfl⟩ := reflects
          have next : q.made target { phase := .awaitingVersion question pack? } =
              [.version question.key.provider question.key.addonId question.dependency.pin
                target] := by
            simp [made, goesOn, lookup?, placed]
          dsimp only
          rw [next, List.append_assoc]
          exact ⟨conducted.spares List.prefix_rfl, conducted, rfl⟩
  · rw [made_of_phase rfl, List.append_nil]
    exact logged

theorem Logged.answerVersion (logged : q.Logged target scope selected xs ls) (intercepted : Bool)
    (answer : Except Fault (Option Held)) :
    (q.answerVersion scope intercepted answer).Logged target scope selected
      (xs ++ q.exchanged intercepted answer)
      (ls ++ q.made target (q.answerVersion scope intercepted answer)) := by
  rw [Inquiry.answerVersion]
  split
  · rename_i question pack? placed
    split
    · exact logged.stop .cancelled _
    · rename_i uninterrupted
      cases answer with
      | error f => exact logged.stop f.ofLookup _
      | ok version? =>
          have reflects := logged.reflects
          rw [placed] at reflects
          obtain ⟨conducted, rfl⟩ := reflects
          have heard : q.exchanged intercepted (.ok version?) = [⟨question, pack?, version?⟩] := by
            simp [exchanged, placed, uninterrupted]
          have all : (xs ++ [Exchange.mk question pack? version?]).flatMap
              (Exchange.lookups target) =
                xs.flatMap (Exchange.lookups target) ++ question.lookups target := by
            simp [Exchange.lookups]
          have going : q.goesOn (ofProgress (question.answer scope pack? version?)) = true := by
            cases question.answer scope pack? version? <;>
              simp [goesOn, placed, ofProgress, ofOutcome]
          have spares := logged.spares
          dsimp only
          rw [heard, made, going, if_pos rfl]
          rw [← all] at spares ⊢
          exact logged_ofProgress (conducted.answer pack? version?) spares
  · rename_i elsewhere
    have nothing : q.exchanged intercepted answer = [] := by
      unfold exchanged
      split
      · exact absurd ‹_› (elsewhere _ _)
      · rfl
    rw [made_of_phase rfl, nothing, List.append_nil, List.append_nil]
    exact logged

end Inquiry

namespace Run

variable {η : Type} {r : Run η}

theorem inquiry_inquire (f : Inquiry → Inquiry) (r : Run η) :
    (r.inquire f).1.inquiry = f r.inquiry := by
  unfold inquire
  dsimp only
  split
  · exact (ending_finish _ _).inquiry
  · exact (ending_finishTimed _ _).inquiry
  · rfl

theorem phase_inquiry_wake (r : Run η) : r.wake.1.inquiry.phase = r.inquiry.phase := by
  have wakes := wakes_wake r
  generalize r.wake.1 = r' at wakes ⊢
  cases wakes with
  | hears => rw [(ending_finish _ _).inquiry]
  | dismisses => exact Inquiry.phase_cancel _
  | ends => rw [(ending_finishDismissed _ _ _).inquiry]
  | skips | waits => rfl

/-- When a run begins, its inquiry takes its first step or is left where it is. -/
theorem inquiry_begin_cases (r : Run η) :
    r.begin.1.inquiry.phase = r.inquiry.phase ∨
      r.begin.1.inquiry = r.inquiry.begin r.scope r.selected := by
  have begins := begins_begin r
  generalize r.begin.1 = r' at begins ⊢
  cases begins with
  | drops | watches | fails => exact .inl rfl
  | dismisses => exact .inl (Inquiry.phase_cancel _)
  | inquires => exact .inr (inquiry_inquire _ _)

end Run

namespace RunEvent

variable {η : Type}

/-- The lookup that an event has a run make, if any. -/
def lookups (target : String) (e : RunEvent η) (r : Run η) : List Lookup :=
  r.inquiry.made target (e.after r).inquiry

/-- What is exchanged in an event, if it is the answer to the lookup of a version. -/
def exchanges : RunEvent η → Run η → List Exchange
  | .move (.answerVersion intercepted answer), r => r.inquiry.exchanged intercepted answer
  | _, _ => []

/-- The lookups that events have a run make, in order. -/
def lookupsAll (target : String) : List (RunEvent η) → Run η → List Lookup
  | [], _ => []
  | e :: later, r => e.lookups target r ++ lookupsAll target later (e.after r)

/-- What is exchanged in events, in order. -/
def exchangesAll : List (RunEvent η) → Run η → List Exchange
  | [], _ => []
  | e :: later, r => e.exchanges r ++ exchangesAll later (e.after r)

/-- A run is about one selection in one scope. -/
theorem surroundings_after (e : RunEvent η) (r : Run η) :
    (e.after r).scope = r.scope ∧ (e.after r).selected = r.selected := by
  cases e with
  | register occasion handler => exact ⟨rfl, rfl⟩
  | start =>
      rw [after]
      split <;> exact ⟨rfl, rfl⟩
  | abort => exact r.surroundings_abort
  | move m => exact r.surroundings_apply m

/-- An event leaves the inquiry where it is, has it begin, or answers a lookup. -/
inductive Touches (r : Run η) : RunEvent η → Inquiry → Prop
  | stays {e : RunEvent η} {q : Inquiry} (same : q.phase = r.inquiry.phase)
      (silent : e.exchanges r = []) : Touches r e q
  | begins {e : RunEvent η} (silent : e.exchanges r = []) :
      Touches r e (r.inquiry.begin r.scope r.selected)
  | packs (intercepted : Bool) (answer : Except Fault (Option Pack)) :
      Touches r (.move (.answerPack intercepted answer)) (r.inquiry.answerPack intercepted answer)
  | versions (intercepted : Bool) (answer : Except Fault (Option Held)) :
      Touches r (.move (.answerVersion intercepted answer))
        (r.inquiry.answerVersion r.scope intercepted answer)

theorem touches_after (e : RunEvent η) (r : Run η) : Touches r e (e.after r).inquiry := by
  cases e with
  | register occasion handler => exact .stays rfl rfl
  | start =>
      rw [after]
      split
      · exact .stays rfl rfl
      · exact .stays rfl rfl
  | abort => exact .stays (Run.phase_inquiry_abort r) rfl
  | move m =>
      rw [after, Run.inquiry_close]
      cases m with
      | begin =>
          rw [RunMove.apply]
          split
          · rcases r.inquiry_begin_cases with same | begins
            · exact .stays same rfl
            · rw [begins]
              exact .begins rfl
          · exact .stays rfl rfl
      | beginInquiry =>
          rw [RunMove.apply, Run.beginInquiry, Run.inquiry_inquire]
          exact .begins rfl
      | answerPack intercepted answer =>
          rw [RunMove.apply, Run.inquiry_inquire]
          exact .packs intercepted answer
      | answerVersion intercepted answer =>
          rw [RunMove.apply, Run.inquiry_inquire]
          exact .versions intercepted answer
      | expire => exact .stays (Run.phase_inquiry_expire r) rfl
      | wake => exact .stays (Run.phase_inquiry_wake r) rfl
      | conclude =>
          rw [RunMove.apply, Run.conclude]
          split
          · exact .stays rfl rfl
          · exact .stays rfl rfl

/-- An event adds to the record what it has the run look up and what is exchanged in it. -/
theorem logged_after {r : Run η} (logged : r.inquiry.Logged target r.scope r.selected xs ls)
    (e : RunEvent η) :
    (e.after r).inquiry.Logged target r.scope r.selected (xs ++ e.exchanges r)
      (ls ++ e.lookups target r) := by
  have touches := touches_after e r
  rw [lookups]
  generalize (e.after r).inquiry = q at touches ⊢
  cases touches with
  | stays same silent =>
      rw [silent, List.append_nil, Inquiry.made_of_phase same, List.append_nil]
      refine ⟨logged.spares, ?_⟩
      rw [same]
      exact logged.reflects
  | begins silent =>
      rw [silent, List.append_nil]
      exact logged.begin
  | packs intercepted answer =>
      have none_ : exchanges (.move (.answerPack intercepted answer)) r = [] := rfl
      rw [none_, List.append_nil]
      exact logged.answerPack intercepted answer
  | versions intercepted answer => exact logged.answerVersion intercepted answer

theorem logged_afterAll (events : List (RunEvent η)) {r : Run η}
    (logged : r.inquiry.Logged target r.scope r.selected xs ls) :
    (afterAll events r).inquiry.Logged target r.scope r.selected (xs ++ exchangesAll events r)
      (ls ++ lookupsAll target events r) := by
  induction events generalizing r xs ls with
  | nil => simpa [afterAll, exchangesAll, lookupsAll] using logged
  | cons e later ih =>
      obtain ⟨scope, selected⟩ := surroundings_after e r
      have next := logged_after logged e
      rw [← scope, ← selected] at next
      have rest := ih next
      rw [scope, selected, List.append_assoc, List.append_assoc] at rest
      exact rest

/-- Whatever happens to a new run, and wherever it is cancelled or fails, no key is looked up twice
and none that is selected or installed. Once its inquiry has come to a closure, the lookups are
those of what was exchanged, one of a pack and one of its version in turn, and the closure comes of
that. -/
theorem comesOf_of_new (target : String) (selected : List Choice) (scope : Scope)
    (timeout : Value) (conduct : Conduct) (events : List (RunEvent η)) :
    let r : Run η := { selected, scope, timeout, conduct }
    scope.Spares (selected.map Choice.key) (lookupsAll target events r) ∧
      ∀ closure, (afterAll events r).inquiry.phase = .ended (.ok closure) →
        lookupsAll target events r =
          (exchangesAll events r).flatMap (Exchange.lookups target) ∧
        closure.ComesOf scope selected (exchangesAll events r) := by
  intro r
  have fresh : r.inquiry.Logged target r.scope r.selected [] [] :=
    ⟨Scope.Spares.mk List.nodup_nil List.nodup_nil (by simp), rfl, rfl⟩
  have logged := logged_afterAll events fresh
  rw [List.nil_append, List.nil_append] at logged
  refine ⟨logged.spares, fun closure ended => ?_⟩
  have reflects := logged.reflects
  rw [ended] at reflects
  exact ⟨reflects.2, reflects.1.comesOf⟩

/-- A new run over the ring. -/
def ringRun : Run Unit :=
  { selected := ringSelection, scope := ringScope }

/-- The next part of the ring is found. There is no version of the part that is asked for next, and
then the last part is found. -/
def ringAnswers : List (RunEvent Unit) :=
  [.start, .move .begin, .move (.answerPack false (.ok (some (ringPack 1)))),
    .move (.answerVersion false (.ok (some (ringVersion 1)))),
    .move (.answerPack false (.ok (some (ringPack 7)))), .move (.answerVersion false (.ok none)),
    .move (.answerPack false (.ok (some (ringPack 2)))),
    .move (.answerVersion false (.ok (some (ringVersion 2))))]

/-- The run has asked for three parts and found two of them. One that is aborted while a pack is
looked up has made the lookup, but not the one of the version. -/
theorem comesOf_of_new_ring :
    (afterAll ringAnswers ringRun).inquiry.phase = .ended (.ok ringClosure) ∧
      (lookupsAll "mods" ringAnswers ringRun =
          (exchangesAll ringAnswers ringRun).flatMap (Exchange.lookups "mods") ∧
        ringClosure.ComesOf ringScope ringSelection (exchangesAll ringAnswers ringRun)) ∧
      (exchangesAll ringAnswers ringRun).map Exchange.key =
        [⟨.modrinth, .number 1⟩, ⟨.modrinth, .number 7⟩, ⟨.modrinth, .number 2⟩] ∧
      (lookupsAll "mods" (ringAnswers.take 4 ++ [.abort, .move (.answerPack false (.ok none))])
          ringRun).map (fun l => (l.isPack, l.key.addonId)) =
        [(true, .number 1), (false, .number 1), (true, .number 7)] := by
  have ended : (afterAll ringAnswers ringRun).inquiry.phase = .ended (.ok ringClosure) := rfl
  have comes := comesOf_of_new "mods" ringSelection ringScope .null .apart ringAnswers
  exact ⟨ended, comes.2 ringClosure ended, by decide, by decide⟩

end RunEvent

end AddonPicker
