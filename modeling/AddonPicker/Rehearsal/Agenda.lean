import AddonPicker.Rehearsal.Service
import AddonPicker.Resolution.Host

/-!
# The agenda of a rehearsal

Runs, their inquiries and confirmations that go on side by side do so in turns: whatever can go on
has a job on the agenda, jobs are taken from the front, and new ones go to the end. A turn lasts
until its owner waits. Nothing else decides the order, so a rehearsal always comes to the same end.

Which jobs are due shows in the state of the owners. After every turn the agenda is brought up to
date: runs and inquiries that were started get their first step, those that are to be cancelled are
woken where they wait, and confirmations that wait for a run which has ended hear of it.
-/

namespace AddonPicker.Rehearsal

/-- A turn. Runs and confirmations are given by position. -/
inductive Job
  /-- The first step of a run. -/
  | begin (run : Nat)
  /-- The inquiry of a run takes its first step, or goes on at the gate at which it waited. -/
  | inquire (run : Nat)
  /-- The end of an inquiry is announced to the run that waits for it. -/
  | report (run : Nat)
  /-- The deadline of a run passes. -/
  | expire (run : Nat)
  /-- A run goes on that waited for its inquiry. -/
  | wake (run : Nat)
  /-- The end of a run is announced to those who wait for it. -/
  | conclude (run : Nat)
  /-- A confirmation that began to wait for a run after its end hears of it. -/
  | hear (confirmation : Nat)
  /-- A confirmation goes on. -/
  | resume (confirmation : Nat)
deriving DecidableEq, Repr

/-- States whose confirmations, if they have any, can be taken on. -/
class Stageable (σ : Type) (η : outParam Type) extends Host σ η where
  /-- The confirmations that wait for a run, with that run. -/
  waiting : σ → List (Nat × Nat)
  /-- The confirmations that let everything else go first. -/
  pausing : σ → List Nat
  /-- The confirmations with a review that waits for its user. -/
  reviewing : σ → List Nat
  /-- The confirmations that have a cancellation on its way or have not begun. -/
  due : σ → List Nat
  /-- Take a confirmation on. -/
  resume : Nat → σ → σ

/-- A rehearsal: the state under rehearsal, the services it looks things up in, and what is due. -/
structure Agenda (σ : Type) where
  host : σ
  services : List Service
  /-- How lookups of versions show the target. -/
  targetText : String
  /-- A bound on the turns that any step can take. -/
  budget : Nat
  jobs : List Job := []
  /-- The runs whose inquiry waits at a gate, with the gate, in the order in which they came. -/
  blocked : List (Nat × Provider × AddonId) := []
  opened : List (Provider × Value) := []
  /-- Whether the next review that waits for its user may go on at once. -/
  released : Bool := false

namespace Agenda

variable {σ η : Type} [Stageable σ η]

/-- Put a job at the end unless it is due already. -/
def push (j : Job) (a : Agenda σ) : Agenda σ :=
  if a.jobs.contains j then a else { a with jobs := a.jobs ++ [j] }

/-- Where the inquiry of the run at a position stands. -/
def inquiry? (a : Agenda σ) (i : Nat) : Option InquiryPhase :=
  (Owner.run? a.host i).map (·.inquiry.phase)

/-- Whether the run at a position has a property. -/
def runIs (p : Run η → Bool) (i : Nat) (a : Agenda σ) : Bool :=
  (Owner.run? a.host i).any p

/-- The service for a provider. -/
def service? (a : Agenda σ) (p : Provider) : Option Service :=
  a.services.reverse.find? (·.provider == p)

/-- Perform an action that cannot fail on the state under rehearsal. -/
def act (f : Act σ Unit) (a : Agenda σ) : Agenda σ :=
  { a with host := (f.perform a.host).2 }

/-- Take the run at a position through a transition. -/
def move (i : Nat) (f : Run η → Run η × List (Effect η)) (a : Agenda σ) : Agenda σ :=
  a.act (Host.transition i f)

/-- Whether a lookup of a pack has to wait at a gate. -/
def isGated (a : Agenda σ) (s : Service) (id : AddonId) : Bool :=
  s.offersPacks && Service.holds s.gates id &&
    !a.opened.any fun gate => gate.1 == s.provider && id.toValue.agrees gate.2

/-- Let the inquiry of a run go on with lookups until it waits at a gate or has ended. The first
lookup may be one that waited before, and then is not made again. -/
def drive : Nat → Nat → Bool → Agenda σ → Agenda σ
  | 0, _, _, a => a
  | fuel + 1, i, resumed, a =>
    match a.inquiry? i with
    | some (.awaitingPack q) =>
      match a.service? q.key.provider with
      | none => a
      | some s =>
        let id := q.key.addonId
        let a := if resumed then a else a.act (Journaled.noteLookup (.pack s.provider id))
        if !resumed && a.isGated s id then
          { a with blocked := a.blocked ++ [(i, s.provider, id)] }
        else
          let intercepted := Service.holds s.intercepted id
          let answered := Inquiry.answerPack intercepted (s.packAnswer id)
          drive fuel i false (a.move i (Run.inquire answered))
    | some (.awaitingVersion q _) =>
      match a.service? q.key.provider with
      | none => a
      | some s =>
        let lookup := Lookup.version s.provider q.key.addonId q.dependency.pin a.targetText
        let a := a.act (Journaled.noteLookup lookup)
        let answer := s.versionAnswer q.dependency
        let answered (r : Run η) := r.inquire (Inquiry.answerVersion r.scope true answer)
        drive fuel i false (a.move i answered)
    | _ => a

/-- Let the confirmations that wait for a run go on. -/
def release (i : Nat) (a : Agenda σ) : Agenda σ :=
  (Stageable.waiting a.host).foldl
    (fun a w => if w.2 = i then a.push (.resume w.1) else a) a

/-- Let the inquiry of a run take its first step, or go on at the gate at which it waited. -/
def inquire (i : Nat) (a : Agenda σ) : Agenda σ :=
  match a.inquiry? i with
  | some .scheduled => (a.move i Run.beginInquiry).drive a.budget i false
  | _ => { a with blocked := a.blocked.filter (·.1 != i) }.drive a.budget i true

/-- See to the announcement of what came to its end in a turn of a run: the run itself, or the
inquiry that the run waits for. -/
def announce (i : Nat) (before after : Agenda σ) : Agenda σ :=
  if after.runIs (·.phase.isOver) i && !before.runIs (·.phase.isOver) i then
    after.push (.conclude i)
  else if after.runIs Run.hasNews i && !before.runIs Run.hasNews i then after.push (.report i)
  else after

/-- Put on the agenda what a run waits for that has begun to watch its inquiry. -/
def watch (i : Nat) (a : Agenda σ) : Agenda σ :=
  match Owner.run? a.host i with
  | none => a
  | some r =>
    match r.phase.isWaiting, Deadline.ofTimeout r.timeout with
    | true, .imminent => (a.push (.inquire i)).push (.expire i)
    | true, _ => a.push (.inquire i)
    | false, _ => a

/-- Take one turn. -/
def turn (j : Job) (a : Agenda σ) : Agenda σ :=
  match j with
  | .begin i => a.announce i (((a.move i Run.begin).watch i).drive a.budget i false)
  | .inquire i => a.announce i (a.inquire i)
  | .report i => if a.runIs (·.phase.isWaiting) i then a.push (.wake i) else a
  | .expire i =>
    if a.runIs (·.phase == .watching) i then (a.move i fun r => (r.expire, [])).push (.wake i)
    else a
  | .wake i => a.announce i (a.move i Run.wake)
  | .conclude i => (a.move i Run.conclude).release i
  | .hear c => a.push (.resume c)
  | .resume c => { a with host := Stageable.resume c a.host }

/-- The jobs that are due by the state of a run. -/
def syncRun (a : Agenda σ) (i : Nat) : Agenda σ :=
  let interrupted := a.runIs (·.inquiry.cancelling) i && a.blocked.any (·.1 == i)
  let a := if a.runIs (·.phase == .scheduled) i then a.push (.begin i) else a
  let a := if interrupted then a.push (.inquire i) else a
  if a.runIs Run.isCalledOff i then a.push (.wake i) else a

/-- Whether the run at a position has ended and nobody is about to announce it. -/
def isSilentlyOver (a : Agenda σ) (i : Nat) : Bool :=
  a.runIs (·.phase == .done) i && !a.jobs.contains (.conclude i)

/-- The job that is due by the wait of a confirmation for a run. -/
def syncWait (a : Agenda σ) (w : Nat × Nat) : Agenda σ :=
  if a.isSilentlyOver w.2 && !a.jobs.contains (.resume w.1) then a.push (.hear w.1) else a

/-- Let a review go on that found its release made already. -/
def syncReview (a : Agenda σ) : Agenda σ :=
  match a.released, Stageable.reviewing a.host with
  | true, c :: _ => { a with released := false, host := Stageable.resume c a.host }
  | _, _ => a

/-- Bring the agenda up to date. -/
def sync (a : Agenda σ) : Agenda σ :=
  let a := a.syncReview
  let a := (List.range (Owner.runs a.host).length).foldl syncRun a
  let a := (Stageable.waiting a.host).foldl syncWait a
  (Stageable.due a.host).foldl (fun a c => a.push (.resume c)) a

/-- Take turns until nothing can go on. -/
def settleWithin : Nat → Agenda σ → Agenda σ
  | 0, a => a
  | fuel + 1, a =>
    match a.jobs with
    | j :: jobs => settleWithin fuel ({ a with jobs }.turn j).sync
    | [] =>
      match Stageable.pausing a.host with
      | c :: _ => settleWithin fuel (a.push (.resume c))
      | [] => a

/-- Let everything go on until nothing can. -/
def settle (a : Agenda σ) : Agenda σ :=
  a.sync.settleWithin a.budget

/-- Open a gate for good. What waits there can go on, in the order in which it came. -/
def openGate (p : Provider) (id : Value) (a : Agenda σ) : Agenda σ :=
  a.blocked.foldl
    (fun a b => if b.2.1 = p ∧ b.2.2.toValue.agrees id then a.push (.inquire b.1) else a)
    { a with opened := a.opened ++ [(p, id)] }

/-- Let the review that waits for its user go on, or else the next one that would. -/
def releaseReview (a : Agenda σ) : Agenda σ :=
  match Stageable.reviewing a.host with
  | c :: _ => a.push (.resume c)
  | [] => { a with released := true }

/-- The first run whose deadline can still pass. -/
def expiring? (a : Agenda σ) : Option Nat :=
  (List.range (Owner.runs a.host).length).find? fun i =>
    a.runIs (fun r => !r.overdue && r.expire.overdue) i

/-- Let time pass until a condition holds, which may need deadlines to pass. -/
def waitWithin (holds : σ → Bool) : Nat → Agenda σ → Agenda σ
  | 0, a => a.settle
  | fuel + 1, a =>
    let a := a.settle
    if holds a.host then a
    else
      match a.expiring? with
      | none => a
      | some i => waitWithin holds fuel (a.push (.expire i))

/-- Let time pass until a condition holds. Every run has one deadline at most. -/
def waitFor (holds : σ → Bool) (a : Agenda σ) : Agenda σ :=
  a.waitWithin holds ((Owner.runs a.host).length + 1)

end Agenda

end AddonPicker.Rehearsal
