import AddonPicker.Resolution.Search

/-!
# Inquiries

An inquiry carries one search from its first step to its outcome: it waits for the answer to every
lookup and hands it to the search. It can be cancelled at any moment. The cancellation reaches it
when it next goes on: before its first step it then ends without a lookup, and while it waits the
lookup is interrupted, unless the catalogue intercepts the cancellation and answers all the same.

The outcome of an inquiry that ended by a cancellation is the fault `cancelled`; a catalogue that
fails that way ends it no differently.
-/

namespace AddonPicker

/-- Where an inquiry stands. -/
inductive InquiryPhase
  /-- The first step is still to come. -/
  | scheduled
  /-- Waiting for a pack. -/
  | awaitingPack (question : Question)
  /-- Waiting for the version of a pack. -/
  | awaitingVersion (question : Question) (pack : Option Pack)
  | ended (outcome : Except Fault Closure)
deriving Repr

/-- A search that is under way. -/
structure Inquiry where
  phase : InquiryPhase := .scheduled
  /-- A cancellation has been asked for and has not reached the inquiry yet. -/
  cancelling : Bool := false
deriving Repr

namespace Inquiry

/-- How an inquiry has ended, if it has. -/
def outcome? (q : Inquiry) : Option (Except Fault Closure) :=
  match q.phase with
  | .ended outcome => some outcome
  | _ => none

/-- An inquiry that has ended. -/
def ofOutcome (outcome : Except Fault Closure) : Inquiry :=
  { phase := .ended outcome }

@[simp] theorem outcome?_ofOutcome (outcome : Except Fault Closure) :
    (ofOutcome outcome).outcome? = some outcome := rfl

/-- Ask for the cancellation of an inquiry, which changes nothing once it has ended. -/
def cancel (q : Inquiry) : Inquiry :=
  match q.phase with
  | .ended _ => q
  | _ => { q with cancelling := true }

/-- Asking for a cancellation leaves an inquiry where it stands. -/
@[simp] theorem phase_cancel (q : Inquiry) : q.cancel.phase = q.phase := by
  unfold cancel
  split <;> rfl

/-- Where the progress of a search leads. -/
def ofProgress : Progress → Inquiry
  | .finished closure => ofOutcome (.ok closure)
  | .failed f => ofOutcome (.error f)
  | .asking q => { phase := .awaitingPack q }

/-- Take the first step, unless a cancellation came before it. -/
def begin (scope : Scope) (selected : List Choice) (q : Inquiry) : Inquiry :=
  match q.phase with
  | .scheduled =>
    if q.cancelling then ofOutcome (.error .cancelled)
    else ofProgress (Search.start scope selected)
  | _ => q

/-- A cancelled inquiry ends before its first lookup. -/
theorem begin_of_cancelling {scope : Scope} {selected : List Choice} {q : Inquiry}
    (fresh : q.phase = .scheduled) (cancelled : q.cancelling = true) :
    q.begin scope selected = ofOutcome (.error .cancelled) := by
  rw [begin, fresh]
  exact if_pos cancelled

/-- Whether a pending cancellation interrupts a lookup that goes on. -/
def isInterrupted (q : Inquiry) (intercepted : Bool) : Bool :=
  q.cancelling && !intercepted

/-- Go on with the answer to the lookup of a pack. A pending cancellation interrupts the lookup
unless the catalogue intercepted it. -/
def answerPack (intercepted : Bool) (answer : Except Fault (Option Pack)) (q : Inquiry) :
    Inquiry :=
  match q.phase with
  | .awaitingPack question =>
    if q.isInterrupted intercepted then ofOutcome (.error .cancelled)
    else
      match answer with
      | .ok pack => { phase := .awaitingVersion question pack }
      | .error f => ofOutcome (.error f.ofLookup)
  | _ => q

/-- Go on with the answer to the lookup of a version. -/
def answerVersion (scope : Scope) (intercepted : Bool) (answer : Except Fault (Option Held))
    (q : Inquiry) : Inquiry :=
  match q.phase with
  | .awaitingVersion question pack =>
    if q.isInterrupted intercepted then ofOutcome (.error .cancelled)
    else
      match answer with
      | .ok version => ofProgress (question.answer scope pack version)
      | .error f => ofOutcome (.error f.ofLookup)
  | _ => q

end Inquiry

end AddonPicker
