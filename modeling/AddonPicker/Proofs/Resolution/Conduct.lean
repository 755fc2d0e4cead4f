import AddonPicker.Journal
import AddonPicker.Resolution.Catalogue
import AddonPicker.Resolution.Inquiry
import Mathlib.Logic.Function.Iterate

/-!
# Resolutions and inquiries

A resolution asks its questions in one go; an inquiry waits for every lookup. An inquiry that gets
its lookups answered by catalogues, without a cancellation, comes to the outcome of the resolution
against the same catalogues. A question takes two lookups, one for the pack and one for the version.
-/

namespace AddonPicker

/-- The lookups that a question takes: of the pack, and of the version for the target. -/
def Question.lookups (target : String) (q : Question) : List Lookup :=
  [.pack q.key.provider q.key.addonId,
    .version q.key.provider q.key.addonId q.dependency.pin target]

/-- The lookup that an inquiry waits for. -/
def Inquiry.lookup? (target : String) (q : Inquiry) : Option Lookup :=
  match q.phase with
  | .awaitingPack question => some (.pack question.key.provider question.key.addonId)
  | .awaitingVersion question _ =>
    some (.version question.key.provider question.key.addonId question.dependency.pin target)
  | _ => none

namespace Catalogue

variable (c : Catalogue) (scope : Scope)

/-- Answer the lookup that an inquiry waits for. -/
def attend (q : Inquiry) : Inquiry :=
  match q.phase with
  | .awaitingPack question =>
    q.answerPack false (c.pack question.key.provider question.key.addonId)
  | .awaitingVersion question _ =>
    q.answerVersion scope false (c.version question.key.provider question.dependency)
  | _ => q

@[simp] theorem attend_ofOutcome (outcome : Except Fault Closure) :
    c.attend scope (.ofOutcome outcome) = .ofOutcome outcome := rfl

/-- What has ended stays as it is, however many lookups are answered. -/
theorem iterate_attend_ofOutcome (n : Nat) (outcome : Except Fault Closure) :
    (c.attend scope)^[n] (.ofOutcome outcome) = .ofOutcome outcome :=
  Function.iterate_fixed (c.attend_ofOutcome scope outcome) n

/-- An inquiry that stands at a question first looks its pack up. -/
theorem attend_asking (q : Question) :
    c.attend scope (.ofProgress (.asking q)) =
      (Inquiry.ofProgress (.asking q)).answerPack false
        (c.pack q.key.provider q.key.addonId) := rfl

/-- The two lookups of a question lead to where the search goes on. -/
theorem attend_attend_asking (q : Question) :
    c.attend scope (c.attend scope (.ofProgress (.asking q))) = .ofProgress (c.reply scope q) := by
  rw [attend_asking, reply]
  cases c.pack q.key.provider q.key.addonId with
  | error f => rfl
  | ok pack? =>
      show Inquiry.answerVersion scope false (c.version q.key.provider q.dependency)
        { phase := .awaitingVersion q pack? } = _
      cases c.version q.key.provider q.dependency with
      | error f => rfl
      | ok version? => rfl

/-- An inquiry with enough lookups answered ends with the outcome of the resolution. -/
theorem outcome?_iterate_attend (fuel : Nat) (p : Progress) :
    ((c.attend scope)^[2 * fuel] (.ofProgress p)).outcome? =
      (c.resolveFrom scope fuel p).outcome := by
  induction fuel generalizing p with
  | zero => cases p <;> rfl
  | succ fuel ih =>
      cases p with
      | finished closure =>
          show ((c.attend scope)^[_] (.ofOutcome (.ok closure))).outcome? = _
          rw [iterate_attend_ofOutcome]
          rfl
      | failed f =>
          show ((c.attend scope)^[_] (.ofOutcome (.error f))).outcome? = _
          rw [iterate_attend_ofOutcome]
          rfl
      | asking q =>
          have twoMore : 2 * (fuel + 1) = 2 * fuel + 1 + 1 := by omega
          rw [twoMore, Function.iterate_succ_apply, Function.iterate_succ_apply,
            attend_attend_asking, ih]
          rfl

/-- An inquiry that begins undisturbed ends with the outcome of the resolution. -/
theorem outcome?_begin (fuel : Nat) (selected : List Choice) :
    ((c.attend scope)^[2 * fuel] (Inquiry.begin scope selected {})).outcome? =
      (c.resolve scope fuel selected).outcome :=
  c.outcome?_iterate_attend scope fuel (Search.start scope selected)

/-- The lookups that an inquiry makes while so many of them are answered. -/
def lookups (target : String) : Nat → Inquiry → List Lookup
  | 0, _ => []
  | n + 1, q => (q.lookup? target).toList ++ lookups target n (c.attend scope q)

/-- What has ended makes no lookup. -/
theorem lookups_ofOutcome (target : String) (n : Nat) (outcome : Except Fault Closure) :
    c.lookups scope target n (.ofOutcome outcome) = [] := by
  induction n with
  | zero => rfl
  | succ n ih =>
      rw [lookups, attend_ofOutcome, ih]
      rfl

/-- An inquiry that comes to a closure makes the lookups of its questions and no others. -/
theorem lookups_ofProgress (target : String) {fuel n : Nat} {p : Progress} {closure : Closure}
    (ended : (c.resolveFrom scope fuel p).outcome = some (.ok closure)) (enough : 2 * fuel ≤ n) :
    c.lookups scope target n (.ofProgress p) =
      (c.resolveFrom scope fuel p).questions.flatMap (Question.lookups target) := by
  induction fuel generalizing p n with
  | zero =>
      cases p with
      | finished _ => exact c.lookups_ofOutcome scope target n _
      | failed f => simp at ended
      | asking q => simp [resolveFrom] at ended
  | succ fuel ih =>
      cases p with
      | finished result =>
          rw [resolveFrom_finished]
          exact c.lookups_ofOutcome scope target n _
      | failed f => simp at ended
      | asking q =>
          obtain ⟨m, rfl⟩ : ∃ m, n = m + 1 + 1 := ⟨n - 2, by omega⟩
          rw [resolveFrom, Resolution.outcome_after] at ended
          have rest := ih ended (n := m) (by omega)
          have packed : ∃ pack?, c.pack q.key.provider q.key.addonId = .ok pack? := by
            cases looked : c.pack q.key.provider q.key.addonId with
            | ok pack? => exact ⟨pack?, rfl⟩
            | error f => simp [reply, looked] at ended
          obtain ⟨pack?, packed⟩ := packed
          have first : c.attend scope (.ofProgress (.asking q)) =
              { phase := .awaitingVersion q pack? } := by
            rw [attend_asking, packed]
            rfl
          rw [lookups, lookups, attend_attend_asking, rest, first]
          rfl

/-- So does one that begins undisturbed. -/
theorem lookups_begin (target : String) {fuel n : Nat} {selected : List Choice} {closure : Closure}
    (ended : (c.resolve scope fuel selected).outcome = some (.ok closure)) (enough : 2 * fuel ≤ n) :
    c.lookups scope target n (Inquiry.begin scope selected {}) =
      (c.resolve scope fuel selected).questions.flatMap (Question.lookups target) :=
  c.lookups_ofProgress scope target ended enough

end Catalogue

end AddonPicker
