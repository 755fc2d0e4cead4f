import AddonPicker.Proofs.Resolution.Conduct

/-!
# Inquiries among catalogues

An inquiry whose lookups are answered by catalogues, if they are answered at all, goes the way of
the resolution against these catalogues. It may stop on the way, for a fault or a cancellation; but
a closure that it comes to is that of the resolution.
-/

namespace AddonPicker

namespace Catalogue

variable {c : Catalogue} {scope : Scope} {selected : List Choice}

/-- An inquiry that was answered a number of lookups. -/
def attended (c : Catalogue) (scope : Scope) (selected : List Choice) (n : Nat) : Inquiry :=
  (c.attend scope)^[n] (Inquiry.begin scope selected {})

theorem attended_succ (n : Nat) :
    c.attended scope selected (n + 1) = c.attend scope (c.attended scope selected n) :=
  Function.iterate_succ_apply' _ n _

theorem cancelling_ofProgress (p : Progress) : (Inquiry.ofProgress p).cancelling = false := by
  cases p <;> rfl

/-- Nobody cancels an inquiry that is only answered. -/
theorem cancelling_attended (n : Nat) : (c.attended scope selected n).cancelling = false := by
  induction n with
  | zero => exact cancelling_ofProgress (Search.start scope selected)
  | succ n ih =>
      rw [attended_succ]
      generalize c.attended scope selected n = q at ih
      rw [attend]
      split
      · rename_i question asking
        rw [Inquiry.answerPack, asking]
        dsimp only
        split
        · rfl
        · split <;> rfl
      · rename_i question pack asking
        rw [Inquiry.answerVersion, asking]
        dsimp only
        split
        · rfl
        · split
          · exact cancelling_ofProgress _
          · rfl
      · exact ih

theorem isInterrupted_attended (n : Nat) :
    (c.attended scope selected n).isInterrupted false = false := by
  rw [Inquiry.isInterrupted, cancelling_attended]
  rfl

end Catalogue

namespace InquiryPhase

/-- How far an inquiry may have come that has heard nothing but what catalogues answer. -/
inductive Attended (c : Catalogue) (scope : Scope) (selected : List Choice) :
    InquiryPhase → Prop
  | scheduled : Attended c scope selected .scheduled
  | answered (n : Nat) : Attended c scope selected (c.attended scope selected n).phase
  | failed (f : Fault) : Attended c scope selected (.ended (.error f))

variable {c : Catalogue} {scope : Scope} {selected : List Choice} {q : Inquiry}

/-- The first step of an inquiry asks the first question. -/
theorem Attended.begin (attended : q.phase.Attended c scope selected) :
    (q.begin scope selected).phase.Attended c scope selected := by
  rw [Inquiry.begin]
  split
  · split
    · exact .failed .cancelled
    · exact .answered 0
  · exact attended

/-- An inquiry takes the answer to the lookup of a pack as any that stands where it stands. -/
theorem Attended.answerPack (attended : q.phase.Attended c scope selected) {question : Question}
    (asking : q.phase = .awaitingPack question) (intercepted : Bool) :
    (q.answerPack intercepted
      (c.pack question.key.provider question.key.addonId)).phase.Attended c scope selected := by
  rw [Inquiry.answerPack, asking]
  dsimp only
  split
  · exact .failed .cancelled
  · generalize placed : q.phase = phase at attended
    rw [asking] at placed
    cases attended with
    | answered n =>
        have next : Attended c scope selected (c.attended scope selected (n + 1)).phase :=
          .answered (n + 1)
        simp only [Catalogue.attended_succ, Catalogue.attend, Inquiry.answerPack, ← placed,
          Catalogue.isInterrupted_attended] at next
        exact next
    | scheduled => exact nomatch placed
    | failed f => exact nomatch placed

/-- So it takes the answer to the lookup of a version. -/
theorem Attended.answerVersion (attended : q.phase.Attended c scope selected)
    {question : Question} {pack : Option Pack} (asking : q.phase = .awaitingVersion question pack)
    (intercepted : Bool) :
    (q.answerVersion scope intercepted
      (c.version question.key.provider question.dependency)).phase.Attended c scope selected := by
  rw [Inquiry.answerVersion, asking]
  dsimp only
  split
  · exact .failed .cancelled
  · generalize placed : q.phase = phase at attended
    rw [asking] at placed
    cases attended with
    | answered n =>
        have next : Attended c scope selected (c.attended scope selected (n + 1)).phase :=
          .answered (n + 1)
        simp only [Catalogue.attended_succ, Catalogue.attend, Inquiry.answerVersion, ← placed,
          Catalogue.isInterrupted_attended] at next
        exact next
    | scheduled => exact nomatch placed
    | failed f => exact nomatch placed

/-- A closure that an inquiry comes to is that of the resolution. -/
theorem Attended.exists_resolve {closure : Closure}
    (attended : Attended c scope selected (.ended (.ok closure))) :
    ∃ fuel, (c.resolve scope fuel selected).outcome = some (.ok closure) := by
  generalize placed : InquiryPhase.ended (.ok closure) = phase at attended
  cases attended with
  | answered n =>
      refine ⟨n, ?_⟩
      have stays : c.attend scope (c.attended scope selected n) = c.attended scope selected n := by
        rw [Catalogue.attend, ← placed]
      have twice : c.attended scope selected (2 * n) = c.attended scope selected n := by
        rw [Nat.two_mul, Catalogue.attended, Function.iterate_add_apply]
        exact Function.iterate_fixed stays n
      have outcome := c.outcome?_begin scope n selected
      rw [← outcome]
      show (c.attended scope selected (2 * n)).outcome? = _
      rw [twice, Inquiry.outcome?, ← placed]
  | scheduled => exact nomatch placed
  | failed f => exact nomatch placed

end InquiryPhase

end AddonPicker
