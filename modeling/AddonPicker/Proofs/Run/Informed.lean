import AddonPicker.Proofs.Resolution.Attended
import AddonPicker.Proofs.Run.Follows

/-!
# Runs among catalogues

A run hears what catalogues answer and nothing else. Its inquiry then goes the way of the resolution
of the selection that the run was made for, and where it finds a closure, the resolution has it. How
the run goes about its inquiry does not matter.
-/

namespace AddonPicker

/-- A step on an answer takes the answer of the catalogues to the lookup that the run waits for. A
version that is answered may be selected and linked by others that hold it, so it is compared as it
is copied. -/
def RunMove.IsFrom {η : Type} (c : Catalogue) (r : Run η) : RunMove → Prop
  | .answerPack _ answer => ∀ question, r.inquiry.phase = .awaitingPack question →
      answer = c.pack question.key.provider question.key.addonId
  | .answerVersion _ answer => ∀ question pack,
      r.inquiry.phase = .awaitingVersion question pack →
      answer.map (Option.map Held.detached) =
        (c.version question.key.provider question.dependency).map (Option.map Held.detached)
  | _ => True

/-- An inquiry goes on from a copy of the version that it is answered. -/
theorem Inquiry.answerVersion_congr {scope : Scope} {intercepted : Bool}
    {answer answer' : Except Fault (Option Held)}
    (same : answer.map (Option.map Held.detached) = answer'.map (Option.map Held.detached))
    (q : Inquiry) :
    q.answerVersion scope intercepted answer = q.answerVersion scope intercepted answer' := by
  cases answer with
  | error f =>
      cases answer' with
      | error f' => rw [Except.error.inj same]
      | ok version' => exact nomatch same
  | ok version =>
      cases answer' with
      | error f' => exact nomatch same
      | ok version' =>
          have copies : version.map Held.detached = version'.map Held.detached :=
            Except.ok.inj same
          cases version with
          | none =>
              cases version' with
              | none => rfl
              | some v' => exact nomatch copies
          | some v =>
              cases version' with
              | none => exact nomatch copies
              | some v' =>
                  simp only [answerVersion, Question.answer, Question.withVersion,
                    Option.some.inj copies]

/-- Among catalogues an inquiry goes the way of the resolution, whatever it does about its end. -/
theorem InquiryPhase.lasting_attended (c : Catalogue) (scope : Scope) (selected : List Choice) :
    Lasting (·.Attended c scope selected)
      (fun closure => ∃ fuel, (c.resolve scope fuel selected).outcome = some (.ok closure)) scope
      selected :=
  ⟨fun _ attended => attended.begin, fun _ attended => attended.exists_resolve⟩

/-- An answer of the catalogues takes the inquiry to where it stands among them. -/
theorem RunMove.IsFrom.leads {η : Type} {c : Catalogue} {r : Run η} {m : RunMove}
    (heard : m.IsFrom c r) (attended : r.inquiry.phase.Attended c r.scope r.selected) :
    m.Leads (·.Attended c r.scope r.selected) r := by
  cases m with
  | answerPack intercepted answer =>
      show (r.inquiry.answerPack intercepted answer).phase.Attended c r.scope r.selected
      cases placed : r.inquiry.phase with
      | awaitingPack question =>
          rw [heard question placed]
          exact attended.answerPack placed intercepted
      | _ =>
          rw [Inquiry.answerPack, placed]
          exact attended
  | answerVersion intercepted answer =>
      show (r.inquiry.answerVersion r.scope intercepted answer).phase.Attended c r.scope r.selected
      cases placed : r.inquiry.phase with
      | awaitingVersion question pack =>
          rw [Inquiry.answerVersion_congr (heard question pack placed)]
          exact attended.answerVersion placed intercepted
      | _ =>
          rw [Inquiry.answerVersion, placed]
          exact attended
  | _ => trivial

end AddonPicker
