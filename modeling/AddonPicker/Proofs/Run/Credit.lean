import AddonPicker.Proofs.Resolution.Exchange
import AddonPicker.Proofs.Run.Follows

/-!
# Credit

A run finds packs because others require them, and it gives credit for that: with every version that
it hands out it records the packs that require it. The record is made under the key that was asked
for. If catalogues answer with the pack that they are asked for, this is the key of the pack itself,
so whoever looks at a choice sees by its pack what the record is about.
-/

namespace AddonPicker

/-- If a pack was fetched, it is the one that was asked for. -/
def Exchange.IsTruthful (x : Exchange) : Prop :=
  ∀ pack, x.pack = some pack → PackKey.ofPack pack = x.key

/-- Each choice is recorded to be required by the packs that require it, in the order of the
selection and then of discovery, each once. -/
def Closure.Credits (selected : List Choice) (closure : Closure) : Prop :=
  ∀ n ∈ closure.dependencies, n.version.requiredBy =
    (((selected ++ closure.dependencies).filter (·.requires n.key)).map
      (·.pack.addonId)).eraseDups

/-- A search is on its way, and every pack that it was answered is the one that it asked for. -/
def Progress.Candid (scope : Scope) (selected : List Choice) (p : Progress) : Prop :=
  ∃ xs, p.Conducted scope selected xs ∧ ∀ x ∈ xs, x.IsTruthful

variable {scope : Scope} {selected : List Choice}

/-- Packs that require a choice are among those that it gives credit to. -/
theorem Closure.Credits.mem_requiredBy {closure : Closure} (credits : closure.Credits selected)
    {n d : Choice} (found : d ∈ closure.dependencies)
    (takesPart : n ∈ selected ++ closure.dependencies) (requires : n.requires d.key = true) :
    n.pack.addonId ∈ d.version.requiredBy := by
  rw [credits d found, List.mem_eraseDups]
  exact List.mem_map_of_mem (List.mem_filter.mpr ⟨takesPart, requires⟩)

namespace Progress

theorem candid_start : (Search.start scope selected).Candid scope selected :=
  ⟨[], conducted_start, by simp⟩

/-- A search goes on from every truthful answer. -/
theorem Candid.answer {q : Question} (candid : (asking q).Candid scope selected)
    {pack? : Option Pack} (truthful : ∀ pack, pack? = some pack → PackKey.ofPack pack = q.key)
    (version? : Option Held) : (q.answer scope pack? version?).Candid scope selected := by
  obtain ⟨xs, conducted, before⟩ := candid
  refine ⟨xs ++ [⟨q, pack?, version?⟩], conducted.answer pack? version?, ?_⟩
  intro x inside
  rcases List.mem_append.mp inside with past | last
  · exact before x past
  · rw [List.mem_singleton.mp last]
    exact truthful

/-- The key that a choice was asked for with is that of its pack, so the record is about it. -/
theorem Candid.credits {closure : Closure} (candid : (finished closure).Candid scope selected) :
    closure.Credits selected := by
  obtain ⟨xs, ⟨c, gave, ⟨seen, s, l, rfl⟩, -⟩, truthful⟩ := candid
  intro n inside
  obtain ⟨e, found, rfl⟩ := List.mem_map.mp inside
  obtain ⟨q, asked, key, packed, -⟩ := l.origin e found
  obtain ⟨x, past, rfl⟩ := List.mem_map.mp asked
  have fetched : x.pack = some e.choice.pack := by
    rw [← key] at packed
    exact Except.ok.inj ((gave x past).1.symm.trans packed)
  have own : e.choice.key = e.key := (truthful x past _ fetched).trans key
  rw [own]
  exact l.backlinks_of_nil found

end Progress

/-- If an inquiry waits for a pack, this is the one. -/
def InquiryPhase.Fits (pack : Pack) : InquiryPhase → Prop
  | .awaitingPack question => PackKey.ofPack pack = question.key
  | _ => True

instance (pack : Pack) : DecidablePred (InquiryPhase.Fits pack) := fun phase => by
  unfold InquiryPhase.Fits
  split <;> infer_instance

/-- How far an inquiry may have come whose answers were truthful. -/
def InquiryPhase.Candid (scope : Scope) (selected : List Choice) : InquiryPhase → Prop
  | .scheduled => True
  | .awaitingPack question => (Progress.asking question).Candid scope selected
  | .awaitingVersion question pack? => (Progress.asking question).Candid scope selected ∧
    ∀ pack, pack? = some pack → PackKey.ofPack pack = question.key
  | .ended (.ok closure) => closure.Credits selected
  | .ended (.error _) => True

namespace Inquiry

variable {q : Inquiry}

theorem candid_ofProgress {p : Progress} (candid : p.Candid scope selected) :
    (ofProgress p).phase.Candid scope selected := by
  cases p with
  | finished closure => exact candid.credits
  | failed f => trivial
  | asking question => exact candid

theorem candid_begin (candid : q.phase.Candid scope selected) :
    (q.begin scope selected).phase.Candid scope selected := by
  rw [begin]
  split
  · split
    · trivial
    · exact candid_ofProgress Progress.candid_start
  · exact candid

theorem candid_answerPack (candid : q.phase.Candid scope selected) (intercepted : Bool)
    {answer : Except Fault (Option Pack)}
    (fits : ∀ pack, answer = .ok (some pack) → q.phase.Fits pack) :
    (q.answerPack intercepted answer).phase.Candid scope selected := by
  rw [answerPack]
  split
  · rename_i question asking
    rw [asking] at candid fits
    split
    · trivial
    · cases answer with
      | error f => trivial
      | ok pack? =>
          refine ⟨candid, ?_⟩
          rintro pack rfl
          exact fits pack rfl
  · exact candid

theorem candid_answerVersion (candid : q.phase.Candid scope selected) (intercepted : Bool)
    (answer : Except Fault (Option Held)) :
    (q.answerVersion scope intercepted answer).phase.Candid scope selected := by
  rw [answerVersion]
  split
  · rename_i question pack? asking
    rw [asking] at candid
    obtain ⟨candid, truthful⟩ := candid
    split
    · trivial
    · cases answer with
      | error f => trivial
      | ok version? => exact candid_ofProgress (candid.answer truthful version?)
  · exact candid

end Inquiry

/-- If a step answers a run with a pack, it is the one that the run waits for. -/
def RunMove.IsTruthful {η : Type} (r : Run η) : RunMove → Prop
  | .answerPack _ (.ok (some pack)) => r.inquiry.phase.Fits pack
  | _ => True

instance {η : Type} (r : Run η) : DecidablePred (RunMove.IsTruthful r) := fun m => by
  unfold RunMove.IsTruthful
  split <;> infer_instance

/-- An inquiry that is given truthful answers comes to a closure that gives credit. -/
theorem InquiryPhase.lasting_candid : InquiryPhase.Lasting (·.Candid scope selected)
    (·.Credits selected) scope selected :=
  ⟨fun _ => Inquiry.candid_begin, fun _ credits => credits⟩

/-- A truthful answer takes an inquiry on that was given truthful ones before. -/
theorem RunMove.IsTruthful.leads {η : Type} {r : Run η} {m : RunMove} (truthful : m.IsTruthful r)
    (candid : r.inquiry.phase.Candid r.scope selected) :
    m.Leads (·.Candid r.scope selected) r := by
  cases m with
  | answerPack intercepted answer =>
      refine Inquiry.candid_answerPack candid intercepted ?_
      rintro pack rfl
      exact truthful
  | answerVersion intercepted answer =>
      exact Inquiry.candid_answerVersion candid intercepted answer
  | _ => trivial

end AddonPicker
