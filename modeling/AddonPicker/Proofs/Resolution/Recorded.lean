import AddonPicker.Proofs.Resolution.Backlinks

/-!
# Whatever is answered

Whatever an inquiry is answered, there are catalogues that answer just so: no key is asked for
twice, so an answer can always be added to those that catalogues have given before. What holds of a
resolution against catalogues therefore holds of every search, whoever answers it. Of the versions
that are answered, this tells what becomes of them in a closure: each choice has a copy of one of
them, and what requires it is recorded from nothing.
-/

namespace AddonPicker

namespace Catalogue

/-- Catalogues that agree on the answer to a question. -/
structure AgreeOn (c c' : Catalogue) (q : Question) : Prop where
  pack : c'.pack q.key.provider q.key.addonId = c.pack q.key.provider q.key.addonId
  version : c'.version q.key.provider q.dependency = c.version q.key.provider q.dependency

/-- Catalogues that answer one question in a way of their own. -/
def learn (c : Catalogue) (q : Question) (pack? : Option Pack) (version? : Option Held) :
    Catalogue where
  pack provider id := if ⟨provider, id⟩ = q.key then .ok pack? else c.pack provider id
  version provider d := if ⟨provider, d.addonId⟩ = q.key then .ok version? else c.version provider d

variable {c c' : Catalogue} {q : Question} {pack? : Option Pack} {version? : Option Held}

theorem version_learn_self :
    (c.learn q pack? version?).version q.key.provider q.dependency = .ok version? :=
  if_pos rfl

/-- A question about another key is answered as before. -/
theorem agreeOn_learn {q' : Question} (other : q'.key ≠ q.key) :
    c.AgreeOn (c.learn q pack? version?) q' :=
  ⟨if_neg other, if_neg other⟩

/-- What is learned is what a search then hears. -/
theorem reply_learn (scope : Scope) :
    (c.learn q pack? version?).reply scope q = q.answer scope pack? version? := by
  have packed : (c.learn q pack? version?).pack q.key.provider q.key.addonId = .ok pack? :=
    if_pos rfl
  rw [reply, packed, version_learn_self]

theorem AgreeOn.offers (agree : c.AgreeOn c' q) : c'.offers q = c.offers q := by
  rw [Catalogue.offers, agree.version]
  rfl

theorem AgreeOn.declines (agree : c.AgreeOn c' q) : c'.declines q = c.declines q := by
  rw [Catalogue.declines, agree.version]
  rfl

theorem AgreeOn.answers (agree : c.AgreeOn c' q) {e : Discovery} (answers : c.Answers q e) :
    c'.Answers q e := by
  obtain ⟨key, packed, v, offered, copy⟩ := answers
  rw [← key] at packed offered
  refine ⟨key, ?_, v, ?_, copy⟩
  · rw [← key, agree.pack, packed]
  · rw [← key, agree.version, offered]

end Catalogue

/-- What is recorded of a search holds for all catalogues that give the answers which it heard. -/
theorem Ledger.congr {c c' : Catalogue} {scope : Scope} {selected : List Choice}
    {asked : List Question} {seen ahead : List Demand} {s : Search}
    (l : Ledger c scope selected asked seen ahead s) (agree : ∀ q ∈ asked, c.AgreeOn c' q) :
    Ledger c' scope selected asked seen ahead s := by
  have offers : asked.filter c'.offers = asked.filter c.offers :=
    List.filter_congr fun q past => (agree q past).offers
  have declines : asked.filter c'.declines = asked.filter c.declines :=
    List.filter_congr fun q past => (agree q past).declines
  exact
    { selected_eq := l.selected_eq
      demands := l.demands
      keys := l.keys
      first := l.first
      answered := fun q past => by
        rw [(agree q past).declines, (agree q past).offers, l.answered q past]
      found := by rw [offers, l.found]
      unavailable := by rw [declines, l.unavailable]
      origin := fun e inside => by
        obtain ⟨q, past, answers⟩ := l.origin e inside
        exact ⟨q, past, (agree q past).answers answers⟩
      backlinks := l.backlinks
      reached := l.reached }

/-- A search is on its way against some catalogues, and every version that it was answered has a
property. -/
def Progress.Recorded (P : Held → Prop) (scope : Scope) (selected : List Choice)
    (p : Progress) : Prop :=
  ∃ c asked, p.Tracked c scope selected asked ∧
    ∀ q ∈ asked, ∀ v, c.version q.key.provider q.dependency = .ok (some v) → P v

namespace Progress

variable {P : Held → Prop} {scope : Scope} {selected : List Choice}

theorem recorded_start : (Search.start scope selected).Recorded P scope selected :=
  ⟨⟨fun _ _ => .ok none, fun _ _ => .ok none⟩, [], tracked_start,
    fun _ past => absurd past List.not_mem_nil⟩

/-- A search goes on from every answer. -/
theorem Recorded.answer {q : Question} (recorded : (asking q).Recorded P scope selected)
    (pack? : Option Pack) {version? : Option Held} (heard : ∀ v, version? = some v → P v) :
    (q.answer scope pack? version?).Recorded P scope selected := by
  obtain ⟨c, asked, ⟨unknown, seen, l⟩, answered⟩ := recorded
  have new : q.key ∉ asked.map Question.key := (l.not_seen_of_unknown unknown).2.1
  have other (q' : Question) (past : q' ∈ asked) : q'.key ≠ q.key := fun same =>
    new (same ▸ List.mem_map_of_mem past)
  have agree (q' : Question) (past : q' ∈ asked) : c.AgreeOn (c.learn q pack? version?) q' :=
    Catalogue.agreeOn_learn (other q' past)
  refine ⟨c.learn q pack? version?, asked ++ [q], ?_, fun q' inside v offered => ?_⟩
  · rw [← Catalogue.reply_learn (c := c)]
    exact tracked_reply ⟨unknown, seen, l.congr agree⟩
  · rcases List.mem_append.mp inside with past | last
    · rw [(agree q' past).version] at offered
      exact answered q' past v offered
    · rw [List.mem_singleton.mp last, Catalogue.version_learn_self] at offered
      exact heard v (Except.ok.inj offered)

/-- A choice of a closure has a copy of a version that was answered. Recorded with it are the packs
that require the key under which it was found, and none else. -/
theorem Recorded.exists_copy {closure : Closure}
    (recorded : (finished closure).Recorded P scope selected) {choice : Choice}
    (inside : choice ∈ closure.dependencies) :
    ∃ v key, P v ∧ choice.toHeld = v.detached.withRequirers
      (((selected ++ closure.dependencies).filter (·.requires key)).map
        (·.pack.addonId)).eraseDups := by
  obtain ⟨c, asked, ⟨seen, s, l, rfl⟩, answered⟩ := recorded
  obtain ⟨e, found, rfl⟩ := List.mem_map.mp inside
  obtain ⟨q, past, key, -, v, offered, copy⟩ := l.origin e found
  refine ⟨v, e.key, answered q past v (key ▸ offered), ?_⟩
  rw [← l.backlinks_of_nil found]
  exact copy

end Progress

/-- How far an inquiry may have come, whatever it was answered. -/
def InquiryPhase.Recorded (P : Held → Prop) (scope : Scope) (selected : List Choice) :
    InquiryPhase → Prop
  | .scheduled => True
  | .awaitingPack question => (Progress.asking question).Recorded P scope selected
  | .awaitingVersion question _ => (Progress.asking question).Recorded P scope selected
  | .ended (.ok closure) => (Progress.finished closure).Recorded P scope selected
  | .ended (.error _) => True

namespace Inquiry

variable {P : Held → Prop} {scope : Scope} {selected : List Choice} {q : Inquiry}

theorem recorded_ofProgress {p : Progress} (recorded : p.Recorded P scope selected) :
    (ofProgress p).phase.Recorded P scope selected := by
  cases p with
  | finished closure => exact recorded
  | failed f => trivial
  | asking question => exact recorded

theorem recorded_begin (recorded : q.phase.Recorded P scope selected) :
    (q.begin scope selected).phase.Recorded P scope selected := by
  rw [begin]
  split
  · split
    · trivial
    · exact recorded_ofProgress Progress.recorded_start
  · exact recorded

theorem recorded_answerPack (recorded : q.phase.Recorded P scope selected) (intercepted : Bool)
    (answer : Except Fault (Option Pack)) :
    (q.answerPack intercepted answer).phase.Recorded P scope selected := by
  rw [answerPack]
  split
  · rename_i question asking
    rw [asking] at recorded
    split
    · trivial
    · cases answer with
      | error f => trivial
      | ok pack? => exact recorded
  · exact recorded

theorem recorded_answerVersion (recorded : q.phase.Recorded P scope selected) (intercepted : Bool)
    {answer : Except Fault (Option Held)} (heard : ∀ v, answer = .ok (some v) → P v) :
    (q.answerVersion scope intercepted answer).phase.Recorded P scope selected := by
  rw [answerVersion]
  split
  · rename_i question pack? asking
    rw [asking] at recorded
    split
    · trivial
    · cases answer with
      | error f => trivial
      | ok version? =>
          exact recorded_ofProgress (Progress.Recorded.answer recorded pack? fun v same =>
            heard v (congrArg Except.ok same))
  · exact recorded

end Inquiry

end AddonPicker
