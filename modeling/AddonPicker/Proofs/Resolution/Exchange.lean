import AddonPicker.Proofs.Resolution.Distance
import AddonPicker.Proofs.Resolution.Recorded
import AddonPicker.Proofs.Resolution.Warnings

/-!
# What is exchanged with catalogues

A search is told here by its questions and the answers to them, without any catalogue that gives the
answers: whatever was answered, some catalogues answer just so. The list of what was exchanged says
all about a closure that the search comes to: the questions are those that the choices of the
closure raise, in order, the choices are the answers with a version, and the warnings are about the
others.
-/

namespace AddonPicker

/-- A question with what it was answered: the pack, and the version of it that fits. -/
structure Exchange where
  question : Question
  pack : Option Pack
  version : Option Held

namespace Exchange

/-- The key that was asked for. -/
def key (x : Exchange) : PackKey :=
  x.question.key

/-- The choices of a closure, each under the key of the exchange that it came of. -/
def discoveries (xs : List Exchange) (closure : Closure) : List Discovery :=
  List.zipWith Discovery.mk ((xs.filter (·.version.isSome)).map key) closure.dependencies

end Exchange

/-- Catalogues that gave the answers which were heard. -/
def Catalogue.Gave (c : Catalogue) (xs : List Exchange) : Prop :=
  ∀ x ∈ xs, c.pack x.key.provider x.key.addonId = .ok x.pack ∧
    c.version x.key.provider x.question.dependency = .ok x.version

/-- What a closure has to do with what was exchanged on the way to it. -/
structure Closure.ComesOf (scope : Scope) (selected : List Choice) (xs : List Exchange)
    (closure : Closure) : Prop where
  /-- The keys asked for are the first occurrences among the missing ones of all choices. -/
  keys : xs.map Exchange.key =
    ((((selected ++ closure.dependencies).flatMap Choice.demands).map Demand.key).filter
      (scope.lacks (selected.map Choice.key))).eraseDups
  /-- Each question is about the demand that its key occurs with first. -/
  first : ∀ x ∈ xs, Demand.first? x.key
    ((selected ++ closure.dependencies).flatMap Choice.demands) = some x.question.demand
  /-- The choices are the answers with a version, in order, with the packs that were fetched. -/
  found : List.Forall₂ (fun x n => x.pack = some n.pack ∧ ∃ v, x.version = some v ∧
      n.toHeld = v.detached.withRequirers n.version.requiredBy)
    (xs.filter (·.version.isSome)) closure.dependencies
  reached : ∀ e ∈ Exchange.discoveries xs closure,
    ∃ steps, ReachedIn selected (Exchange.discoveries xs closure) steps e.key
  /-- No choice is farther from the selection than those that come after it. -/
  near : (Exchange.discoveries xs closure).Pairwise fun e e' =>
    ∀ steps, ReachedIn selected (Exchange.discoveries xs closure) steps e'.key →
      ∃ fewer ≤ steps, ReachedIn selected (Exchange.discoveries xs closure) fewer e.key
  /-- The warnings are about the other answers, in order. -/
  warned : List.Forall₂ (fun x w => ∃ pack catalogue, x.pack = some pack ∧
      scope.naming.readable x.key.provider = .ok catalogue ∧
      w = "No compatible version of " ++ pack.name ++ " found for " ++ x.question.node.pack.name ++
        " on " ++ catalogue.text)
    (xs.filter (·.version.isNone)) closure.warnings

variable {c c' : Catalogue} {scope : Scope} {selected : List Choice} {xs : List Exchange}

theorem Catalogue.AgreeOn.warning {q : Question} (agree : c.AgreeOn c' q) :
    c'.warning scope q = c.warning scope q := by
  rw [Catalogue.warning, agree.pack]
  rfl

/-- Catalogues that agree on all that was asked for leave the same to warn of. -/
theorem Catalogue.warnings_congr {asked : List Question} (agree : ∀ q ∈ asked, c.AgreeOn c' q) :
    c'.warnings scope asked = c.warnings scope asked := by
  have declined : asked.filter c'.declines = asked.filter c.declines :=
    List.filter_congr fun q past => (agree q past).declines
  rw [warnings, declined, warnings]
  exact List.map_congr_left fun q past => (agree q (List.mem_filter.mp past).1).warning

theorem Catalogue.Gave.offers (gave : c.Gave xs) {x : Exchange} (past : x ∈ xs) :
    c.offers x.question = x.version.isSome := by
  have answer := (gave x past).2
  have answer : c.version x.question.key.provider x.question.dependency = .ok x.version := answer
  rw [Catalogue.offers, answer]
  cases x.version <;> rfl

theorem Catalogue.Gave.declines (gave : c.Gave xs) {x : Exchange} (past : x ∈ xs) :
    c.declines x.question = x.version.isNone := by
  have answer : c.version x.question.key.provider x.question.dependency = .ok x.version :=
    (gave x past).2
  rw [Catalogue.declines, answer]
  cases x.version <;> rfl

theorem Catalogue.Gave.warning (gave : c.Gave xs) {x : Exchange} (past : x ∈ xs) :
    c.warning scope x.question = x.question.warning scope x.pack := by
  have packed : c.pack x.question.key.provider x.question.key.addonId = .ok x.pack :=
    (gave x past).1
  rw [Catalogue.warning, packed]
  rfl

/-- A warning names the fetched pack, the pack that requires it and the catalogue. -/
theorem Question.warning_eq_ok {q : Question} {pack? : Option Pack} {w : String}
    (worded : q.warning scope pack? = .ok w) :
    ∃ pack catalogue, pack? = some pack ∧ scope.naming.readable q.key.provider = .ok catalogue ∧
      w = "No compatible version of " ++ pack.name ++ " found for " ++ q.node.pack.name ++ " on " ++
        catalogue.text := by
  obtain ⟨catalogue, readable⟩ := exists_readable_of_warning worded
  cases pack? with
  | none => cases worded
  | some pack =>
      refine ⟨pack, catalogue, rfl, readable, ?_⟩
      rw [Question.warning, readable] at worded
      exact (Except.ok.inj worded).symm

/-- Lists with the same images are paired along them. -/
theorem forall₂_of_map_eq {α β γ : Type} {f : α → γ} {g : β → γ} {as : List α} {bs : List β}
    (same : as.map f = bs.map g) :
    List.Forall₂ (fun a b => a ∈ as ∧ b ∈ bs ∧ f a = g b) as bs := by
  have length : as.length = bs.length := by simpa using congrArg List.length same
  refine List.forall₂_iff_get.mpr ⟨length, fun i first second => ?_⟩
  have each : (as.map f)[i]? = (bs.map g)[i]? := by rw [same]
  simp only [List.getElem?_map, List.getElem?_eq_getElem first, List.getElem?_eq_getElem second,
    Option.map_some, Option.some.injEq] at each
  exact ⟨List.get_mem .., List.get_mem .., each⟩

/-- A search is on its way on what was exchanged so far. -/
def Progress.Conducted (scope : Scope) (selected : List Choice) (xs : List Exchange)
    (p : Progress) : Prop :=
  ∃ c : Catalogue, c.Gave xs ∧ p.Tracked c scope selected (xs.map Exchange.question) ∧
    p.Warned c scope (xs.map Exchange.question)

namespace Progress

theorem conducted_start : (Search.start scope selected).Conducted scope selected [] :=
  ⟨⟨fun _ _ => .ok none, fun _ _ => .ok none⟩, fun _ past => absurd past List.not_mem_nil,
    tracked_start, warned_start selected⟩

/-- With the question that comes up, all questions are about different missing keys. -/
theorem Conducted.asked {q : Question} (conducted : (asking q).Conducted scope selected xs) :
    ((xs.map Exchange.question ++ [q]).map Question.key).Nodup ∧
      ∀ q' ∈ xs.map Exchange.question ++ [q],
        scope.lacks (selected.map Choice.key) q'.key = true := by
  obtain ⟨c, -, ⟨unknown, seen, l⟩, -⟩ := conducted
  obtain ⟨missing, new, -⟩ := l.not_seen_of_unknown unknown
  constructor
  · rw [List.map_append, List.map_singleton, ← List.concat_eq_append]
    exact l.nodup_asked.concat new
  · intro q' inside
    rcases List.mem_append.mp inside with past | last
    · exact (l.mem_asked_iff.mp (List.mem_map_of_mem past)).2
    · rw [List.mem_singleton.mp last]
      exact missing

/-- Whatever the answer is, it joins what was exchanged. -/
theorem Conducted.answer {q : Question} (conducted : (asking q).Conducted scope selected xs)
    (pack? : Option Pack) (version? : Option Held) :
    (q.answer scope pack? version?).Conducted scope selected (xs ++ [⟨q, pack?, version?⟩]) := by
  obtain ⟨c, gave, ⟨unknown, seen, l⟩, warned⟩ := conducted
  have new := (l.not_seen_of_unknown unknown).2.1
  have agree : ∀ q' ∈ xs.map Exchange.question, c.AgreeOn (c.learn q pack? version?) q' :=
    fun q' past => Catalogue.agreeOn_learn fun same => new (same ▸ List.mem_map_of_mem past)
  refine ⟨c.learn q pack? version?, ?_, ?_, ?_⟩
  · intro x inside
    rcases List.mem_append.mp inside with past | last
    · obtain ⟨packed, answered⟩ := gave x past
      obtain ⟨pack, version⟩ := agree x.question (List.mem_map_of_mem past)
      exact ⟨pack.trans packed, version.trans answered⟩
    · rw [List.mem_singleton.mp last]
      exact ⟨if_pos rfl, if_pos rfl⟩
  · rw [← Catalogue.reply_learn (c := c), List.map_append]
    exact tracked_reply ⟨unknown, seen, l.congr agree⟩
  · rw [← Catalogue.reply_learn (c := c), List.map_append]
    refine warned_reply ?_
    exact (show q.search.warnings.map Except.ok = _ from warned).trans
      (Catalogue.warnings_congr agree).symm

end Progress

section

variable {seen : List Demand} {s : Search} (gave : c.Gave xs)

include gave

/-- The keys of discoveries are those of the exchanges in which a version was found. -/
theorem Ledger.keys_found (l : Ledger c scope selected (xs.map Exchange.question) seen [] s) :
    (xs.filter (·.version.isSome)).map Exchange.key = s.found.map Discovery.key := by
  have offered : (xs.map Exchange.question).filter c.offers =
      (xs.filter (·.version.isSome)).map Exchange.question := by
    rw [List.filter_map]
    exact congrArg _ (List.filter_congr fun x past => gave.offers past)
  rw [l.found, offered, List.map_map]
  rfl

/-- What was discovered is what was answered in the exchange about its key. -/
theorem Ledger.forall₂_found (l : Ledger c scope selected (xs.map Exchange.question) seen [] s) :
    List.Forall₂ (fun x n => x.pack = some n.pack ∧ ∃ v, x.version = some v ∧
        n.toHeld = v.detached.withRequirers n.version.requiredBy)
      (xs.filter (·.version.isSome)) s.closure.dependencies := by
  rw [Search.closure, List.forall₂_map_right_iff]
  refine (forall₂_of_map_eq (l.keys_found gave)).imp fun x e paired => ?_
  obtain ⟨offering, discovered, same⟩ := paired
  have past := (List.mem_filter.mp offering).1
  obtain ⟨q, asked, key, packed, v, answer, copy⟩ := l.origin e discovered
  obtain ⟨x', past', rfl⟩ := List.mem_map.mp asked
  -- No key is asked for twice, so the answer that was discovered is the one in this exchange.
  have distinct : (xs.map Exchange.key).Nodup := by
    have nodup := l.nodup_asked
    rwa [List.map_map] at nodup
  obtain rfl : x' = x :=
    List.inj_on_of_nodup_map distinct past' past (key.trans same.symm)
  obtain ⟨gavePack, gaveVersion⟩ := gave x' past
  rw [same] at gavePack gaveVersion
  exact ⟨Except.ok.inj (gavePack.symm.trans packed), v,
    Except.ok.inj (gaveVersion.symm.trans answer), copy⟩

/-- What was warned of is what was answered without a version. -/
theorem Catalogue.Gave.forall₂_warned {warnings : List String}
    (warned : warnings.map Except.ok = c.warnings scope (xs.map Exchange.question)) :
    List.Forall₂ (fun x w => ∃ pack catalogue, x.pack = some pack ∧
        scope.naming.readable x.key.provider = .ok catalogue ∧
        w = "No compatible version of " ++ pack.name ++ " found for " ++
          x.question.node.pack.name ++ " on " ++ catalogue.text)
      (xs.filter (·.version.isNone)) warnings := by
  have declined : (xs.map Exchange.question).filter c.declines =
      (xs.filter (·.version.isNone)).map Exchange.question := by
    rw [List.filter_map]
    exact congrArg _ (List.filter_congr fun x past => gave.declines past)
  have worded : (xs.filter (·.version.isNone)).map (fun x => c.warning scope x.question) =
      warnings.map Except.ok := by
    rw [warned, Catalogue.warnings, declined, List.map_map]
    rfl
  refine (forall₂_of_map_eq worded).imp fun x w paired => ?_
  obtain ⟨declining, -, same⟩ := paired
  rw [gave.warning (List.mem_filter.mp declining).1] at same
  exact Question.warning_eq_ok same

end

/-- A closure that a search comes to comes of what was exchanged. -/
theorem Progress.Conducted.comesOf {closure : Closure}
    (conducted : (Progress.finished closure).Conducted scope selected xs) :
    closure.ComesOf scope selected xs := by
  obtain ⟨c, gave, ⟨seen, s, l, rfl⟩, warned⟩ := conducted
  have all := l.seen_eq
  have made : Exchange.discoveries xs s.closure = s.found := by
    rw [Exchange.discoveries, l.keys_found gave, Search.closure, List.zipWith_map,
      List.zipWith_self, List.map_id']
  have asked : xs.map Exchange.key = ((seen.map Demand.key).filter
      (scope.lacks (selected.map Choice.key))).eraseDups := by
    rw [← l.keys, List.map_map]
    rfl
  obtain ⟨reached, near⟩ := l.pairwise_reachedIn
  rw [← made] at reached near
  exact
    { keys := all ▸ asked
      first := fun x past => all ▸ l.first x.question (List.mem_map_of_mem past)
      found := l.forall₂_found gave
      reached
      near
      warned := gave.forall₂_warned warned }

end AddonPicker
