import AddonPicker.Proofs.Resolution.Closure
import AddonPicker.Proofs.Resolution.Completion
import AddonPicker.Proofs.Resolution.Warnings
import Mathlib.Logic.Function.Basic

/-!
# Resolving a resolved selection

A selection that is resolved together with what its resolution discovered lacks nothing but what no
version was there for. The demands of the selection are now those that the first resolution had
seen by its end, in the same order; so a key that was not available then is met first in the same
demand, with the same pin, and gets the same answer and the same warning.
-/

namespace AddonPicker

namespace Question

/-- Questions of the same demands agree in everything that hangs on the demand. -/
theorem map_congr {β : Type} [Nonempty β] {f : Question → β} {qs qs' : List Question}
    (through : f.FactorsThrough Question.demand)
    (same : qs.map Question.demand = qs'.map Question.demand) : qs.map f = qs'.map f := by
  obtain ⟨g, rfl⟩ := (Function.factorsThrough_iff f).mp through
  rw [← List.map_map, same, List.map_map]

theorem factorsThrough_lookups (target : String) :
    (lookups target).FactorsThrough Question.demand := by
  intro q q' same
  have key : q.key = q'.key := congrArg Demand.key same
  have dependency : q.dependency = q'.dependency := congrArg Demand.dependency same
  rw [lookups, key, dependency, lookups]

theorem factorsThrough_warning (c : Catalogue) (scope : Scope) :
    (c.warning scope).FactorsThrough Question.demand := by
  intro q q' same
  have key : q.key = q'.key := congrArg Demand.key same
  have pack : q.node.pack = q'.node.pack := congrArg Demand.requirer same
  have worded (pack? : Option Pack) : q.warning scope pack? = q'.warning scope pack? := by
    simp only [warning, key, pack]
  rw [Catalogue.warning, Catalogue.warning, key]
  simp only [worded]

end Question

namespace Ledger

variable {c : Catalogue} {scope : Scope} {selected : List Choice} {asked asked' : List Question}
variable {seen seen' ahead' : List Demand} {s s' : Search}

/-- Among truthful catalogues, choices have the keys that they were discovered under. -/
theorem keys_dependencies {ahead : List Demand} (truthful : c.IsTruthful)
    (l : Ledger c scope selected asked seen ahead s) :
    s.closure.dependencies.map Choice.key = s.found.map Discovery.key := by
  rw [Search.closure, List.map_map]
  refine List.map_congr_left fun e found => ?_
  obtain ⟨q, -, -, packed, -⟩ := l.origin e found
  exact truthful _ _ _ packed

/-- Together with its discoveries, a selection lacks what it lacked before without them. -/
theorem lacks_again (truthful : c.IsTruthful) (l : Ledger c scope selected asked seen [] s)
    (key : PackKey) :
    scope.lacks ((selected ++ s.closure.dependencies).map Choice.key) key =
      (!s.hasFound key && scope.lacks (selected.map Choice.key) key) := by
  have found : s.hasFound key = (s.found.map Discovery.key).contains key := by
    rw [Bool.eq_iff_iff, Search.hasFound_iff, List.contains_iff_mem]
  rw [Scope.lacks, List.map_append, l.keys_dependencies truthful, found, Scope.lacks,
    List.contains_append]
  cases (selected.map Choice.key).contains key <;> simp

/-- The demands of a search of the selection with its discoveries are those seen before. -/
theorem demands_again (l : Ledger c scope selected asked seen [] s)
    (l' : Ledger c scope (selected ++ s.closure.dependencies) asked' seen' ahead' s') :
    seen' ++ ahead' = seen ++ s'.found.flatMap (·.choice.demands) := by
  rw [l'.demands, List.flatMap_append, Search.closure, List.flatMap_map, ← l.demands,
    List.append_nil]

/-- A key that is still missing was declined for the first demand of it. -/
theorem exists_declined (truthful : c.IsTruthful) (l : Ledger c scope selected asked seen [] s)
    {key : PackKey} (occurred : key ∈ seen.map Demand.key)
    (missing : scope.lacks ((selected ++ s.closure.dependencies).map Choice.key) key = true) :
    ∃ q ∈ asked, q.key = key ∧ c.declines q = true ∧
      Demand.first? key seen = some q.demand := by
  rw [l.lacks_again truthful, Bool.and_eq_true, Bool.not_eq_true'] at missing
  obtain ⟨undiscovered, missing⟩ := missing
  obtain ⟨q, inside, rfl⟩ := List.mem_map.mp (l.mem_asked_iff.mpr ⟨occurred, missing⟩)
  refine ⟨q, inside, rfl, l.declines_of_not_mem_found inside fun found => ?_, l.first q inside⟩
  rw [Search.hasFound_iff.mpr found] at undiscovered
  exact Bool.false_ne_true undiscovered.symm

/-- A search of the selection with its discoveries makes no discovery under a key that was seen
before. -/
theorem not_found_again (truthful : c.IsTruthful) (l : Ledger c scope selected asked seen [] s)
    (l' : Ledger c scope (selected ++ s.closure.dependencies) asked' seen' ahead' s')
    {e' : Discovery} (found : e' ∈ s'.found) : e'.key ∉ seen.map Demand.key := by
  intro occurred
  obtain ⟨q', past, key, -, v, offered, -⟩ := l'.origin e' found
  have asked' := List.mem_map_of_mem (f := Question.key) past
  rw [key] at asked'
  obtain ⟨q, -, -, declined, first⟩ :=
    l.exists_declined truthful occurred (l'.mem_asked_iff.mp asked').2
  -- Both searches asked with the first demand of the key among the same demands.
  have first' := Demand.first?_append (l'.first q' past) ahead'
  rw [key, l.demands_again l', Demand.first?_append first] at first'
  have same : q.demand = q'.demand := by simpa using first'
  have dependency : q.dependency = q'.dependency := congrArg Demand.dependency same
  have sameKey : q.key = q'.key := congrArg Demand.key same
  have answer := Catalogue.version_of_declines declined
  rw [sameKey, key, dependency, offered] at answer
  simp at answer

/-- It makes no discovery at all, since nothing else can be reached. -/
theorem found_again (truthful : c.IsTruthful) (l : Ledger c scope selected asked seen [] s)
    (l' : Ledger c scope (selected ++ s.closure.dependencies) asked' seen' ahead' s') :
    s'.found = [] := by
  have seenBefore {key : PackKey}
      (reached : Reached (selected ++ s.closure.dependencies) s'.found key) :
      key ∈ seen.map Demand.key := by
    induction reached with
    | direct chosen demanded =>
        have among := List.mem_flatMap.mpr ⟨_, chosen, demanded⟩
        rw [List.flatMap_append, Search.closure, List.flatMap_map, ← l.demands,
          List.append_nil] at among
        exact List.mem_map_of_mem among
    | through discovered _ _ ih =>
        exact absurd ih (l.not_found_again truthful l' discovered)
  refine List.eq_nil_iff_forall_not_mem.mpr fun e' found => ?_
  exact l.not_found_again truthful l' found (seenBefore (l'.reached e' found))

/-- So the demands are the same from beginning to end. -/
theorem demands_eq_again (truthful : c.IsTruthful) (l : Ledger c scope selected asked seen [] s)
    (l' : Ledger c scope (selected ++ s.closure.dependencies) asked' seen' ahead' s') :
    seen' ++ ahead' = seen := by
  rw [l.demands_again l', l.found_again truthful l', List.flatMap_nil, List.append_nil]

/-- When it is through it has asked what was declined before, in the same order. -/
theorem demands_asked_again (truthful : c.IsTruthful) (l : Ledger c scope selected asked seen [] s)
    (l' : Ledger c scope (selected ++ s.closure.dependencies) asked' seen' [] s') :
    asked'.map Question.demand = (asked.filter c.declines).map Question.demand := by
  obtain rfl : seen' = seen := by
    rw [← l.demands_eq_again truthful l', List.append_nil]
  have keys : asked'.map Question.key = (asked.filter c.declines).map Question.key := by
    have declining : asked.filter c.declines = asked.filter fun q => !s.hasFound q.key := by
      refine List.filter_congr fun q inside => ?_
      rw [Bool.eq_iff_iff, Bool.not_eq_true', Bool.eq_false_iff, ne_eq, Search.hasFound_iff]
      exact ⟨l.not_mem_found_of_declines inside, l.declines_of_not_mem_found inside⟩
    have missing : scope.lacks ((selected ++ s.closure.dependencies).map Choice.key) =
        fun key => !s.hasFound key && scope.lacks (selected.map Choice.key) key :=
      funext (l.lacks_again truthful)
    rw [l'.keys, missing, declining, ← List.filter_filter (p := fun key => !s.hasFound key),
      ← filter_eraseDups, ← l.keys, List.filter_map]
    rfl
  have first {asked : List Question}
      (firsts : ∀ q ∈ asked, Demand.first? q.key seen' = some q.demand) :
      (asked.map Question.demand).map some =
        (asked.map Question.key).map (Demand.first? · seen') := by
    rw [List.map_map, List.map_map]
    exact List.map_congr_left fun q inside => (firsts q inside).symm
  refine List.map_injective_iff.mpr (fun _ _ => Option.some.inj) ?_
  rw [first l'.first, keys, first fun q inside => l.first q (List.mem_filter.mp inside).1]

/-- All of that is declined again. -/
theorem filter_declines_again (truthful : c.IsTruthful)
    (l : Ledger c scope selected asked seen [] s)
    (l' : Ledger c scope (selected ++ s.closure.dependencies) asked' seen' ahead' s') :
    asked'.filter c.declines = asked' := by
  refine List.filter_eq_self.mpr fun q past => l'.declines_of_not_mem_found past ?_
  rw [l.found_again truthful l']
  exact List.not_mem_nil

end Ledger

namespace Catalogue

variable {c : Catalogue} {scope : Scope} {selected : List Choice} {fuel : Nat} {closure : Closure}

/-- A resolution that came to a closure carries that of the selection with its discoveries, which
has the declined keys to ask about. -/
theorem carries_again (truthful : c.IsTruthful)
    (ended : (c.resolve scope fuel selected).outcome = some (.ok closure)) :
    c.Carries scope (selected ++ closure.dependencies)
      ((c.resolve scope fuel selected).declinedKeys c) := by
  obtain ⟨seen, s, l, rfl⟩ := ledger_of_resolve ended
  intro asked' seen' d ahead' s' l' unknown
  obtain ⟨missing, -, unseen⟩ := l'.not_seen_of_unknown unknown
  have split := l.demands_eq_again truthful l'
  have occurred : d.key ∈ seen.map Demand.key :=
    List.mem_map_of_mem (split ▸ List.mem_append_right _ List.mem_cons_self)
  obtain ⟨q, inside, key, declined, first⟩ := l.exists_declined truthful occurred missing
  -- The demand itself is the first of its key, so it is the one that was asked about.
  have own : Demand.first? d.key seen = some d := split ▸ Demand.first?_append_cons unseen ahead'
  obtain rfl : q.demand = d := by simpa [own] using first.symm
  exact ⟨settles_of_resolve ended q inside,
    List.mem_map.mpr ⟨q, List.mem_filter.mpr ⟨inside, declined⟩, key⟩⟩

/-- A resolved selection, together with what was discovered for it, comes to a closure. -/
theorem exists_resolve_again (truthful : c.IsTruthful)
    (ended : (c.resolve scope fuel selected).outcome = some (.ok closure)) :
    ∃ closure', (c.resolve scope fuel (selected ++ closure.dependencies)).outcome =
      some (.ok closure') := by
  have asked := length_questions_resolveFrom_le c scope fuel (Search.start scope selected)
  refine (carries_again truthful ended).exists_closure ?_
  rw [Resolution.declinedKeys, List.length_map]
  exact Nat.le_trans (List.length_filter_le ..) asked

/-- A resolved selection, together with what was discovered for it, lacks nothing: resolving it
again discovers nothing, gives the same warnings, and looks up nothing but, once more, each key
that was not available. -/
theorem resolve_again (truthful : c.IsTruthful)
    (ended : (c.resolve scope fuel selected).outcome = some (.ok closure)) :
    (c.resolve scope fuel (selected ++ closure.dependencies)).outcome =
        some (.ok ⟨[], closure.warnings⟩) ∧
      ((c.resolve scope fuel selected).declinedKeys c).Nodup ∧
      ∀ target n, 2 * fuel ≤ n →
        c.lookups scope target n (Inquiry.begin scope (selected ++ closure.dependencies) {}) =
          ((c.resolve scope fuel selected).questions.filter c.declines).flatMap
            (Question.lookups target) := by
  obtain ⟨closure', ended'⟩ := exists_resolve_again truthful ended
  have warned := warnings_of_resolve ended
  have warned' := warnings_of_resolve ended'
  obtain ⟨seen, s, l, rfl⟩ := ledger_of_resolve ended
  obtain ⟨seen', s', l', rfl⟩ := ledger_of_resolve ended'
  have demands := l.demands_asked_again truthful l'
  refine ⟨?_, l.nodup_declined, ?_⟩
  · rw [warnings, l.filter_declines_again truthful l',
      Question.map_congr (Question.factorsThrough_warning c scope) demands] at warned'
    have same : s'.closure.warnings = s.closure.warnings :=
      List.map_injective_iff.mpr (fun _ _ => Except.ok.inj) (warned'.trans warned.symm)
    have none_ : s'.closure.dependencies = [] := by
      rw [Search.closure, l.found_again truthful l', List.map_nil]
    rw [ended', ← same, ← none_]
  · intro target n enough
    have made := c.lookups_begin scope target ended' enough
    rw [List.flatMap_def,
      Question.map_congr (Question.factorsThrough_lookups target) demands] at made
    rw [List.flatMap_def]
    exact made

end Catalogue

/-- The ring, on every catalogue, without a version for the pin "1". -/
def pinnedRing : Catalogue where
  pack provider
    | .number i => .ok (some { ringPack i with provider })
    | .text _ => .ok none
  version provider d := if d.pin = some "1" then .ok none else ring.version provider d

/-- A part that requires a part of the ring, and one with that pin. -/
def pinnedSelection : List Choice :=
  [{ pack := ringPack 0, version := { ringVersion 0 with
    dependencies := [⟨.number 1, .required, none, []⟩, ⟨.number 4, .required, some "1", []⟩] } }]

/-- Two parts are discovered, and two are not available. -/
def pinnedClosure : Closure where
  dependencies :=
    [{ pack := ringPack 1, version := { ringVersion 1 with requiredBy := [.number 0, .number 1] } },
      { pack := ringPack 2, version := { ringVersion 2 with requiredBy := [.number 1, .number 2] } }]
  warnings :=
    ["No compatible version of Part found for Part on Modrinth",
      "No compatible version of Part found for Part on Modrinth"]

/-- The second resolution asks for the two parts that are not available, the one with its pin. -/
theorem resolve_again_pinnedRing :
    (pinnedRing.IsTruthful ∧
      (pinnedRing.resolve ringScope 4 pinnedSelection).outcome = some (.ok pinnedClosure)) ∧
      (pinnedRing.resolve ringScope 4 (pinnedSelection ++ pinnedClosure.dependencies)).outcome =
        some (.ok ⟨[], pinnedClosure.warnings⟩) ∧
      pinnedRing.lookups ringScope "1.20" 8
          (Inquiry.begin ringScope (pinnedSelection ++ pinnedClosure.dependencies) {}) =
        [.pack .modrinth (.number 4), .version .modrinth (.number 4) (some "1") "1.20",
          .pack .modrinth (.number 7), .version .modrinth (.number 7) none "1.20"] := by
  have truthful : pinnedRing.IsTruthful := by
    intro provider id pack looked
    cases id with
    | number i =>
        obtain rfl : { ringPack i with provider } = pack := by simpa [pinnedRing] using looked
        rfl
    | text _ => simp [pinnedRing] at looked
  have ended : (pinnedRing.resolve ringScope 4 pinnedSelection).outcome =
      some (.ok pinnedClosure) := rfl
  obtain ⟨again, -, lookups⟩ := Catalogue.resolve_again truthful ended
  exact ⟨⟨truthful, ended⟩, again, lookups "1.20" 8 (Nat.le_refl _)⟩

end AddonPicker
