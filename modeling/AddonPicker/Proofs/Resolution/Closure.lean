import AddonPicker.Proofs.Resolution.Conduct
import AddonPicker.Proofs.Resolution.Outcome
import AddonPicker.Proofs.Resolution.Pruned
import Mathlib.Data.List.Nodup

/-!
# What a closure holds

A resolution that comes to its end has found the closure of the selection under required
dependencies: nothing is missing, nothing is there without a reason, and nothing is there twice.
The keys of discoveries are not part of a closure. They are the keys of those questions that were
answered with a version, in the order of asking, which is the order of the closure.
-/

namespace AddonPicker

namespace Resolution

variable (c : Catalogue)

/-- The keys that were answered with a version, in the order of asking. -/
def offeredKeys (r : Resolution) : List PackKey :=
  (r.questions.filter c.offers).map Question.key

/-- The keys that were answered with no version, in the order of asking. -/
def declinedKeys (r : Resolution) : List PackKey :=
  (r.questions.filter c.declines).map Question.key

/-- The choices of a closure, each under the key that it was asked for with. -/
def discoveries (r : Resolution) (closure : Closure) : List Discovery :=
  List.zipWith Discovery.mk (r.offeredKeys c) closure.dependencies

/-- A closure of a selection under required dependencies, as far as catalogues offer them. -/
structure IsClosure (scope : Scope) (selected : List Choice) (r : Resolution) (closure : Closure) :
    Prop where
  /-- Every choice of the closure stands under a key. -/
  keyed : (r.discoveries c closure).map (·.choice) = closure.dependencies
  /-- A required dependency of a choice that takes part is there, unless no version fits. -/
  closed : ∀ n ∈ selected ++ closure.dependencies, ∀ d ∈ n.version.requiredDependencies,
    scope.isInstalled d.addonId = true ∨
      .ofDependency n.pack d ∈ selected.map Choice.key ∨
      .ofDependency n.pack d ∈ (r.discoveries c closure).map Discovery.key ∨
      ∃ q ∈ r.questions, q.key = .ofDependency n.pack d ∧
        c.version q.key.provider q.dependency = .ok none
  /-- A discovery was missing, was answered by the catalogues, and has a chain of required
  dependencies behind it. -/
  sound : ∀ e ∈ r.discoveries c closure,
    e.key ∉ selected.map Choice.key ∧ scope.isInstalled e.key.addonId = false ∧
      (∃ q ∈ r.questions, c.Answers q e) ∧ Reached selected (r.discoveries c closure) e.key
  /-- No key is asked for twice, whatever cycles there are. -/
  askedOnce : r.keys.Nodup
  /-- No key is discovered twice. -/
  distinct : ((r.discoveries c closure).map Discovery.key).Nodup
  /-- No key is discovered that a catalogue said had no version. -/
  disjoint : ∀ q ∈ r.questions, c.version q.key.provider q.dependency = .ok none →
    q.key ∉ (r.discoveries c closure).map Discovery.key

end Resolution

namespace Ledger

variable {c : Catalogue} {scope : Scope} {selected : List Choice} {seen ahead : List Demand}
variable {s : Search} {r : Resolution}

/-- The discoveries of a resolution are those that its search has made. -/
theorem discoveries_eq (l : Ledger c scope selected r.questions seen ahead s) :
    r.discoveries c s.closure = s.found := by
  have rebuilt (found : List Discovery) :
      List.zipWith Discovery.mk (found.map Discovery.key) (found.map (·.choice)) = found := by
    rw [List.zipWith_map, List.zipWith_self, List.map_id']
  rw [Resolution.discoveries, Resolution.offeredKeys, ← l.found]
  exact rebuilt s.found

/-- A key cannot be asked for twice, so what is offered is never declined. -/
theorem not_mem_found_of_declines {asked : List Question}
    (l : Ledger c scope selected asked seen ahead s) {q : Question} (past : q ∈ asked)
    (declined : c.declines q = true) : q.key ∉ s.found.map Discovery.key := by
  rw [l.found]
  intro inside
  obtain ⟨q', offering, same⟩ := List.mem_map.mp inside
  obtain ⟨past', offered⟩ := List.mem_filter.mp offering
  obtain rfl : q' = q := List.inj_on_of_nodup_map l.nodup_asked past' past same
  rw [l.answered q' past', offered] at declined
  exact Bool.false_ne_true declined

/-- With nothing ahead, every required dependency of a choice that takes part has been seen. -/
theorem mem_seen (l : Ledger c scope selected r.questions seen [] s) {n : Choice}
    (takesPart : n ∈ selected ++ s.closure.dependencies) {d : Dependency}
    (required : d ∈ n.version.requiredDependencies) : ⟨n.pack, d⟩ ∈ seen := by
  have demanded : ⟨n.pack, d⟩ ∈ n.demands := List.mem_map_of_mem required
  rw [← List.append_nil seen, l.demands, List.mem_append]
  rcases List.mem_append.mp takesPart with chosen | found
  · exact .inl (List.mem_flatMap.mpr ⟨n, chosen, demanded⟩)
  · obtain ⟨e, inside, rfl⟩ := List.mem_map.mp found
    exact .inr (List.mem_flatMap.mpr ⟨e, inside, demanded⟩)

/-- With nothing ahead, a search has found a closure of the selection. -/
theorem isClosure (l : Ledger c scope selected r.questions seen [] s) :
    r.IsClosure c scope selected s.closure where
  keyed := by rw [l.discoveries_eq]; rfl
  closed := by
    intro n takesPart d required
    rw [l.discoveries_eq]
    have occurred := l.mem_seen takesPart required
    by_cases missing : scope.lacks (selected.map Choice.key) (.ofDependency n.pack d) = true
    · have past := l.mem_asked_iff.mpr ⟨List.mem_map_of_mem occurred, missing⟩
      obtain ⟨q, asked, same⟩ := List.mem_map.mp past
      have same : q.key = .ofDependency n.pack d := same
      by_cases found : q.key ∈ s.found.map Discovery.key
      · exact .inr (.inr (.inl (same ▸ found)))
      · have declined := l.declines_of_not_mem_found asked found
        exact .inr (.inr (.inr ⟨q, asked, same, Catalogue.version_of_declines declined⟩))
    · rw [Scope.lacks, Bool.and_eq_true, not_and_or] at missing
      rcases missing with chosen | installed
      · right; left
        simpa using chosen
      · left
        rw [Bool.not_eq_true, Bool.not_eq_false'] at installed
        exact installed
  sound := by
    rw [l.discoveries_eq]
    intro e inside
    have past : e.key ∈ r.questions.map Question.key := by
      obtain ⟨q, asked, same, -⟩ := l.origin e inside
      exact List.mem_map.mpr ⟨q, asked, same⟩
    obtain ⟨-, missing⟩ := l.mem_asked_iff.mp past
    rw [Scope.lacks, Bool.and_eq_true] at missing
    refine ⟨by simpa using missing.1, by simpa using missing.2, l.origin e inside, ?_⟩
    exact l.reached e inside
  askedOnce := l.nodup_asked
  distinct := by
    rw [l.discoveries_eq]
    exact l.nodup_found
  disjoint := by
    rw [l.discoveries_eq]
    intro q asked answer
    exact l.not_mem_found_of_declines asked (Catalogue.declines_of_version answer).2

end Ledger

/-- A resolution that comes to a closure has found the closure of the selection; it is what an
inquiry reports whose lookups are answered by the catalogues. The declared dependencies that are
not required have no part in it: without them, the same keys are asked for and the same closure is
found. -/
theorem Catalogue.resolve_isClosure {c : Catalogue} {scope : Scope} {selected : List Choice}
    {fuel : Nat} {closure : Closure}
    (ended : (c.resolve scope fuel selected).outcome = some (.ok closure)) :
    (c.resolve scope fuel selected).IsClosure c scope selected closure ∧
      ((c.attend scope)^[2 * fuel] (Inquiry.begin scope selected {})).outcome? =
        some (.ok closure) ∧
      (c.pruned.resolve scope fuel (selected.map Choice.pruned)).outcome =
        some (.ok closure.pruned) ∧
      (c.pruned.resolve scope fuel (selected.map Choice.pruned)).keys =
        (c.resolve scope fuel selected).keys := by
  obtain ⟨seen, s, l, rfl⟩ := ledger_of_resolve ended
  refine ⟨l.isClosure, ?_, ?_, ?_⟩
  · rw [outcome?_begin, ended]
  · rw [resolve_pruned, Resolution.pruned, ended]
    rfl
  · rw [resolve_pruned, Resolution.keys_pruned]

/-- A pack of the ring below. -/
def ringPack (i : Int) : Pack where
  addonId := .number i
  name := "Part"
  provider := .modrinth

/-- A version that requires the next part of the ring, itself, a part that no catalogue has a
version of and an installed one. Its record of what requires it is not to be trusted. -/
def ringVersion (i : Int) : Version where
  addonId := .number i
  fileId := .number i
  fileName := "part.jar"
  dependencies := [⟨.number ((i + 1) % 3), .required, none, []⟩, ⟨.number i, .required, none, []⟩,
    ⟨.number 7, .required, none, []⟩, ⟨.number 8, .required, none, []⟩,
    ⟨.number 9, .optional, none, []⟩]
  requiredBy := [.number 5]

/-- Catalogues whose parts require each other in a ring of three. -/
def ring : Catalogue where
  pack _
    | .number i => .ok (some (ringPack i))
    | .text _ => .ok none
  version _ d :=
    match d.addonId with
    | .number 7 => .ok none
    | .number i => .ok (some (ringVersion i))
    | .text _ => .ok none

/-- Part eight is installed. -/
def ringScope : Scope where
  isInstalled id := id == .number 8
  serves _ := true
  naming := .standard

/-- One part of the ring is selected. -/
def ringSelection : List Choice :=
  [{ pack := ringPack 0, version := ringVersion 0 }]

/-- The other two parts of the ring are discovered. -/
def ringClosure : Closure where
  dependencies :=
    [{ pack := ringPack 1, version := { ringVersion 1 with requiredBy := [.number 0, .number 1] } },
      { pack := ringPack 2, version := { ringVersion 2 with requiredBy := [.number 1, .number 2] } }]
  warnings := ["No compatible version of Part found for Part on Modrinth"]

/-- The ring is closed through the selection, with an unavailable, an installed and an optional
part on the way. -/
theorem resolve_isClosure_ring :
    (ring.resolve ringScope 3 ringSelection).outcome = some (.ok ringClosure) ∧
      (ring.resolve ringScope 3 ringSelection).IsClosure ring ringScope ringSelection
        ringClosure := by
  have ended : (ring.resolve ringScope 3 ringSelection).outcome = some (.ok ringClosure) := rfl
  exact ⟨ended, (Catalogue.resolve_isClosure ended).1⟩

end AddonPicker
