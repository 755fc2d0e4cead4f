import AddonPicker.Proofs.Resolution.Again

/-!
# The first demand of a key

No key is looked up twice, and so the demand that a search meets first is looked up for all demands
of its key. Later demands may have other pins. They get what was found for the first one, and if
nothing fits that, they get nothing, even where the catalogues have a version that would fit them.
-/

namespace AddonPicker

variable {c : Catalogue} {scope : Scope} {selected : List Choice} {fuel : Nat} {closure : Closure}

/-- What becomes of a key is what the catalogues answer to one demand of it: with a version it is
discovered, and without one it is not. -/
structure Resolution.Decides (c : Catalogue) (r : Resolution) (closure : Closure) (first : Demand) :
    Prop where
  discovered : first.key ∈ (r.discoveries c closure).map Discovery.key ↔
    ∃ v, c.version first.key.provider first.dependency = .ok (some v)
  undiscovered : first.key ∉ (r.discoveries c closure).map Discovery.key ↔
    c.version first.key.provider first.dependency = .ok none

/-- Every answer was either a version or the statement that none fits. -/
theorem Ledger.version_cases {asked : List Question} {seen ahead : List Demand} {s : Search}
    (l : Ledger c scope selected asked seen ahead s) {q : Question} (past : q ∈ asked) :
    (∃ v, c.version q.key.provider q.dependency = .ok (some v)) ∨
      c.version q.key.provider q.dependency = .ok none := by
  have answered := l.answered q past
  cases answer : c.version q.key.provider q.dependency with
  | error f =>
      rw [Catalogue.declines, Catalogue.offers, answer] at answered
      cases answered
  | ok version? =>
      cases version? with
      | some v => exact .inl ⟨v, rfl⟩
      | none => exact .inr rfl

/-- The demand of a question decides about its key. -/
theorem Ledger.decides {r : Resolution} {seen ahead : List Demand} {s : Search}
    (l : Ledger c scope selected r.questions seen ahead s) {q : Question}
    (past : q ∈ r.questions) : r.Decides c s.closure q.demand := by
  have key : q.demand.key = q.key := rfl
  have dependency : q.demand.dependency = q.dependency := rfl
  rcases l.version_cases past with ⟨v, answer⟩ | answer
  · have found := l.mem_found_of_offers past (Catalogue.offers_of_version answer).1
    constructor <;> rw [l.discoveries_eq, key, dependency, answer]
    · exact ⟨fun _ => ⟨v, rfl⟩, fun _ => found⟩
    · exact ⟨fun missed => absurd found missed, fun declined => nomatch declined⟩
  · have missed := l.not_mem_found_of_declines past (Catalogue.declines_of_version answer).2
    constructor <;> rw [l.discoveries_eq, key, dependency, answer]
    · exact ⟨fun found => absurd found missed, fun ⟨_, offered⟩ => nomatch offered⟩
    · exact ⟨fun _ => rfl, fun _ => missed⟩

/-- A missing key that has been seen was looked up with the first demand of it. -/
theorem Ledger.exists_first {asked : List Question} {seen ahead : List Demand} {s : Search}
    (l : Ledger c scope selected asked seen ahead s) {d : Demand} (met : d ∈ seen)
    (missing : scope.lacks (selected.map Choice.key) d.key = true) :
    ∃ q ∈ asked, q.key = d.key ∧ Demand.first? d.key seen = some q.demand := by
  obtain ⟨q, past, same⟩ :=
    List.mem_map.mp (l.mem_asked_iff.mpr ⟨List.mem_map_of_mem met, missing⟩)
  exact ⟨q, past, same, same ▸ l.first q past⟩

namespace Catalogue

/-- Whether a required dependency that is missing is discovered hangs on the first demand of its
key, in the order of the selection and then of discovery: it is if the catalogues offer a version
for that demand. -/
theorem decides_of_resolve (ended : (c.resolve scope fuel selected).outcome = some (.ok closure))
    {n : Choice} (takesPart : n ∈ selected ++ closure.dependencies) {d : Dependency}
    (required : d ∈ n.version.requiredDependencies)
    (absent : scope.isInstalled d.addonId = false)
    (unselected : .ofDependency n.pack d ∉ selected.map Choice.key) :
    ∃ first, first.key = .ofDependency n.pack d ∧
      Demand.first? (.ofDependency n.pack d)
        ((selected ++ closure.dependencies).flatMap Choice.demands) = some first ∧
      (c.resolve scope fuel selected).Decides c closure first := by
  obtain ⟨seen, s, l, rfl⟩ := ledger_of_resolve ended
  obtain ⟨q, past, same, first⟩ := l.exists_first (l.mem_seen takesPart required)
    (Scope.lacks_iff.mpr ⟨unselected, absent⟩)
  rw [l.seen_eq] at first
  exact ⟨q.demand, same, first, l.decides past⟩

end Catalogue

/-- A part that requires part four with the pin that nothing fits, and one that requires it without
a pin. -/
def pinnedFirst : List Choice :=
  [{ pack := ringPack 0
     version := { ringVersion 0 with dependencies := [⟨.number 4, .required, some "1", []⟩] } },
    { pack := ringPack 1
      version := { ringVersion 1 with dependencies := [⟨.number 4, .required, none, []⟩] } }]

/-- Nothing is discovered. -/
def pinnedFirstClosure : Closure where
  dependencies := []
  warnings := ["No compatible version of Part found for Part on Modrinth"]

/-- Only the demand with the pin is looked up. -/
theorem decides_of_resolve_pinnedFirst :
    (pinnedRing.resolve ringScope 1 pinnedFirst).outcome = some (.ok pinnedFirstClosure) ∧
      Demand.first? ⟨.modrinth, .number 4⟩
          ((pinnedFirst ++ pinnedFirstClosure.dependencies).flatMap Choice.demands) =
        some ⟨ringPack 0, ⟨.number 4, .required, some "1", []⟩⟩ ∧
      (pinnedRing.resolve ringScope 1 pinnedFirst).Decides pinnedRing pinnedFirstClosure
        ⟨ringPack 0, ⟨.number 4, .required, some "1", []⟩⟩ := by
  have ended : (pinnedRing.resolve ringScope 1 pinnedFirst).outcome =
      some (.ok pinnedFirstClosure) := rfl
  obtain ⟨first, -, found, decides⟩ := Catalogue.decides_of_resolve ended
    (n := {
      pack := ringPack 1
      version := { ringVersion 1 with dependencies := [⟨.number 4, .required, none, []⟩] } })
    (List.mem_append_left _ (.tail _ (.head _))) (d := ⟨.number 4, .required, none, []⟩)
    (.head _) rfl (by decide)
  obtain rfl : ⟨ringPack 0, ⟨.number 4, .required, some "1", []⟩⟩ = first := Option.some.inj found
  exact ⟨ended, found, decides⟩

/-- A version is offered for the demand without a pin, and yet the part is not discovered. -/
theorem not_discovered_pinnedFirst :
    (pinnedRing.resolve ringScope 1 pinnedFirst).outcome = some (.ok pinnedFirstClosure) ∧
      ∃ n ∈ pinnedFirst, ∃ d ∈ n.version.requiredDependencies,
        ringScope.isInstalled d.addonId = false ∧
          PackKey.ofDependency n.pack d ∉ pinnedFirst.map Choice.key ∧
          pinnedRing.version n.pack.provider d = .ok (some (ringVersion 4)) ∧
          PackKey.ofDependency n.pack d ∉
            ((pinnedRing.resolve ringScope 1 pinnedFirst).discoveries pinnedRing
              pinnedFirstClosure).map Discovery.key := by
  refine ⟨rfl, _, .tail _ (.head _), _, .head _, rfl, by decide, rfl, List.not_mem_nil⟩

end AddonPicker
