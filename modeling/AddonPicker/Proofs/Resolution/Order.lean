import AddonPicker.Proofs.Resolution.Closure
import AddonPicker.Proofs.Resolution.Completion
import AddonPicker.Proofs.Resolution.Warnings

/-!
# The order of a selection

Where a pin has no part in an answer, what a resolution discovers is a least fixed point: whatever
is reached from the selection through missing keys. The order in which the choices are selected
decides who asks for a key first, and with that the order of everything else, but not what there is
to ask for. So one order comes to a closure just if the other does, since the keys of the one are
all that the other may have to ask about.

The two searches are compared by their ledgers: every demand that some search of the same choices
has before it has been seen by a search of them that is through.
-/

namespace AddonPicker

namespace Catalogue

/-- Versions are offered for the provider and the id that are asked for, whatever pin there is. -/
def IgnoresPins (c : Catalogue) : Prop :=
  ∀ provider (d d' : Dependency), d.addonId = d'.addonId →
    c.version provider d = c.version provider d'

variable {c : Catalogue}

/-- Demands of the same key get the same version. -/
theorem IgnoresPins.version_eq (free : c.IgnoresPins) (d d' : Demand) (same : d.key = d'.key) :
    c.version d.key.provider d.dependency = c.version d'.key.provider d'.dependency := by
  have id : d.dependency.addonId = d'.dependency.addonId := congrArg PackKey.addonId same
  rw [same]
  exact free _ _ _ id

theorem IgnoresPins.offers_eq (free : c.IgnoresPins) {q q' : Question} (same : q.key = q'.key) :
    c.offers q = c.offers q' := by
  have answer : c.version q.key.provider q.dependency =
      c.version q'.key.provider q'.dependency := free.version_eq q.demand q'.demand same
  rw [offers, answer, offers]

theorem IgnoresPins.declines_eq (free : c.IgnoresPins) {q q' : Question}
    (same : q.key = q'.key) : c.declines q = c.declines q' := by
  have answer : c.version q.key.provider q.dependency =
      c.version q'.key.provider q'.dependency := free.version_eq q.demand q'.demand same
  rw [declines, answer, declines]

theorem IgnoresPins.settles (free : c.IgnoresPins) {scope : Scope} {d d' : Demand}
    (same : d.key = d'.key) (settles : c.Settles scope d) : c.Settles scope d' where
  served := same ▸ settles.served
  packed := same ▸ settles.packed
  answered := by
    rw [← free.version_eq d d' same, ← same]
    exact settles.answered

/-- Two answers to questions that got the same version differ in the record of what requires the
version at most. -/
theorem Answers.eq_of_version {q q' : Question} {e e' : Discovery} (answers : c.Answers q e)
    (answers' : c.Answers q' e') (same : e.key = e'.key)
    (answer : c.version e.key.provider q.dependency = c.version e'.key.provider q'.dependency) :
    e'.choice.pack = e.choice.pack ∧
      e'.choice.version =
        { e.choice.version with requiredBy := e'.choice.version.requiredBy } := by
  obtain ⟨-, packed, v, offered, copy⟩ := answers
  obtain ⟨-, packed', v', offered', copy'⟩ := answers'
  rw [← same, packed] at packed'
  rw [answer, offered'] at offered
  obtain rfl : v' = v := by simpa using offered
  have version := congrArg (Held.withRequirers e'.choice.version.requiredBy) copy
  exact ⟨by simpa using packed'.symm, congrArg Held.version (copy'.trans version.symm)⟩

end Catalogue

/-- What a choice demands does not depend on what it is required by. -/
theorem Choice.demands_congr {n n' : Choice} (pack : n'.pack = n.pack) {ids : List AddonId}
    (version : n'.version = { n.version with requiredBy := ids }) : n'.demands = n.demands := by
  rw [demands, demands, pack, version]
  rfl

namespace Ledger

variable {c : Catalogue} {scope : Scope} {selected selected' : List Choice}
variable {asked asked' : List Question} {seen seen' ahead' : List Demand} {s s' : Search}

/-- Which keys are missing hangs on which choices are selected only. -/
theorem lacks_congr (members : ∀ n, n ∈ selected' ↔ n ∈ selected) :
    scope.lacks (selected'.map Choice.key) = scope.lacks (selected.map Choice.key) := by
  funext key
  have same : (selected'.map Choice.key).contains key = (selected.map Choice.key).contains key := by
    rw [Bool.eq_iff_iff, List.contains_iff_mem, List.contains_iff_mem, List.mem_map, List.mem_map]
    simp only [members]
  rw [Scope.lacks, same, Scope.lacks]

/-- A search has asked for what it discovered. -/
theorem mem_asked_of_found {ahead : List Demand}
    (l : Ledger c scope selected asked seen ahead s) {e : Discovery} (found : e ∈ s.found) :
    e.key ∈ asked.map Question.key :=
  l.mem_asked_iff_found_or_unavailable.mpr (.inl (List.mem_map_of_mem found))

/-- A discovery of one search is one of another search that has asked for its key. -/
theorem exists_twin (free : c.IgnoresPins) (l : Ledger c scope selected asked seen [] s)
    (l' : Ledger c scope selected' asked' seen' ahead' s') {e' : Discovery} (found : e' ∈ s'.found)
    (past : e'.key ∈ asked.map Question.key) :
    ∃ e ∈ s.found, e.key = e'.key ∧ e'.choice.pack = e.choice.pack ∧
      e'.choice.demands = e.choice.demands := by
  obtain ⟨q', -, answers'⟩ := l'.origin e' found
  obtain ⟨q, inside, same⟩ := List.mem_map.mp past
  have offered : c.offers q = true := by
    obtain ⟨key, -, v, offered, -⟩ := answers'
    rw [← key] at offered
    rw [free.offers_eq (same.trans key.symm)]
    exact (Catalogue.offers_of_version offered).1
  obtain ⟨e, discovered, key⟩ := List.mem_map.mp (l.mem_found_of_offers inside offered)
  obtain ⟨q₀, -, answers⟩ := l.origin e discovered
  have twin : e.key = e'.key := key.trans same
  have answer : c.version e.key.provider q₀.dependency =
      c.version e'.key.provider q'.dependency := by
    have demanded := free.version_eq q₀.demand q'.demand
      (answers.1.trans (twin.trans answers'.1.symm))
    rwa [Question.key_demand, Question.key_demand, answers.1, answers'.1] at demanded
  obtain ⟨pack, version⟩ := answers.eq_of_version answers' twin answer
  exact ⟨e, discovered, twin, pack, Choice.demands_congr pack version⟩

/-- A search that is through has seen every key that any search of the same choices reaches. -/
theorem mem_seen_of_reached (free : c.IgnoresPins) (members : ∀ n, n ∈ selected' ↔ n ∈ selected)
    (l : Ledger c scope selected asked seen [] s)
    (l' : Ledger c scope selected' asked' seen' ahead' s') {key : PackKey}
    (reached : Reached selected' s'.found key) : key ∈ seen.map Demand.key := by
  have all {d : Demand} (demanded : d ∈ selected.flatMap Choice.demands ++
      s.found.flatMap (·.choice.demands)) : d ∈ seen := by
    rwa [← l.demands, List.append_nil] at demanded
  induction reached with
  | direct chosen demanded =>
      have chosen := (members _).mp chosen
      exact List.mem_map_of_mem
        (all (List.mem_append_left _ (List.mem_flatMap.mpr ⟨_, chosen, demanded⟩)))
  | @through e' d discovered _ demanded ih =>
      have missing := (l'.mem_asked_iff.mp (l'.mem_asked_of_found discovered)).2
      rw [lacks_congr members] at missing
      have past := l.mem_asked_iff.mpr ⟨ih, missing⟩
      obtain ⟨e, found, -, -, demands⟩ := exists_twin free l l' discovered past
      rw [demands] at demanded
      exact List.mem_map_of_mem
        (all (List.mem_append_right _ (List.mem_flatMap.mpr ⟨e, found, demanded⟩)))

/-- So it has asked for every key that any of them has asked for. -/
theorem mem_asked_of_mem (free : c.IgnoresPins) (members : ∀ n, n ∈ selected' ↔ n ∈ selected)
    (l : Ledger c scope selected asked seen [] s)
    (l' : Ledger c scope selected' asked' seen' ahead' s') {key : PackKey}
    (past : key ∈ asked'.map Question.key) : key ∈ asked.map Question.key := by
  obtain ⟨occurred, missing⟩ := l'.mem_asked_iff.mp past
  obtain ⟨d, inside, rfl⟩ := List.mem_map.mp occurred
  have reached := l'.reached_of_mem (List.mem_append_left _ inside)
  rw [lacks_congr members] at missing
  exact l.mem_asked_iff.mpr ⟨mem_seen_of_reached free members l l' reached, missing⟩

/-- And it has seen every demand that any of them has seen or has before it. -/
theorem mem_seen_of_mem (free : c.IgnoresPins) (members : ∀ n, n ∈ selected' ↔ n ∈ selected)
    (l : Ledger c scope selected asked seen [] s)
    (l' : Ledger c scope selected' asked' seen' ahead' s') {d : Demand}
    (inside : d ∈ seen' ++ ahead') : d ∈ seen := by
  rw [← List.append_nil seen, l.demands, List.mem_append]
  rw [l'.demands, List.mem_append] at inside
  rcases inside with demanded | demanded
  · obtain ⟨n, chosen, demanded⟩ := List.mem_flatMap.mp demanded
    exact .inl (List.mem_flatMap.mpr ⟨n, (members n).mp chosen, demanded⟩)
  · obtain ⟨e', found, demanded⟩ := List.mem_flatMap.mp demanded
    have past := mem_asked_of_mem free members l l' (l'.mem_asked_of_found found)
    obtain ⟨e, discovered, -, -, demands⟩ := exists_twin free l l' found past
    rw [demands] at demanded
    exact .inr (List.mem_flatMap.mpr ⟨e, discovered, demanded⟩)

/-- What any of them discovers, the one that is through has discovered. -/
theorem found_subset (free : c.IgnoresPins) (members : ∀ n, n ∈ selected' ↔ n ∈ selected)
    (l : Ledger c scope selected asked seen [] s)
    (l' : Ledger c scope selected' asked' seen' ahead' s') :
    s'.found.map (fun e => (e.key, e.choice.pack)) ⊆
      s.found.map (fun e => (e.key, e.choice.pack)) := by
  intro pair inside
  obtain ⟨e', found, rfl⟩ := List.mem_map.mp inside
  have past := mem_asked_of_mem free members l l' (l'.mem_asked_of_found found)
  obtain ⟨e, discovered, key, pack, -⟩ := exists_twin free l l' found past
  exact List.mem_map.mpr ⟨e, discovered, Prod.ext key pack.symm⟩

/-- What is not available to any of them is not available to the one that is through. -/
theorem declined_subset (free : c.IgnoresPins) (members : ∀ n, n ∈ selected' ↔ n ∈ selected)
    (l : Ledger c scope selected asked seen [] s)
    (l' : Ledger c scope selected' asked' seen' ahead' s') :
    (asked'.filter c.declines).map Question.key ⊆ (asked.filter c.declines).map Question.key := by
  intro key inside
  obtain ⟨q', declining, rfl⟩ := List.mem_map.mp inside
  obtain ⟨past, declined⟩ := List.mem_filter.mp declining
  obtain ⟨q, asked, same⟩ :=
    List.mem_map.mp (mem_asked_of_mem free members l l' (List.mem_map_of_mem past))
  rw [← free.declines_eq same] at declined
  exact List.mem_map.mpr ⟨q, List.mem_filter.mpr ⟨asked, declined⟩, same⟩

/-- What is recorded to require a discovery of any of them is recorded by the one that is
through. -/
theorem requiredBy_subset (free : c.IgnoresPins) (members : ∀ n, n ∈ selected' ↔ n ∈ selected)
    (l : Ledger c scope selected asked seen [] s)
    (l' : Ledger c scope selected' asked' seen' ahead' s') {e e' : Discovery}
    (found : e ∈ s.found) (found' : e' ∈ s'.found) (same : e.key = e'.key) :
    e'.choice.version.requiredBy ⊆ e.choice.version.requiredBy := by
  intro id recorded
  rw [l'.backlinks e' found', List.mem_eraseDups] at recorded
  rw [l.backlinks e found, List.mem_eraseDups]
  obtain ⟨d, demanding, rfl⟩ := List.mem_map.mp recorded
  obtain ⟨inside, key⟩ := List.mem_filter.mp demanding
  have occurred := mem_seen_of_mem free members l l' (List.mem_append_left _ inside)
  exact List.mem_map_of_mem (List.mem_filter.mpr ⟨occurred, same ▸ key⟩)

/-- No discovery is recorded to be required by a pack twice. -/
theorem nodup_requiredBy {ahead : List Demand} (l : Ledger c scope selected asked seen ahead s)
    {e : Discovery} (found : e ∈ s.found) : e.choice.version.requiredBy.Nodup := by
  rw [l.backlinks e found]
  exact nodup_eraseDups _

end Ledger

namespace Resolution

variable (c : Catalogue)

/-- A closure tells what was discovered and what was not: it has the discovered choices, each under
a key of its own, and one warning for each key that no version was there for. -/
structure Reports (scope : Scope) (r : Resolution) (closure : Closure) : Prop where
  keyed : (r.discoveries c closure).map (·.choice) = closure.dependencies
  distinct : ((r.discoveries c closure).map Discovery.key).Nodup
  declinedOnce : (r.declinedKeys c).Nodup
  warned : closure.warnings.map .ok = c.warnings scope r.questions

/-- Two resolutions came to the same, up to the order of things. -/
structure SameUpToOrder (r r' : Resolution) (closure closure' : Closure) : Prop where
  /-- The same keys were discovered, with the same packs. -/
  packs : ((r.discoveries c closure).map fun e => (e.key, e.choice.pack)).Perm
    ((r'.discoveries c closure').map fun e => (e.key, e.choice.pack))
  /-- The same keys were not available. -/
  unavailable : (r.declinedKeys c).Perm (r'.declinedKeys c)
  /-- A discovered version is required by the same packs. -/
  requirers : ∀ e ∈ r.discoveries c closure, ∀ e' ∈ r'.discoveries c closure', e.key = e'.key →
    e.choice.version.requiredBy.Perm e'.choice.version.requiredBy

end Resolution

namespace Catalogue

variable {c : Catalogue} {scope : Scope} {selected selected' : List Choice}
variable {fuel fuel' : Nat} {closure closure' : Closure}

theorem reports_of_resolve (ended : (c.resolve scope fuel selected).outcome = some (.ok closure)) :
    (c.resolve scope fuel selected).Reports c scope closure := by
  obtain ⟨seen, s, l, rfl⟩ := ledger_of_resolve ended
  exact ⟨l.isClosure.keyed, l.isClosure.distinct, l.nodup_declined, warnings_of_resolve ended⟩

/-- A resolution that came to a closure carries every other one of the same choices. -/
theorem IgnoresPins.carries (free : c.IgnoresPins) (members : ∀ n, n ∈ selected' ↔ n ∈ selected)
    (ended : (c.resolve scope fuel selected).outcome = some (.ok closure)) :
    c.Carries scope selected' (c.resolve scope fuel selected).keys := by
  obtain ⟨seen, s, l, -⟩ := ledger_of_resolve ended
  intro asked' seen' d ahead' s' l' unknown
  have occurred := l.mem_seen_of_mem free members l' (List.mem_append_right _ List.mem_cons_self)
  have missing := (l'.not_seen_of_unknown unknown).1
  rw [Ledger.lacks_congr members] at missing
  have past := l.mem_asked_iff.mpr ⟨List.mem_map_of_mem occurred, missing⟩
  obtain ⟨q, inside, same⟩ := List.mem_map.mp past
  have same : q.demand.key = d.key := same
  exact ⟨free.settles same (settles_of_resolve ended q inside), past⟩

theorem IgnoresPins.sameUpToOrder (free : c.IgnoresPins)
    (members : ∀ n, n ∈ selected' ↔ n ∈ selected)
    (ended : (c.resolve scope fuel selected).outcome = some (.ok closure))
    (ended' : (c.resolve scope fuel' selected').outcome = some (.ok closure')) :
    Resolution.SameUpToOrder c (c.resolve scope fuel selected) (c.resolve scope fuel' selected')
      closure closure' := by
  obtain ⟨seen, s, l, rfl⟩ := ledger_of_resolve ended
  obtain ⟨seen', s', l', rfl⟩ := ledger_of_resolve ended'
  have members' (n : Choice) : n ∈ selected ↔ n ∈ selected' := (members n).symm
  have pairwise {found : List Discovery} (distinct : (found.map Discovery.key).Nodup) :
      (found.map fun e => (e.key, e.choice.pack)).Nodup := by
    refine .of_map Prod.fst ?_
    rwa [List.map_map]
  constructor
  · rw [l.discoveries_eq, l'.discoveries_eq]
    exact ((pairwise l.nodup_found).subperm (l'.found_subset free members' l)).antisymm
      ((pairwise l'.nodup_found).subperm (l.found_subset free members l'))
  · exact (l.nodup_declined.subperm (l'.declined_subset free members' l)).antisymm
      (l'.nodup_declined.subperm (l.declined_subset free members l'))
  · rw [l.discoveries_eq, l'.discoveries_eq]
    intro e found e' found' same
    exact ((l.nodup_requiredBy found).subperm
        (l'.requiredBy_subset free members' l found' found same.symm)).antisymm
      ((l'.nodup_requiredBy found').subperm (l.requiredBy_subset free members l' found found' same))

/-- Where a pin has no part in an answer, the order in which choices are selected has none in what
their resolution comes to: it comes to a closure in one order just if it does in the other, and
what is discovered, what is not available and what requires what are the same. -/
theorem resolve_perm (free : c.IgnoresPins) (perm : selected.Perm selected') :
    ((∃ fuel closure, (c.resolve scope fuel selected).outcome = some (.ok closure)) ↔
        ∃ fuel closure, (c.resolve scope fuel selected').outcome = some (.ok closure)) ∧
      ∀ fuel fuel' closure closure',
        (c.resolve scope fuel selected).outcome = some (.ok closure) →
        (c.resolve scope fuel' selected').outcome = some (.ok closure') →
          (c.resolve scope fuel selected).Reports c scope closure ∧
            (c.resolve scope fuel' selected').Reports c scope closure' ∧
            Resolution.SameUpToOrder c (c.resolve scope fuel selected)
              (c.resolve scope fuel' selected') closure closure' := by
  have members (n : Choice) : n ∈ selected' ↔ n ∈ selected := perm.symm.mem_iff
  refine ⟨⟨?_, ?_⟩, ?_⟩
  · rintro ⟨fuel, closure, ended⟩
    exact ⟨_, (free.carries members ended).exists_closure (Nat.le_refl _)⟩
  · rintro ⟨fuel, closure, ended⟩
    exact ⟨_, (free.carries (fun n => (members n).symm) ended).exists_closure (Nat.le_refl _)⟩
  · intro fuel fuel' closure closure' ended ended'
    exact ⟨reports_of_resolve ended, reports_of_resolve ended',
      free.sameUpToOrder members ended ended'⟩

end Catalogue

/-- A part of the ring and a part from outside of it, both of which ask for parts of the ring. -/
def ringPair : List Choice :=
  [{ pack := ringPack 0, version := ringVersion 0 },
    { pack := ringPack 4, version := ringVersion 4 }]

/-- What the ring comes to for the pair. -/
def ringPairClosure : Closure where
  dependencies :=
    [{ pack := ringPack 1, version := { ringVersion 1 with requiredBy := [.number 0, .number 1] } },
      { pack := ringPack 2
        version := { ringVersion 2 with requiredBy := [.number 4, .number 1, .number 2] } }]
  warnings := ["No compatible version of Part found for Part on Modrinth"]

/-- What it comes to when the pair is selected the other way round. -/
def ringPairReversedClosure : Closure where
  dependencies :=
    [{ pack := ringPack 2
       version := { ringVersion 2 with requiredBy := [.number 4, .number 2, .number 1] } },
      { pack := ringPack 1, version := { ringVersion 1 with requiredBy := [.number 0, .number 1] } }]
  warnings := ["No compatible version of Part found for Part on Modrinth"]

/-- The two orders of a pair lead to different lists, and to the same up to that. -/
theorem resolve_perm_ringPair :
    (ring.IgnoresPins ∧ ringPair.Perm ringPair.reverse) ∧
      (ring.resolve ringScope 3 ringPair).outcome = some (.ok ringPairClosure) ∧
      (ring.resolve ringScope 3 ringPair.reverse).outcome = some (.ok ringPairReversedClosure) ∧
      Resolution.SameUpToOrder ring (ring.resolve ringScope 3 ringPair)
        (ring.resolve ringScope 3 ringPair.reverse) ringPairClosure ringPairReversedClosure := by
  have free : ring.IgnoresPins := by
    intro provider d d' same
    simp only [ring, same]
  have perm : ringPair.Perm ringPair.reverse := (List.reverse_perm ringPair).symm
  have ended : (ring.resolve ringScope 3 ringPair).outcome = some (.ok ringPairClosure) := rfl
  have ended' : (ring.resolve ringScope 3 ringPair.reverse).outcome =
      some (.ok ringPairReversedClosure) := rfl
  exact ⟨⟨free, perm⟩, ended, ended',
    ((Catalogue.resolve_perm free perm).2 3 3 _ _ ended ended').2.2⟩

end AddonPicker
