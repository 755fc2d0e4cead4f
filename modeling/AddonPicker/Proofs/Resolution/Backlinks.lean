import AddonPicker.Proofs.Resolution.Closure

/-!
# What a discovered version is required by

A resolution records with every discovered version the packs that require it. The record is made
in two places, when a version is discovered and whenever its key is met again, and it comes out as
if it had been read off at the end: go through the selected choices and then through the discovered
ones in the order of discovery, and write down the id of each pack whose version requires the key,
unless it is written down already.
-/

namespace AddonPicker

namespace Choice

/-- Whether the version of a choice declares a key as a required dependency. -/
def requires (key : PackKey) (c : Choice) : Bool :=
  c.pack.provider == key.provider &&
    c.version.requiredDependencies.any (·.addonId == key.addonId)

/-- A choice is written down once for every declaration of a key. -/
theorem requirers_demands (key : PackKey) (c : Choice) :
    ∃ n, Demand.requirers key c.demands = List.replicate n c.pack.addonId ∧
      (c.requires key = true ↔ n ≠ 0) := by
  have ids : ∀ id ∈ Demand.requirers key c.demands, id = c.pack.addonId := by
    intro id inside
    obtain ⟨d, kept, rfl⟩ := List.mem_map.mp inside
    obtain ⟨declared, -, rfl⟩ := List.mem_map.mp (List.mem_filter.mp kept).1
    rfl
  refine ⟨_, List.eq_replicate_of_mem ids, ?_⟩
  rw [ne_eq, List.length_eq_zero_iff, Demand.requirers, List.map_eq_nil_iff,
    List.filter_eq_nil_iff]
  constructor
  · intro required nobody
    rw [requires, Bool.and_eq_true, List.any_eq_true] at required
    obtain ⟨provider, d, declared, id⟩ := required
    refine nobody ⟨c.pack, d⟩ (List.mem_map_of_mem declared) ?_
    rw [beq_iff_eq] at provider id ⊢
    rw [Demand.key, PackKey.ofDependency, provider, id]
  · intro somebody
    by_contra unrequired
    refine somebody fun d demanded same => unrequired ?_
    obtain ⟨declared, inside, rfl⟩ := List.mem_map.mp demanded
    rw [← eq_of_beq same, requires, Bool.and_eq_true, List.any_eq_true]
    exact ⟨beq_self_eq_true _, declared, inside, beq_self_eq_true _⟩

end Choice

namespace Demand

/-- The packs that demand a key are those of the choices that require it, up to repetitions. -/
theorem eraseDups_requirers_flatMap (key : PackKey) (ns : List Choice) :
    (requirers key (ns.flatMap Choice.demands)).eraseDups =
      ((ns.filter (·.requires key)).map (·.pack.addonId)).eraseDups := by
  induction ns using List.reverseRecOn with
  | nil => rfl
  | append_singleton ns n ih =>
      obtain ⟨count, written, required⟩ := n.requirers_demands key
      rw [List.flatMap_append, List.flatMap_singleton, requirers_append, written,
        List.filter_append, List.map_append]
      cases count with
      | zero =>
          have unrequired : ¬n.requires key = true := fun yes => required.mp yes rfl
          rw [List.replicate_zero, List.append_nil, List.filter_cons_of_neg unrequired,
            List.filter_nil, List.map_nil, List.append_nil]
          exact ih
      | succ count =>
          have yes : n.requires key = true := required.mpr (Nat.succ_ne_zero count)
          rw [eraseDups_append_replicate, List.filter_cons_of_pos yes, List.filter_nil,
            List.map_singleton]
          exact eraseDups_concat_congr ih _

end Demand

/-- With nothing ahead, the record of a discovery names the choices that require its key. -/
theorem Ledger.backlinks_of_nil {c : Catalogue} {scope : Scope} {selected : List Choice}
    {asked : List Question} {seen : List Demand} {s : Search}
    (l : Ledger c scope selected asked seen [] s) {e : Discovery} (found : e ∈ s.found) :
    e.choice.version.requiredBy =
      (((selected ++ s.closure.dependencies).filter (·.requires e.key)).map
        (·.pack.addonId)).eraseDups := by
  rw [l.backlinks e found, l.seen_eq, Demand.eraseDups_requirers_flatMap]

/-- The packs that a discovered version is recorded to be required by are exactly those whose
version requires its key: in the order of the selection and then of discovery, each once, and
whatever record the version was offered with. -/
theorem Catalogue.requiredBy_of_resolve {c : Catalogue} {scope : Scope} {selected : List Choice}
    {fuel : Nat} {closure : Closure}
    (ended : (c.resolve scope fuel selected).outcome = some (.ok closure)) :
    ((c.resolve scope fuel selected).discoveries c closure).map (·.choice) =
        closure.dependencies ∧
      ∀ e ∈ (c.resolve scope fuel selected).discoveries c closure,
        e.choice.version.requiredBy =
          (((selected ++ closure.dependencies).filter (·.requires e.key)).map
            (·.pack.addonId)).eraseDups := by
  obtain ⟨seen, s, l, rfl⟩ := ledger_of_resolve ended
  refine ⟨l.isClosure.keyed, fun e inside => ?_⟩
  rw [l.discoveries_eq] at inside
  exact l.backlinks_of_nil inside

/-- In the ring, every part is required by the one before it and by itself. -/
theorem requiredBy_of_resolve_ring :
    (ring.resolve ringScope 3 ringSelection).outcome = some (.ok ringClosure) ∧
      ∀ e ∈ (ring.resolve ringScope 3 ringSelection).discoveries ring ringClosure,
        e.choice.version.requiredBy =
          (((ringSelection ++ ringClosure.dependencies).filter (·.requires e.key)).map
            (·.pack.addonId)).eraseDups := by
  have ended : (ring.resolve ringScope 3 ringSelection).outcome = some (.ok ringClosure) := rfl
  exact ⟨ended, (Catalogue.requiredBy_of_resolve ended).2⟩

end AddonPicker
