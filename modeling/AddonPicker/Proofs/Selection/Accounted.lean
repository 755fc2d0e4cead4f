import AddonPicker.Proofs.Resolution.Warnings
import AddonPicker.Proofs.Resolution.Closure
import AddonPicker.Proofs.Selection.Recording

/-!
# What becomes of required dependencies

A resolution tells packs apart by provider and id, a registry by display name. So when the closure
of a selection is merged into it, a required dependency can be lost on the way: a resolved choice
takes the name over from a pick of the user, or from a choice that was resolved before it. Nothing
else is lost. A required dependency is installed, or selected, or its name was taken over in the
merge, or no version of it fits, of which the resolution has warned.
-/

namespace AddonPicker

/-- No version fits a key, and there is a warning of that. -/
def Catalogue.Warns (c : Catalogue) (scope : Scope) (warnings : List String) (key : PackKey) :
    Prop :=
  ∃ q : Question, q.key = key ∧ c.version q.key.provider q.dependency = .ok none ∧
    ∃ w ∈ warnings, c.warning scope q = .ok w

namespace Selection

/-- The pack with a key is selected. -/
def Holds (s : Selection) (key : PackKey) : Prop :=
  ∃ e ∈ s.entries, PackKey.ofPack e.pack = key

/-- Every dependency that an entry requires is installed, or selected, or excused. -/
def AccountsFor (s : Selection) (e : Entry) (isInstalled : AddonId → Bool)
    (excused : PackKey → Prop) : Prop :=
  ∃ v, s.store.get? e.version = some v ∧
    ∀ d ∈ v.base.requiredDependencies, isInstalled d.addonId = true ∨
      s.Holds (.ofDependency e.pack d) ∨ excused (.ofDependency e.pack d)

/-- What is neither installed nor selected is not accounted for unless it is excused. -/
theorem not_accountsFor {s : Selection} {e : Entry} {isInstalled : AddonId → Bool}
    {excused : PackKey → Prop} {ids : List AddonId} {id : AddonId}
    (requires : (s.store.get? e.version).map (fun v =>
      v.base.requiredDependencies.map Dependency.addonId) = some ids) (among : id ∈ ids)
    (uninstalled : isInstalled id = false) (unselected : ¬ s.Holds ⟨e.pack.provider, id⟩)
    (unexcused : ¬ excused ⟨e.pack.provider, id⟩) : ¬ s.AccountsFor e isInstalled excused := by
  rintro ⟨v, stored, accounted⟩
  rw [stored] at requires
  obtain rfl := Option.some.inj requires
  obtain ⟨d, required, rfl⟩ := List.mem_map.mp among
  rcases accounted d required with installed | selected | because
  · exact absurd installed (uninstalled ▸ Bool.false_ne_true)
  · exact unselected selected
  · exact unexcused because

/-- A pack of an entry or of a choice. -/
def Brings (s : Selection) (cs : List Choice) (pack : Pack) : Prop :=
  (∃ e ∈ s.entries, e.pack = pack) ∨ ∃ c ∈ cs, c.pack = pack

/-- A pack with a key had a name that one of the choices has now, which has another key. -/
def Displaces (s : Selection) (cs : List Choice) (s' : Selection) (key : PackKey) : Prop :=
  ∃ pack, s.Brings cs pack ∧ PackKey.ofPack pack = key ∧
    ∃ e ∈ s'.entries, e.pack.name = pack.name ∧ PackKey.ofPack e.pack ≠ key ∧
      ∃ c ∈ cs, c.pack = e.pack

/-- A pack whose name is taken over was among the entries or the choices. -/
theorem Displaces.mem_keys {s s' : Selection} {cs : List Choice} {key : PackKey}
    (displaces : s.Displaces cs s' key) :
    key ∈ (s.entries.map fun e => PackKey.ofPack e.pack) ++ cs.map Choice.key := by
  obtain ⟨pack, ⟨e, known, rfl⟩ | ⟨c, carried, rfl⟩, rfl, -⟩ := displaces
  · exact List.mem_append_left _ (List.mem_map.mpr ⟨e, known, rfl⟩)
  · exact List.mem_append_right _ (List.mem_map.mpr ⟨c, carried, rfl⟩)

/-- A pack with a key was among some choices, and is not selected any more. -/
def HasLost (s : Selection) (cs : List Choice) (key : PackKey) : Prop :=
  key ∈ cs.map Choice.key ∧ ¬ s.Holds key

variable {s s' : Selection} {cs selected : List Choice}

/-- A pack that takes part in a merge is selected after it, unless its name is taken over. -/
theorem Arranged.holds_or_displaces (arranged : s.Arranged cs s') (nodup : s.names.Nodup)
    {pack : Pack} (brought : s.Brings cs pack) :
    s'.Holds (.ofPack pack) ∨ s.Displaces cs s' (.ofPack pack) := by
  have had : pack.name ∈ s.names ∨ pack.name ∈ Choice.names cs := by
    rcases brought with ⟨e, known, rfl⟩ | ⟨c, carried, rfl⟩
    · exact .inl (List.mem_map_of_mem known)
    · exact .inr (List.mem_map_of_mem carried)
  obtain ⟨e, stands, name⟩ := arranged.exists_entry had
  by_cases same : PackKey.ofPack e.pack = .ofPack pack
  · exact .inl ⟨e, stands, same⟩
  refine .inr ⟨pack, brought, rfl, e, stands, name, same, ?_⟩
  rcases (arranged.entries e).mp stands with ⟨old, uncarried⟩ | ⟨before, c, later, split, -, rfl⟩
  · -- The name is nobody's but that of the pack itself.
    rcases brought with ⟨e', known, rfl⟩ | ⟨c, carried, rfl⟩
    · rw [List.inj_on_of_nodup_map nodup old known name] at same
      exact absurd rfl same
    · rw [name] at uncarried
      exact absurd (List.mem_map_of_mem carried) uncarried
  · exact ⟨c, split ▸ List.mem_append_right before List.mem_cons_self, rfl⟩

/-- The choices of a selection are its entries with the versions that it holds. -/
def choices (s : Selection) : List Choice :=
  s.entries.filterMap fun e => (s.store.get? e.version).map fun v =>
    { pack := e.pack, version := v.base, shared := some e.version }

theorem mem_choices {n : Choice} :
    n ∈ s.choices ↔ ∃ e ∈ s.entries, ∃ v, s.store.get? e.version = some v ∧
      ({ pack := e.pack, version := v.base, shared := some e.version } : Choice) = n := by
  simp [choices]

variable {c : Catalogue} {scope : Scope} {closure : Closure}

/-- When the closure of some choices is merged into a selection, what an entry requires that took
part in the resolution is lost only where a name is taken over, or where what was chosen is not
selected any more. What does not fit is warned of. -/
theorem accountsFor_takenInAll (nodup : s.names.Nodup) (apart : s.IsApart closure.dependencies)
    (truthful : c.IsTruthful) {fuel : Nat}
    (ended : (c.resolve scope fuel selected).outcome = some (.ok closure)) {e : Entry} {n : Choice}
    (part : n ∈ selected ++ closure.dependencies) (own : n.pack = e.pack)
    (declares : (s.takenInAll closure.dependencies).store.HasAt e.version
      (·.base.requiredDependencies = n.version.requiredDependencies)) :
    (s.takenInAll closure.dependencies).AccountsFor e scope.isInstalled fun key =>
      c.Warns scope closure.warnings key ∨
        s.Displaces closure.dependencies (s.takenInAll closure.dependencies) key ∨
          s.HasLost selected key := by
  have arranged := arranged_takenInAll apart
  have isClosure : (c.resolve scope fuel selected).IsClosure c scope selected closure := by
    obtain ⟨seen, search, ledger, rfl⟩ := Catalogue.ledger_of_resolve ended
    exact ledger.isClosure
  obtain ⟨v, stored, requires⟩ := declares
  refine ⟨v, stored, fun d required => ?_⟩
  rw [requires] at required
  rw [← own]
  rcases isClosure.closed n part d required with installed | chosen | found | warned
  · exact .inl installed
  · refine .inr ?_
    by_cases holds : s.Holds (.ofDependency n.pack d)
    · obtain ⟨e', known, key⟩ := holds
      have merged := arranged.holds_or_displaces nodup (.inl ⟨e', known, rfl⟩)
      rw [key] at merged
      exact merged.imp_right fun displaced => .inr (.inl displaced)
    · exact .inr (.inr (.inr ⟨chosen, holds⟩))
  · obtain ⟨e', among, key⟩ := List.mem_map.mp found
    obtain ⟨-, -, ⟨q, -, -, looked, -⟩, -⟩ := isClosure.sound e' among
    have carried : e'.choice ∈ closure.dependencies := by
      rw [← isClosure.keyed]
      exact List.mem_map_of_mem among
    have merged := arranged.holds_or_displaces nodup (.inr ⟨e'.choice, carried, rfl⟩)
    rw [truthful _ _ _ looked, key] at merged
    exact .inr (merged.imp_right fun displaced => .inr (.inl displaced))
  · obtain ⟨q, asked, same, declined⟩ := warned
    refine .inr (.inr (.inl ⟨q, same, declined, ?_⟩))
    have about : c.warning scope q ∈ c.warnings scope (c.resolve scope fuel selected).questions :=
      List.mem_map_of_mem (List.mem_filter.mpr ⟨asked, (Catalogue.declines_of_version declined).2⟩)
    rw [← Catalogue.warnings_of_resolve ended] at about
    obtain ⟨w, warned, worded⟩ := List.mem_map.mp about
    exact ⟨w, warned, worded.symm⟩

end Selection

end AddonPicker
