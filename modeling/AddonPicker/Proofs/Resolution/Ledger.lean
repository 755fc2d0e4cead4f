import AddonPicker.Proofs.Resolution.Demand
import AddonPicker.Proofs.Resolution.FirstOccurrence

/-!
# The ledger of a search

What a search against catalogues knows, told through two lists: the questions asked so far and the
demands seen so far. Seen demands and those still ahead are together the demands of all choices, of
the selected ones first and then of the discovered ones in the order of discovery. This equation
stands still while the search goes on: a demand moves from one side to the other, and a discovered
choice adds its demands on both sides of the equation.

At the end nothing is ahead, so the seen demands are all there are. Everything that is said of the
result of a search follows from that and from what the ledger says of seen demands.
-/

namespace AddonPicker

namespace Scope

/-- Whether a key has to be looked for: it is neither selected nor installed. -/
def lacks (scope : Scope) (selected : List PackKey) (key : PackKey) : Bool :=
  !selected.contains key && !scope.isInstalled key.addonId

theorem lacks_iff {scope : Scope} {selected : List PackKey} {key : PackKey} :
    scope.lacks selected key = true ↔
      key ∉ selected ∧ scope.isInstalled key.addonId = false := by
  simp [lacks]

end Scope

namespace Choice

/-- The key of a choice, which is that of its pack. -/
def key (c : Choice) : PackKey :=
  .ofPack c.pack

end Choice

namespace Demand

/-- The ids of the packs that demand a key, in the order of demands. -/
def requirers (key : PackKey) (ds : List Demand) : List AddonId :=
  (ds.filter (·.key == key)).map (·.requirer.addonId)

theorem requirers_append (key : PackKey) (ds es : List Demand) :
    requirers key (ds ++ es) = requirers key ds ++ requirers key es := by
  simp [requirers]

theorem requirers_singleton_self (d : Demand) : requirers d.key [d] = [d.requirer.addonId] := by
  simp [requirers]

/-- The first demand of a key. -/
def first? (key : PackKey) (ds : List Demand) : Option Demand :=
  ds.find? (·.key == key)

/-- What was first stays first. -/
theorem first?_append {key : PackKey} {ds : List Demand} {d : Demand}
    (first : first? key ds = some d) (es : List Demand) : first? key (ds ++ es) = some d := by
  rw [first?, List.find?_append, ← first?, first]
  rfl

/-- A demand of a key that was not demanded before is the first. -/
theorem first?_append_cons {d : Demand} {ds : List Demand} (unseen : d.key ∉ ds.map Demand.key)
    (es : List Demand) : first? d.key (ds ++ d :: es) = some d := by
  have none_ : ds.find? (·.key == d.key) = none := by
    rw [List.find?_eq_none]
    intro e among same
    exact unseen (List.mem_map.mpr ⟨e, among, eq_of_beq same⟩)
  have own : (d.key == d.key) = true := beq_self_eq_true _
  rw [first?, List.find?_append, none_, List.find?_cons, own]
  rfl

theorem requirers_singleton_of_ne {key : PackKey} {d : Demand} (other : d.key ≠ key) :
    requirers key [d] = [] := by
  simp [requirers, other]

end Demand

namespace Version

theorem requiredBy_link (id : AddonId) (v : Version) :
    (v.link id).requiredBy =
      if v.requiredBy.contains id then v.requiredBy else v.requiredBy ++ [id] := by
  rw [link]
  split <;> rfl

/-- Recording what requires a version changes nothing else about it. -/
theorem link_eq (id : AddonId) (v : Version) :
    v.link id = { v with requiredBy := (v.link id).requiredBy } := by
  rw [link]
  split <;> rfl

/-- Recording one more pack keeps a list of first occurrences one. -/
theorem requiredBy_link_of_eraseDups {v : Version} {ids : List AddonId}
    (before : v.requiredBy = ids.eraseDups) (id : AddonId) :
    (v.link id).requiredBy = (ids ++ [id]).eraseDups := by
  have same : v.requiredBy.contains id = ids.contains id := by
    rw [before, Bool.eq_iff_iff]
    simp [List.mem_eraseDups]
  rw [requiredBy_link, same, eraseDups_concat, before]

end Version

namespace Held

/-- A held version that is recorded to be required by certain packs. -/
def withRequirers (ids : List AddonId) (h : Held) : Held :=
  { h with version := { h.version with requiredBy := ids } }

/-- Recording what requires a version changes nothing else about it, and nobody else comes to hold
it. -/
theorem link_eq (id : AddonId) (h : Held) :
    h.link id = h.withRequirers (h.version.link id).requiredBy :=
  congrArg (Held.mk · h.shared) (h.version.link_eq id)

end Held

namespace Catalogue

/-- Whether a question is answered with a version. -/
def offers (c : Catalogue) (q : Question) : Bool :=
  match c.version q.key.provider q.dependency with
  | .ok (some _) => true
  | _ => false

/-- Whether a question is answered with the statement that no version fits. -/
def declines (c : Catalogue) (q : Question) : Bool :=
  match c.version q.key.provider q.dependency with
  | .ok none => true
  | _ => false

/-- A discovery answers a question: its pack is the one that was looked up, and its version is a
copy of the one that was offered, up to the record of what requires it. Nobody else holds it. -/
def Answers (c : Catalogue) (q : Question) (e : Discovery) : Prop :=
  q.key = e.key ∧ c.pack e.key.provider e.key.addonId = .ok (some e.choice.pack) ∧
    ∃ v, c.version e.key.provider q.dependency = .ok (some v) ∧
      e.choice.toHeld = v.detached.withRequirers e.choice.version.requiredBy

/-- Catalogues that answer the lookup of a pack with the pack that was asked for. -/
def IsTruthful (c : Catalogue) : Prop :=
  ∀ provider id pack, c.pack provider id = .ok (some pack) → PackKey.ofPack pack = ⟨provider, id⟩

variable {c : Catalogue}

/-- What requires a discovery has no part in the answer it is. -/
theorem Answers.link {q : Question} {e : Discovery} (answered : c.Answers q e) (id : AddonId) :
    c.Answers q (e.link id) := by
  obtain ⟨key, pack, v, offered, copy⟩ := answered
  refine ⟨key, pack, v, offered, ?_⟩
  have linked := congrArg (Held.withRequirers (e.choice.version.link id).requiredBy) copy
  exact (Held.link_eq id e.choice.toHeld).trans linked

theorem offers_of_version {q : Question} {v : Held}
    (answer : c.version q.key.provider q.dependency = .ok (some v)) :
    c.offers q = true ∧ c.declines q = false := by
  simp [offers, declines, answer]

theorem version_of_declines {q : Question} (declined : c.declines q = true) :
    c.version q.key.provider q.dependency = .ok none := by
  rw [declines] at declined
  split at declined
  · assumption
  · exact absurd declined Bool.false_ne_true

theorem declines_of_version {q : Question}
    (answer : c.version q.key.provider q.dependency = .ok none) :
    c.offers q = false ∧ c.declines q = true := by
  simp [offers, declines, answer]

end Catalogue

/-- A key that is reached from selected choices by a chain of demands. Every choice on the way but
the first is a discovered one. -/
inductive Reached (selected : List Choice) (found : List Discovery) : PackKey → Prop
  | direct {n : Choice} {d : Demand} (chosen : n ∈ selected) (demanded : d ∈ n.demands) :
      Reached selected found d.key
  | through {e : Discovery} {d : Demand} (discovered : e ∈ found)
      (before : Reached selected found e.key) (demanded : d ∈ e.choice.demands) :
      Reached selected found d.key

/-- Chains of demands go on through discoveries with the same keys and demands. -/
theorem Reached.mono {selected : List Choice} {found more : List Discovery} {key : PackKey}
    (kept : ∀ e ∈ found, ∃ e' ∈ more, e'.key = e.key ∧ e'.choice.demands = e.choice.demands)
    (reached : Reached selected found key) : Reached selected more key := by
  induction reached with
  | direct chosen demanded => exact .direct chosen demanded
  | through discovered _ demanded ih =>
      obtain ⟨e', inside, sameKey, sameDemands⟩ := kept _ discovered
      exact .through inside (sameKey ▸ ih) (sameDemands ▸ demanded)

namespace Search

theorem hasFound_iff {s : Search} {key : PackKey} :
    s.hasFound key = true ↔ key ∈ s.found.map Discovery.key := by
  simp [hasFound]

@[simp] theorem selected_pass (d : Demand) (s : Search) : (s.pass d).selected = s.selected := by
  rw [pass]
  split <;> rfl

@[simp] theorem unavailable_pass (d : Demand) (s : Search) :
    (s.pass d).unavailable = s.unavailable := by
  rw [pass]
  split <;> rfl

/-- Passing a demand records its requirer with the discovery of its key and does nothing else. -/
theorem found_pass (d : Demand) (s : Search) :
    (s.pass d).found =
      s.found.map fun e => if e.key = d.key then e.link d.requirer.addonId else e := by
  rw [pass]
  split
  · rfl
  · rename_i absent
    have others : ∀ e ∈ s.found, (if e.key = d.key then e.link d.requirer.addonId else e) = e := by
      intro e inside
      refine if_neg fun same => absent (hasFound_iff.mpr ?_)
      exact same ▸ List.mem_map_of_mem inside
    exact ((List.map_congr_left others).trans (List.map_id _)).symm

@[simp] theorem keys_found_pass (d : Demand) (s : Search) :
    (s.pass d).found.map Discovery.key = s.found.map Discovery.key := by
  have same (e : Discovery) :
      (if e.key = d.key then e.link d.requirer.addonId else e).key = e.key := by
    split <;> rfl
  simp [found_pass, Function.comp_def, same]

@[simp] theorem demands_found_pass (d : Demand) (s : Search) :
    (s.pass d).found.flatMap (·.choice.demands) = s.found.flatMap (·.choice.demands) := by
  have same (e : Discovery) :
      (if e.key = d.key then e.link d.requirer.addonId else e).choice.demands =
        e.choice.demands := by
    split <;> simp
  simp [found_pass, List.flatMap_map, same]

end Search

/-- What is recorded of a search that is on its way. -/
structure Ledger (c : Catalogue) (scope : Scope) (selected : List Choice) (asked : List Question)
    (seen ahead : List Demand) (s : Search) : Prop where
  selected_eq : s.selected = selected.map Choice.key
  /-- The demands seen and ahead are those of all choices, in the order of the queue. -/
  demands : seen ++ ahead =
    selected.flatMap Choice.demands ++ s.found.flatMap (·.choice.demands)
  /-- The keys that were asked for are the missing ones among those seen, each once. -/
  keys : asked.map Question.key =
    ((seen.map Demand.key).filter (scope.lacks (selected.map Choice.key))).eraseDups
  /-- A key was asked for with the first demand of it. -/
  first : ∀ q ∈ asked, Demand.first? q.key seen = some q.demand
  /-- Every answer was either a version or the statement that none fits. -/
  answered : ∀ q ∈ asked, c.declines q = !c.offers q
  found : s.found.map Discovery.key = (asked.filter c.offers).map Question.key
  unavailable : s.unavailable = (asked.filter c.declines).map Question.key
  origin : ∀ e ∈ s.found, ∃ q ∈ asked, c.Answers q e
  /-- The backlinks of a discovery are the packs seen to demand its key. -/
  backlinks : ∀ e ∈ s.found, e.choice.version.requiredBy = (Demand.requirers e.key seen).eraseDups
  reached : ∀ e ∈ s.found, Reached selected s.found e.key

namespace Ledger

variable {c : Catalogue} {scope : Scope} {selected : List Choice} {asked : List Question}
variable {seen ahead : List Demand} {s : Search} {d : Demand}

/-- At the start all demands of the selection are ahead. -/
theorem start (c : Catalogue) (scope : Scope) (selected : List Choice) :
    Ledger c scope selected [] [] (selected.flatMap Choice.demands)
      { selected := selected.map fun n => PackKey.ofPack n.pack } where
  selected_eq := rfl
  demands := by simp
  keys := rfl
  first := by simp
  answered := by simp
  found := rfl
  unavailable := rfl
  origin := by simp
  backlinks := by simp
  reached := by simp

/-- A missing key has been asked for if it has been seen. -/
theorem mem_asked_iff (l : Ledger c scope selected asked seen ahead s) {key : PackKey} :
    key ∈ asked.map Question.key ↔
      key ∈ seen.map Demand.key ∧ scope.lacks (selected.map Choice.key) key = true := by
  rw [l.keys, List.mem_eraseDups, List.mem_filter]

/-- The keys asked for are all different. -/
theorem nodup_asked (l : Ledger c scope selected asked seen ahead s) :
    (asked.map Question.key).Nodup := by
  rw [l.keys]
  exact nodup_eraseDups _

/-- No key is discovered twice. -/
theorem nodup_found (l : Ledger c scope selected asked seen ahead s) :
    (s.found.map Discovery.key).Nodup := by
  rw [l.found]
  exact l.nodup_asked.sublist (List.filter_sublist.map Question.key)

/-- No key is declined twice. -/
theorem nodup_declined (l : Ledger c scope selected asked seen ahead s) :
    ((asked.filter c.declines).map Question.key).Nodup :=
  l.nodup_asked.sublist (List.filter_sublist.map Question.key)

/-- What was answered with a version is discovered. -/
theorem mem_found_of_offers (l : Ledger c scope selected asked seen ahead s) {q : Question}
    (past : q ∈ asked) (offered : c.offers q = true) : q.key ∈ s.found.map Discovery.key := by
  rw [l.found]
  exact List.mem_map_of_mem (List.mem_filter.mpr ⟨past, offered⟩)

/-- What is not discovered was declined. -/
theorem declines_of_not_mem_found (l : Ledger c scope selected asked seen ahead s) {q : Question}
    (past : q ∈ asked) (undiscovered : q.key ∉ s.found.map Discovery.key) :
    c.declines q = true := by
  rw [l.answered q past, Bool.not_eq_true', Bool.eq_false_iff]
  exact fun offered => undiscovered (l.mem_found_of_offers past offered)

/-- A key that has been asked for was discovered or is not available. -/
theorem mem_asked_iff_found_or_unavailable (l : Ledger c scope selected asked seen ahead s)
    {key : PackKey} :
    key ∈ asked.map Question.key ↔
      key ∈ s.found.map Discovery.key ∨ key ∈ s.unavailable := by
  rw [l.found, l.unavailable]
  constructor
  · intro inside
    obtain ⟨q, asked, rfl⟩ := List.mem_map.mp inside
    cases offered : c.offers q with
    | true => exact .inl (List.mem_map_of_mem (List.mem_filter.mpr ⟨asked, offered⟩))
    | false =>
        have declined : c.declines q = true := by rw [l.answered q asked, offered]; rfl
        exact .inr (List.mem_map_of_mem (List.mem_filter.mpr ⟨asked, declined⟩))
  · rintro (inside | inside) <;>
      exact (List.filter_sublist.map Question.key).subset inside

/-- A search knows about a key that is not missing or that it has asked for. -/
theorem knows_iff (l : Ledger c scope selected asked seen ahead s) {key : PackKey} :
    s.knows scope key = true ↔
      scope.lacks (selected.map Choice.key) key = false ∨ key ∈ asked.map Question.key := by
  rw [l.mem_asked_iff_found_or_unavailable, Search.knows, Bool.or_eq_true, Search.hasFound_iff,
    Search.isSettled, l.selected_eq, Scope.lacks]
  simp only [Bool.or_eq_true, List.contains_iff_mem, Bool.and_eq_false_iff, Bool.not_eq_false']
  tauto

/-- An unknown key is missing and has never been seen. -/
theorem not_seen_of_unknown (l : Ledger c scope selected asked seen ahead s) {key : PackKey}
    (unknown : s.knows scope key = false) :
    scope.lacks (selected.map Choice.key) key = true ∧ key ∉ asked.map Question.key ∧
      key ∉ seen.map Demand.key := by
  have neither : ¬(scope.lacks (selected.map Choice.key) key = false ∨
      key ∈ asked.map Question.key) := by
    rw [← l.knows_iff, unknown]
    exact Bool.false_ne_true
  obtain ⟨lacked, fresh⟩ := not_or.mp neither
  have missing := Bool.not_eq_false _ |>.mp lacked
  refine ⟨missing, fresh, fun inside => fresh ?_⟩
  exact l.mem_asked_iff.mpr ⟨inside, missing⟩

/-- Every demand of a choice that takes part is reached from the selection. -/
theorem reached_of_mem (l : Ledger c scope selected asked seen ahead s)
    (inside : d ∈ seen ++ ahead) : Reached selected s.found d.key := by
  rw [l.demands, List.mem_append, List.mem_flatMap, List.mem_flatMap] at inside
  obtain ⟨n, chosen, demanded⟩ | ⟨e, discovered, demanded⟩ := inside
  · exact .direct chosen demanded
  · exact .through discovered (l.reached e discovered) demanded

/-- The keys asked for are not added to by a demand whose key is known. -/
theorem keys_of_known (l : Ledger c scope selected asked seen (d :: ahead) s)
    (known : s.knows scope d.key = true) :
    asked.map Question.key = (((seen ++ [d]).map Demand.key).filter
      (scope.lacks (selected.map Choice.key))).eraseDups := by
  rw [List.map_append, List.filter_append, List.map_singleton]
  obtain present | repeated := l.knows_iff.mp known
  · rw [List.filter_cons_of_neg (by simp [present]), List.filter_nil, List.append_nil]
    exact l.keys
  · obtain ⟨occurred, missing⟩ := l.mem_asked_iff.mp repeated
    have old : ((seen.map Demand.key).filter (scope.lacks (selected.map Choice.key))).contains
        d.key = true := by
      rw [List.contains_iff_mem]
      exact List.mem_filter.mpr ⟨occurred, missing⟩
    rw [List.filter_cons_of_pos missing, List.filter_nil, eraseDups_concat, if_pos old]
    exact l.keys

/-- A demand about which nothing has to be asked joins the seen ones. -/
theorem pass (l : Ledger c scope selected asked seen (d :: ahead) s)
    (known : s.knows scope d.key = true) :
    Ledger c scope selected asked (seen ++ [d]) ahead (s.pass d) where
  selected_eq := by rw [Search.selected_pass, l.selected_eq]
  demands := by
    rw [Search.demands_found_pass, ← l.demands, List.append_assoc, List.singleton_append]
  keys := l.keys_of_known known
  first q past := Demand.first?_append (l.first q past) [d]
  answered := l.answered
  found := by rw [Search.keys_found_pass, l.found]
  unavailable := by rw [Search.unavailable_pass, l.unavailable]
  origin := by
    intro e inside
    rw [Search.found_pass] at inside
    obtain ⟨before, found, rfl⟩ := List.mem_map.mp inside
    obtain ⟨q, past, answers⟩ := l.origin before found
    refine ⟨q, past, ?_⟩
    split
    · exact answers.link _
    · exact answers
  backlinks := by
    intro e inside
    rw [Search.found_pass] at inside
    obtain ⟨before, found, rfl⟩ := List.mem_map.mp inside
    have recorded := l.backlinks before found
    by_cases same : before.key = d.key
    · rw [if_pos same, Discovery.version_link, Discovery.key_link, Demand.requirers_append, same,
        Demand.requirers_singleton_self]
      rw [same] at recorded
      exact Version.requiredBy_link_of_eraseDups recorded _
    · rw [if_neg same, Demand.requirers_append,
        Demand.requirers_singleton_of_ne (Ne.symm same), List.append_nil]
      exact recorded
  reached := by
    intro e inside
    rw [Search.found_pass] at inside ⊢
    obtain ⟨before, found, rfl⟩ := List.mem_map.mp inside
    have chain := l.reached before found
    have sameKey : (if before.key = d.key then before.link d.requirer.addonId else before).key =
        before.key := by
      split <;> rfl
    rw [sameKey]
    refine chain.mono fun e' inside' => ⟨_, List.mem_map_of_mem inside', ?_, ?_⟩
    · split <;> rfl
    · split <;> simp

/-- With nothing ahead, the seen demands are those of the selection and of what was discovered. -/
theorem seen_eq (l : Ledger c scope selected asked seen [] s) :
    seen = (selected ++ s.closure.dependencies).flatMap Choice.demands := by
  rw [← List.append_nil seen, l.demands, List.flatMap_append, Search.closure, List.flatMap_map]

end Ledger

end AddonPicker
