import AddonPicker.Proofs.Resolution.Outcome

/-!
# The distance from a selection

The queue of a search is first in, first out, so what is asked for first is no farther from the
selection than what is asked for later. This shows in the order of the keys alone: they are the
first occurrences among the demands of all choices, and the demands of a choice come before those of
the choices discovered after it.
-/

namespace AddonPicker

/-- Of two first occurrences, the one that comes first is found wherever the other one is. -/
theorem mem_of_eraseDups_sublist {α : Type} [BEq α] [LawfulBEq α] {xs ys : List α} {a b : α}
    (order : List.Sublist [a, b] (xs ++ ys).eraseDups) (seen : b ∈ xs) : a ∈ xs := by
  have distinct := nodup_eraseDups (xs ++ ys)
  rw [List.eraseDups_append] at order distinct
  have later : b ∉ (ys.removeAll xs).eraseDups := by
    intro again
    simp [List.removeAll, seen] at again
  obtain ⟨first, second, split, inFirst, inSecond⟩ := List.sublist_append_iff.mp order
  match first, split with
  | [], split =>
      rw [List.nil_append] at split
      exact absurd (inSecond.subset (split ▸ by simp)) later
  | x :: rest, split =>
      obtain ⟨rfl, -⟩ := List.cons.inj split
      exact List.mem_eraseDups.mp (inFirst.subset List.mem_cons_self)

/-- A key that is reached from selected choices by a chain of so many demands. -/
inductive ReachedIn (selected : List Choice) (found : List Discovery) : Nat → PackKey → Prop
  | direct {n : Choice} {d : Demand} (chosen : n ∈ selected) (demanded : d ∈ n.demands) :
      ReachedIn selected found 1 d.key
  | through {steps : Nat} {e : Discovery} {d : Demand} (discovered : e ∈ found)
      (before : ReachedIn selected found steps e.key) (demanded : d ∈ e.choice.demands) :
      ReachedIn selected found (steps + 1) d.key

/-- Every chain of demands has a length. -/
theorem Reached.exists_steps {selected : List Choice} {found : List Discovery} {key : PackKey}
    (reached : Reached selected found key) : ∃ steps, ReachedIn selected found steps key := by
  induction reached with
  | direct chosen demanded => exact ⟨1, .direct chosen demanded⟩
  | through discovered _ demanded ih =>
      obtain ⟨steps, before⟩ := ih
      exact ⟨steps + 1, .through discovered before demanded⟩

namespace Ledger

variable {c : Catalogue} {scope : Scope} {selected : List Choice} {asked : List Question}
variable {seen : List Demand} {s : Search}

/-- A key that is asked for before another one is demanded by the selection and the first
discoveries if the other one is. -/
theorem mem_demands_of_before (l : Ledger c scope selected asked seen [] s) {key key' : PackKey}
    (order : List.Sublist [key, key'] (asked.map Question.key)) {first later : List Demand}
    (split : seen = first ++ later) (demanded : key' ∈ first.map Demand.key) :
    ∃ d ∈ first, d.key = key := by
  have missing : scope.lacks (selected.map Choice.key) key' = true :=
    (l.mem_asked_iff.mp (order.subset (by simp))).2
  rw [l.keys, split, List.map_append, List.filter_append] at order
  have inside := mem_of_eraseDups_sublist order (List.mem_filter.mpr ⟨demanded, missing⟩)
  exact List.mem_map.mp (List.mem_filter.mp inside).1

/-- What is asked for before a key has a chain that is no longer. -/
theorem reachedIn_of_before (l : Ledger c scope selected asked seen [] s) {steps : Nat}
    {key key' : PackKey} (reached : ReachedIn selected s.found steps key')
    (order : List.Sublist [key, key'] (asked.map Question.key)) :
    ∃ fewer ≤ steps, ReachedIn selected s.found fewer key := by
  have all : seen = selected.flatMap Choice.demands ++ s.found.flatMap (·.choice.demands) := by
    simpa using l.demands
  induction reached generalizing key with
  | @direct n d chosen demanded =>
      have first : d.key ∈ (selected.flatMap Choice.demands).map Demand.key :=
        List.mem_map_of_mem (List.mem_flatMap.mpr ⟨n, chosen, demanded⟩)
      obtain ⟨d', inside, rfl⟩ := l.mem_demands_of_before order all first
      obtain ⟨n', chosen', demanded'⟩ := List.mem_flatMap.mp inside
      exact ⟨1, Nat.le_refl 1, .direct chosen' demanded'⟩
  | @through steps e d discovered before demanded ih =>
      obtain ⟨earlier, after, found⟩ := List.append_of_mem discovered
      have split : seen = (selected.flatMap Choice.demands ++
          (earlier ++ [e]).flatMap (·.choice.demands)) ++ after.flatMap (·.choice.demands) := by
        rw [all, found]
        simp
      have first : d.key ∈ (selected.flatMap Choice.demands ++
          (earlier ++ [e]).flatMap (·.choice.demands)).map Demand.key :=
        List.mem_map_of_mem (List.mem_append_right _
          (List.mem_flatMap.mpr ⟨e, by simp, demanded⟩))
      obtain ⟨d', inside, rfl⟩ := l.mem_demands_of_before order split first
      rcases List.mem_append.mp inside with direct | through
      · obtain ⟨n', chosen', demanded'⟩ := List.mem_flatMap.mp direct
        exact ⟨1, by omega, .direct chosen' demanded'⟩
      · obtain ⟨e', among, demanded'⟩ := List.mem_flatMap.mp through
        rcases List.mem_append.mp among with sooner | last
        · -- The choice that demands it was itself asked for before, so the chain to it is shorter.
          have pair : List.Sublist [e', e] s.found := by
            rw [found]
            exact (List.singleton_sublist.mpr sooner).append
              (List.singleton_sublist.mpr List.mem_cons_self)
          have asked' : List.Sublist [e'.key, e.key] (asked.map Question.key) := by
            have kept := pair.map Discovery.key
            rw [l.found] at kept
            exact kept.trans (List.filter_sublist.map _)
          obtain ⟨fewer, less, reached'⟩ := ih asked'
          have known : e' ∈ s.found := pair.subset List.mem_cons_self
          exact ⟨fewer + 1, by omega, .through known reached' demanded'⟩
        · rw [List.mem_singleton.mp last] at demanded'
          exact ⟨steps + 1, Nat.le_refl _, .through discovered before demanded'⟩

/-- Discoveries are reached, and no one is farther away than those that come after it. -/
theorem pairwise_reachedIn (l : Ledger c scope selected asked seen [] s) :
    (∀ e ∈ s.found, ∃ steps, ReachedIn selected s.found steps e.key) ∧
      s.found.Pairwise fun e e' => ∀ steps, ReachedIn selected s.found steps e'.key →
        ∃ fewer ≤ steps, ReachedIn selected s.found fewer e.key := by
  refine ⟨fun e found => (l.reached e found).exists_steps, ?_⟩
  refine List.pairwise_iff_forall_sublist.mpr fun {e e'} pair steps reached => ?_
  have kept := pair.map Discovery.key
  rw [l.found] at kept
  exact l.reachedIn_of_before reached (kept.trans (List.filter_sublist.map _))

end Ledger

end AddonPicker
