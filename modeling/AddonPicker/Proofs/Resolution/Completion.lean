import AddonPicker.Proofs.Resolution.Outcome
import Mathlib.Data.List.Perm.Subperm

/-!
# When a resolution comes to a closure

A resolution that comes to a closure has had every demand settled that it asked about. Conversely,
a resolution comes to a closure if whatever it may have to ask about settles and there are only so
many keys to ask for, since no key is asked for twice.
-/

namespace AddonPicker

namespace Progress

variable {c : Catalogue} {scope : Scope} {selected : List Choice} {asked : List Question}

/-- A search has had every demand settled that it asked about, and asks served catalogues only. -/
def Settled (c : Catalogue) (scope : Scope) (asked : List Question) : Progress → Prop
  | .finished _ => ∀ q ∈ asked, c.Settles scope q.demand
  | .failed _ => True
  | .asking q => (∀ q' ∈ asked, c.Settles scope q'.demand) ∧
      scope.serves q.key.provider = true

theorem settled_of_leads {s : Search} {ahead : List Demand} {p : Progress}
    (leads : Search.Leads scope s ahead p) (settled : ∀ q ∈ asked, c.Settles scope q.demand) :
    p.Settled c scope asked := by
  induction leads with
  | finished s => exact settled
  | passed known rest ih => exact ih
  | asking q unknown served => exact ⟨settled, served⟩
  | failed ds unknown unserved => trivial

/-- A search goes on after a question only if its demand settles. -/
theorem settled_reply {q : Question} (settled : (asking q).Settled c scope asked) :
    (c.reply scope q).Settled c scope (asked ++ [q]) := by
  obtain ⟨before, served⟩ := settled
  have all (settles : c.Settles scope q.demand) :
      ∀ q' ∈ asked ++ [q], c.Settles scope q'.demand := by
    intro q' inside
    rcases List.mem_append.mp inside with past | last
    · exact before q' past
    · rw [List.mem_singleton.mp last]
      exact settles
  have came := c.replies scope q
  generalize c.reply scope q = p at came ⊢
  cases came with
  | failed => trivial
  | declined packed answer worded =>
      have named := Question.exists_readable_of_warning worded
      exact settled_of_leads (Search.leads_proceed ..)
        (all ⟨served, ⟨_, packed⟩, .inr ⟨answer, named⟩⟩)
  | offered packed answer =>
      exact settled_of_leads (Search.leads_proceed ..)
        (all ⟨served, ⟨_, packed⟩, .inl ⟨_, answer⟩⟩)

end Progress

namespace Catalogue

variable {c : Catalogue} {scope : Scope} {selected : List Choice} {asked : List Question}
variable {keys : List PackKey}

/-- A resolution that comes to a closure has had every demand settled that it asked about. -/
theorem settles_of_resolve {fuel : Nat} {closure : Closure}
    (ended : (c.resolve scope fuel selected).outcome = some (.ok closure)) :
    ∀ q ∈ (c.resolve scope fuel selected).questions, c.Settles scope q.demand := by
  have start : (Search.start scope selected).Settled c scope [] :=
    Progress.settled_of_leads (Search.leads_walk selected _)
      fun _ none_ => absurd none_ List.not_mem_nil
  have settled : Progress.Settled c scope ([] ++ (c.resolve scope fuel selected).questions)
      (.finished closure) :=
    resolveFrom_induction (fun _ _ => Progress.settled_reply) start ended
  exact settled

/-- Whatever a search of a selection may have to ask about settles, and has one of some keys. -/
def Carries (c : Catalogue) (scope : Scope) (selected : List Choice) (keys : List PackKey) :
    Prop :=
  ∀ asked seen d ahead s, Ledger c scope selected asked seen (d :: ahead) s →
    s.knows scope d.key = false → c.Settles scope d ∧ d.key ∈ keys

/-- Up to the next question, a search that is carried does not fail. -/
theorem Carries.ne_failed_of_leads (carries : c.Carries scope selected keys) {s : Search}
    {seen ahead : List Demand} {p : Progress} (leads : Search.Leads scope s ahead p)
    (l : Ledger c scope selected asked seen ahead s) (f : Fault) : p ≠ .failed f := by
  induction leads generalizing seen with
  | finished s => exact Progress.noConfusion
  | passed known rest ih => exact ih (l.pass known)
  | asking q unknown served => exact Progress.noConfusion
  | failed ds unknown unserved =>
      have served := (carries _ _ _ _ _ l unknown).1.served
      exact absurd (unserved.symm.trans served) Bool.false_ne_true

/-- Nor does it fail for the reply to a question. -/
theorem Carries.ne_failed_of_reply (carries : c.Carries scope selected keys) {q : Question}
    (tracked : (Progress.asking q).Tracked c scope selected asked) (f : Fault) :
    c.reply scope q ≠ .failed f := by
  obtain ⟨unknown, seen, l⟩ := tracked
  have came := c.replies scope q
  generalize c.reply scope q = p at came ⊢
  cases came with
  | failed unsettled => exact absurd (carries _ _ _ _ _ l unknown).1 unsettled
  | declined _ answer _ =>
      exact carries.ne_failed_of_leads (Search.leads_proceed ..) (l.decline unknown answer _) f
  | offered packed answer =>
      have next := l.offer unknown packed answer rfl
      rw [← q.agenda_append_demands] at next
      exact carries.ne_failed_of_leads (Search.leads_proceed ..) next f

/-- There is room for one more question among the keys that are left. -/
theorem Carries.length_lt (carries : c.Carries scope selected keys) {q : Question}
    (tracked : (Progress.asking q).Tracked c scope selected asked)
    (inside : asked.map Question.key ⊆ keys) : asked.length < keys.length := by
  obtain ⟨unknown, seen, l⟩ := tracked
  have distinct : ((asked ++ [q]).map Question.key).Nodup := by
    rw [l.keys_of_unknown unknown]
    exact nodup_eraseDups _
  have within : (asked ++ [q]).map Question.key ⊆ keys := by
    rw [List.map_append]
    refine List.append_subset.mpr ⟨inside, List.cons_subset.mpr ⟨?_, List.nil_subset _⟩⟩
    exact (carries _ _ _ _ _ l unknown).2
  have length := (distinct.subperm within).length_le
  rwa [List.length_map, List.length_append] at length

/-- A search that is carried comes to a closure within as many questions as there are keys left. -/
theorem Carries.exists_closure_from (carries : c.Carries scope selected keys) {fuel : Nat}
    {p : Progress} (tracked : p.Tracked c scope selected asked) (unfailed : ∀ f, p ≠ .failed f)
    (inside : asked.map Question.key ⊆ keys) (room : keys.length ≤ asked.length + fuel) :
    ∃ closure, (c.resolveFrom scope fuel p).outcome = some (.ok closure) := by
  induction fuel generalizing p asked with
  | zero =>
      cases p with
      | finished closure => exact ⟨closure, rfl⟩
      | failed f => exact absurd rfl (unfailed f)
      | asking q =>
          have left := carries.length_lt tracked inside
          omega
  | succ fuel ih =>
      cases p with
      | finished closure => exact ⟨closure, rfl⟩
      | failed f => exact absurd rfl (unfailed f)
      | asking q =>
          obtain ⟨unknown, seen, l⟩ := tracked
          have next : (asked ++ [q]).map Question.key ⊆ keys := by
            rw [List.map_append]
            refine List.append_subset.mpr ⟨inside, List.cons_subset.mpr ⟨?_, List.nil_subset _⟩⟩
            exact (carries _ _ _ _ _ l unknown).2
          have room' : keys.length ≤ (asked ++ [q]).length + fuel := by
            rw [List.length_append, List.length_singleton]
            omega
          exact ih (Progress.tracked_reply ⟨unknown, seen, l⟩)
            (carries.ne_failed_of_reply ⟨unknown, seen, l⟩) next room'

/-- A resolution that is carried comes to a closure, if there is a question for every key. -/
theorem Carries.exists_closure (carries : c.Carries scope selected keys) {fuel : Nat}
    (enough : keys.length ≤ fuel) :
    ∃ closure, (c.resolve scope fuel selected).outcome = some (.ok closure) := by
  have unfailed := carries.ne_failed_of_leads (Search.leads_walk selected _)
    (Ledger.start c scope selected)
  exact carries.exists_closure_from Progress.tracked_start unfailed (List.nil_subset _)
    (Nat.le_trans enough (Nat.le_add_left _ _))

end Catalogue

end AddonPicker
